/-
  Intake.Proofs.Database.Served — what a session sends to its server.

  A request becomes one statement or none, but a table takes up to three: it is made, described, and
  looked up. Each is sent only after the ones before it succeeded, and none with a name that cannot be
  quoted.

  Proved:
  - `createTable_runs`: what is sent to make a table.
  - `session_carries`: what is sent for each request.
  - `Serves.within`: no request begins or ends a transaction.
-/

import Intake.Proofs.Database.Parallel
import Intake.Proofs.Database.Statements

namespace Intake.Database

/-- What a server is given, and its answer. -/
inductive Message where
  | ran (s : Statement) (answer : Except Error (List (Option String)))
  | copyIn (s : Statement) (answer : Except Error Unit)
  | write (bytes : List UInt8) (answer : Except String Unit)
  | flush (answer : Except String Unit)
  | finish (answer : Except Error Nat)

def Message.text? : Message → Option String
  | ran s _ => some s.text
  | copyIn s _ => some s.text
  | write .. => none
  | flush .. => none
  | finish .. => none

/-- Whether it is a statement of this text that succeeded. -/
def Message.succeeds (text : String) : Message → Bool
  | ran s (.ok _) => s.text = text
  | _ => false

theorem Message.text?_of_succeeds {text : String} {x : Message} (h : x.succeeds text = true) :
    x.text? = some text := by
  cases x with
  | ran s answer =>
    cases answer with
    | ok rows => exact congrArg some (of_decide_eq_true h)
    | error e => cases h
  | copyIn s answer => cases h
  | write bytes answer => cases h
  | flush answer => cases h
  | finish answer => cases h

variable {σ : Type}

def Server.traced (server : Server σ) : Server (Traced σ Message) where
  run := fun s => noted (server.run s) (.ran s)
  copyIn := fun s => noted (server.copyIn s) (.copyIn s)
  write := fun bytes => noted (server.write bytes) (.write bytes)
  flush := noted server.flush .flush
  finish := noted server.finish .finish

/-! ## Statements -/

/-- How the running of a statement ends, and what is sent. -/
inductive Ran (s : Statement) : Except Error (List (Option String)) → List Message → Prop
  | unsent (h : Session.sendable s = false) : Ran s (.error Session.notSendable) []
  | sent (answer : Except Error (List (Option String))) : Ran s answer [.ran s answer]

/-- How it ends where one row is expected. -/
inductive RanOne (s : Statement) : Except Error (Option String) → List Message → Prop
  | failed (e : Error) (log : List Message) (h : Ran s (.error e) log) : RanOne s (.error e) log
  | row (row : Option String) : RanOne s (.ok row) [.ran s (.ok [row])]
  | rows (rows : List (Option String)) (h : rows.length ≠ 1) :
      RanOne s (.error Session.notOneRow) [.ran s (.ok rows)]

theorem run_runs (server : Server σ) (s : Statement) :
    Runs (Session.run server s).run (Session.run server.traced s).run (Ran s) := by
  unfold Session.run
  by_cases h : Session.sendable s = true
  · rw [if_pos h, if_pos h]
    exact runs_noted fun answer => .sent answer
  · rw [if_neg h, if_neg h]
    exact runs_pure (.unsent (Bool.eq_false_iff.mpr h))

theorem runOne_runs (server : Server σ) (s : Statement) :
    Runs (Session.runOne server s).run (Session.runOne server.traced s).run (RanOne s) := by
  refine (run_runs server s).bind (fun e log h => .failed e log h) fun rows log h => ?_
  cases h
  match rows with
  | [row] => exact runs_pure (.row row)
  | [] => exact runs_pure (.rows [] (by simp))
  | row :: row' :: rows => exact runs_pure (.rows (row :: row' :: rows) (by simp))

theorem runs_statement {α : Type} {x : Except Sql.IdentifierError Statement}
    {f : Statement → Session.Exchange σ α} {g : Statement → Session.Exchange (Traced σ Message) α}
    {Q : Except Error α → List Message → Prop}
    (hfail : ∀ e, x = .error e → Q (.error (.ofMessage e.message)) [])
    (hnext : ∀ s, x = .ok s → Runs (f s).run (g s).run Q) :
    Runs (Session.statement x >>= f).run (Session.statement x >>= g).run Q := by
  refine runs_settled ?_ fun s hs => hnext s (mapError_ok_iff.mp hs)
  intro e he
  obtain ⟨e', hx, rfl⟩ := mapError_error_iff.mp he
  exact hfail e' hx

/-! ## Tables -/

/-- What was sent for a table that is made and described, all of it with success. -/
inductive Described (t : NewTable) : List Message → Prop
  | bare (create : Statement) (rows : List (Option String)) (hcreate : Statement.create t = .ok create)
      (hcomment : t.comment = none) : Described t [.ran create (.ok rows)]
  | commented (create comment : Statement) (text : String) (rows more : List (Option String))
      (hcreate : Statement.create t = .ok create) (hgiven : t.comment = some text)
      (hcomment : Statement.comment t text = .ok comment) :
      Described t [.ran create (.ok rows), .ran comment (.ok more)]

inductive Creates (t : NewTable) : Except Error Table → List Message → Prop
  | unnamed (e : Sql.IdentifierError) (hcreate : Statement.create t = .error e) :
      Creates t (.error (.ofMessage e.message)) []
  | uncreated (create : Statement) (e : Error) (log : List Message) (hcreate : Statement.create t = .ok create)
      (hran : Ran create (.error e) log) : Creates t (.error e) log
  | uncommented (create comment : Statement) (text : String) (rows : List (Option String)) (e : Error)
      (log : List Message) (hcreate : Statement.create t = .ok create) (hgiven : t.comment = some text)
      (hcomment : Statement.comment t text = .ok comment) (hran : Ran comment (.error e) log) :
      Creates t (.error e) (.ran create (.ok rows) :: log)
  | unfound (find : Statement) (e : Error) (made log : List Message) (hmade : Described t made)
      (hfind : Statement.tableOid t = .ok find) (hran : RanOne find (.error e) log) :
      Creates t (.error e) (made ++ log)
  /-- What was found is no number. -/
  | unnumbered (find : Statement) (row : Option String) (made : List Message) (hmade : Described t made)
      (hfind : Statement.tableOid t = .ok find) (hrow : row.bind Session.number? = none) :
      Creates t (.error Session.notNumber) (made ++ [.ran find (.ok [row])])
  | created (find : Statement) (row : Option String) (oid : Nat) (made : List Message) (hmade : Described t made)
      (hfind : Statement.tableOid t = .ok find) (hrow : row.bind Session.number? = some oid) :
      Creates t (.ok ⟨oid, t.schema, t.name⟩) (made ++ [.ran find (.ok [row])])

theorem find_runs (server : Server σ) {t : NewTable} {create : Statement} {made : List Message}
    (hcreate : Statement.create t = .ok create) (hmade : Described t made) :
    Runs (do
        let find ← Session.statement (Statement.tableOid t)
        match (← Session.runOne server find).bind Session.number? with
        | some oid => return ⟨oid, t.schema, t.name⟩
        | none => throw Session.notNumber : Session.Exchange σ Table).run
      (do
        let find ← Session.statement (Statement.tableOid t)
        match (← Session.runOne server.traced find).bind Session.number? with
        | some oid => return ⟨oid, t.schema, t.name⟩
        | none => throw Session.notNumber : Session.Exchange (Traced σ Message) Table).run
      fun r log => Creates t r (made ++ log) := by
  have hnames := (Statement.create_ok_iff.mp hcreate).1
  refine runs_statement ?_ fun find hfind => ?_
  · intro e he
    rw [Statement.tableOid_ok_iff.mpr ⟨hnames, rfl⟩] at he
    cases he
  · refine (runOne_runs server find).bind (fun e log h => .unfound find e made log hmade hfind h) ?_
    intro row log h
    cases h
    cases hrow : row.bind Session.number? with
    | some oid => exact runs_pure (.created find row oid made hmade hfind hrow)
    | none => exact runs_pure (.unnumbered find row made hmade hfind hrow)

theorem createTable_runs (server : Server σ) (t : NewTable) :
    Runs (Session.createTable server t).run (Session.createTable server.traced t).run (Creates t) := by
  unfold Session.createTable
  refine runs_statement (fun e he => .unnamed e he) fun create hcreate => ?_
  have hnames := (Statement.create_ok_iff.mp hcreate).1
  refine (run_runs server create).bind (fun e log h => .uncreated create e log hcreate h) fun rows log h => ?_
  cases h
  cases hcomment : t.comment with
  | none => exact find_runs server hcreate (.bare create rows hcreate hcomment)
  | some text =>
    refine runs_statement ?_ fun comment hstatement => ?_
    · intro e he
      rw [Statement.comment_ok_iff.mpr ⟨hnames, rfl⟩] at he
      cases he
    · refine (run_runs server comment).bind ?_ fun more log h => ?_
      · intro e log h
        exact .uncommented create comment text rows e log hcreate hcomment hstatement h
      · cases h
        exact find_runs server hcreate (.commented create comment text rows more hcreate hcomment hstatement)

/-! ## Requests -/

/-- What a session sends for a request with an answer. -/
inductive Serves (procedures : String) : Exchange → List Message → Prop
  | unnamed (name : String) (args : List Argument) (e : Sql.IdentifierError)
      (hcall : Statement.call procedures name args = .error e) :
      Serves procedures (.call name args (.error (.ofMessage e.message))) []
  | call (name : String) (args : List Argument) (call : Statement) (answer : Except Error (Option String))
      (log : List Message) (hcall : Statement.call procedures name args = .ok call) (hran : RanOne call answer log) :
      Serves procedures (.call name args answer) log
  | createTable (t : NewTable) (answer : Except Error Table) (log : List Message) (hcreates : Creates t answer log) :
      Serves procedures (.createTable t answer) log
  | unopened (command : String) (h : Session.sendable (.copy command) = false) :
      Serves procedures (.copyIn command (.error Session.notSendable)) []
  | copyIn (command : String) (answer : Except Error Unit) :
      Serves procedures (.copyIn command answer) [.copyIn (.copy command) answer]
  | write (bytes : List UInt8) (answer : Except String Unit) :
      Serves procedures (.write bytes answer) [.write bytes answer]
  | flush (answer : Except String Unit) : Serves procedures (.flush answer) [.flush answer]
  | finish (answer : Except Error Nat) : Serves procedures (.finish answer) [.finish answer]

theorem session_carries (server : Server σ) (procedures : String) :
    Carries (Serves procedures) (Session.database server procedures)
      (Session.database server.traced procedures) where
  call := by
    intro name args
    refine runs_statement (fun e he => .unnamed name args e he) fun call hcall => ?_
    exact (runOne_runs server call).mono fun answer log h => .call name args call answer log hcall h
  createTable := by
    intro t
    exact (createTable_runs server t).mono fun answer log h => .createTable t answer log h
  copyIn := by
    intro command
    simp only [Session.database]
    by_cases h : Session.sendable (.copy command) = true
    · rw [if_pos h, if_pos h]
      exact runs_noted fun answer => .copyIn command answer
    · rw [if_neg h, if_neg h]
      exact runs_pure (.unopened command (Bool.eq_false_iff.mpr h))
  write := fun bytes => runs_noted fun answer => .write bytes answer
  flush := runs_noted fun answer => .flush answer
  finish := runs_noted fun answer => .finish answer

/-! ## Requests within a transaction -/

/-- What neither begins nor ends a transaction. -/
def Message.Within (x : Message) : Prop := ∀ text ∈ x.text?, text ∉ Statement.bounds

/-- A statement that was run and is not for the transaction. -/
def Message.Plain (x : Message) : Prop := ∃ s answer, x = .ran s answer ∧ s.text ∉ Statement.bounds

theorem Message.Plain.within {x : Message} (h : x.Plain) : x.Within := by
  obtain ⟨s, answer, rfl, hs⟩ := h
  simpa [Within, text?] using hs

theorem Ran.plain {s : Statement} {answer : Except Error (List (Option String))} {log : List Message}
    (h : Ran s answer log) (hs : s.text ∉ Statement.bounds) : ∀ x ∈ log, x.Plain := by
  cases h with
  | unsent _ => simp
  | sent answer => simp [Message.Plain, hs]

theorem RanOne.plain {s : Statement} {answer : Except Error (Option String)} {log : List Message}
    (h : RanOne s answer log) (hs : s.text ∉ Statement.bounds) : ∀ x ∈ log, x.Plain := by
  cases h with
  | failed e log h => exact h.plain hs
  | row row => exact (Ran.sent _).plain hs
  | rows rows _ => exact (Ran.sent _).plain hs

theorem Described.plain {t : NewTable} {log : List Message} (h : Described t log) : ∀ x ∈ log, x.Plain := by
  cases h with
  | bare create rows hcreate _ => exact (Ran.sent _).plain (Statement.create_not_bound hcreate)
  | commented create comment text rows more hcreate _ hcomment =>
    rw [List.forall_mem_cons]
    exact ⟨(Ran.sent _).plain (Statement.create_not_bound hcreate) _ List.mem_cons_self,
      (Ran.sent _).plain (Statement.comment_not_bound hcomment)⟩

theorem Creates.plain {t : NewTable} {answer : Except Error Table} {log : List Message} (h : Creates t answer log) :
    ∀ x ∈ log, x.Plain := by
  cases h with
  | unnamed e _ => simp
  | uncreated create e log hcreate hran => exact hran.plain (Statement.create_not_bound hcreate)
  | uncommented create comment text rows e log hcreate _ hcomment hran =>
    rw [List.forall_mem_cons]
    exact ⟨(Ran.sent _).plain (Statement.create_not_bound hcreate) _ List.mem_cons_self,
      hran.plain (Statement.comment_not_bound hcomment)⟩
  | unfound find e made log hmade hfind hran =>
    rw [List.forall_mem_append]
    exact ⟨hmade.plain, hran.plain (Statement.tableOid_not_bound hfind)⟩
  | unnumbered find row made hmade hfind _ =>
    rw [List.forall_mem_append]
    exact ⟨hmade.plain, (Ran.sent _).plain (Statement.tableOid_not_bound hfind)⟩
  | created find row oid made hmade hfind _ =>
    rw [List.forall_mem_append]
    exact ⟨hmade.plain, (Ran.sent _).plain (Statement.tableOid_not_bound hfind)⟩

/-- The command that opens a load is the only text that a request brings along. -/
theorem Serves.within {procedures : String} {x : Exchange} {log : List Message} (h : Serves procedures x log)
    (hcommand : ∀ command answer, x = .copyIn command answer → command ∉ Statement.bounds) :
    ∀ y ∈ log, y.Within := by
  cases h with
  | unnamed name args e _ => simp
  | call name args call answer log hcall hran =>
    exact fun y hy => (hran.plain (Statement.call_not_bound hcall) y hy).within
  | createTable t answer log hcreates => exact fun y hy => (hcreates.plain y hy).within
  | unopened command _ => simp
  | copyIn command answer => simpa [Message.Within, Message.text?, Statement.copy] using hcommand command answer rfl
  | write bytes answer => simp [Message.Within, Message.text?]
  | flush answer => simp [Message.Within, Message.text?]
  | finish answer => simp [Message.Within, Message.text?]

theorem Serves.finish_mem {procedures : String} {x : Exchange} {log : List Message} {answer : Except Error Nat}
    (h : Serves procedures x log) (hmem : .finish answer ∈ log) : x = .finish answer := by
  cases h with
  | unnamed name args e _ => simp at hmem
  | call name args call answer' log hcall hran =>
    obtain ⟨s, ran, hfinish, -⟩ := hran.plain (Statement.call_not_bound hcall) _ hmem
    cases hfinish
  | createTable t answer' log hcreates =>
    obtain ⟨s, ran, hfinish, -⟩ := hcreates.plain _ hmem
    cases hfinish
  | unopened command _ => simp at hmem
  | copyIn command answer' => simp at hmem
  | write bytes answer' => simp at hmem
  | flush answer' => simp at hmem
  | finish answer' => simpa [eq_comm] using hmem

end Intake.Database
