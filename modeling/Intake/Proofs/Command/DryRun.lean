/-
  Intake.Proofs.Command.DryRun — what a dry run says of the run it stands for.

  A dry run does not turn to the database, but it is to show what would be sent, or why nothing would. With a
  server that carries out every change, a run depends on its input alone, so the two can be compared.

  Proved:
  - `send_willing`, `alterColumn_willing`, `updateColumns_willing`: with such a server an alteration comes to
    what its input comes to.
  - `mapM_canonical`, `normalizeFrom_faulty`: items tried by themselves come to what items with their numbers come
    to, but only with their numbers they tell which item it is that fails.
  - `dry_run_reports`: so the change of one column is reported alike, and changes of several are, unless an
    item comes to no change: then the dry run leaves out the number of the item.
-/

import Intake.Command.Run
import Intake.Database.Replies
import Intake.Proofs.Alteration.Batch
import Intake.Proofs.Charset.Excerpt
import Intake.Proofs.Database.Readings

namespace Intake

variable {σ ε α β : Type}

namespace Alteration

/-! ## A database that carries out every change -/

/-- From the first of these states to the second the database carries out changes of a table. -/
def CarriesOut (db : Database σ) (table : Nat) (cs : List Change) (s t : σ) : Prop :=
  ∃ v, (db.call alterProcedure [.oid table, .jsonb (.array (cs.map Change.payload))]).run s = (.ok v, t)

/-- In this state the database carries out any changes of any table. -/
def Willing (db : Database σ) (s : σ) : Prop := ∀ table cs, ∃ t, CarriesOut db table cs s t

/-- How an alteration ends that is settled by its input. -/
def Settled (db : Database σ) (table : Nat) (changes : β → List Change) (x : Except Invalid β) (s : σ)
    (run : Except Failure β × σ) : Prop :=
  run.1 = x.mapError .invalid ∧ ∀ b, x = .ok b → CarriesOut db table (changes b) s run.2

section

variable {db : Database σ} {s : σ}

theorem send_willing {context : Context} {cs : List Change} {t : σ} (h : CarriesOut db context.table cs s t) :
    (send db context cs).run.run s = (.ok (), t) := by
  obtain ⟨v, hv⟩ := h
  unfold send
  rw [ExceptT.run_mk, StateT.run_bind, hv]
  rfl

theorem checked_willing (h : Willing db s) (x : Except Invalid β) (context : β → Context) (changes : β → List Change)
    {table : Nat} (htable : ∀ b, (context b).table = table) :
    Settled db table changes x s
      ((check x >>= fun b => send db (context b) (changes b) >>= fun _ => pure b).run.run s) := by
  cases x with
  | error e => exact ⟨rfl, nofun⟩
  | ok b =>
    obtain ⟨t, ht⟩ := h table (changes b)
    have hsend : (send db (context b) (changes b)).run.run s = (.ok (), t) := send_willing ((htable b).symm ▸ ht)
    have hrun : (check (.ok b) >>= fun b => send db (context b) (changes b) >>= fun _ => pure b).run.run s =
        (.ok b, t) := (run_bind_ok (s := s) rfl).trans (run_bind_ok hsend)
    rw [hrun]
    refine ⟨rfl, fun b' hb' => ?_⟩
    cases hb'
    exact ht

theorem alterColumn_willing (h : Willing db s) (table : Nat) (attnum : Int) (request : Json) :
    Settled db table (fun c => [c]) (normalize request (some attnum)) s
      ((alterColumn db table attnum request).run.run s) :=
  checked_willing h _ (.single table) (fun c => [c]) fun _ => rfl

/-- The changes of items with the keys of items, or what is wrong with an item and which it is. -/
def accepted (items : List Json) : Except Invalid (List Change) := checkBatch items >>= fun _ => normalizeAll items

theorem updateColumns_willing (h : Willing db s) (table : Nat) (items : List Json) :
    Settled db table id (accepted items) s ((updateColumns db table items).run.run s) := by
  have hrun := checked_willing h (accepted items) (.batch table) id fun _ => rfl
  rw [accepted, check_bind] at hrun
  exact hrun

end

/-! ## Items by themselves and with their numbers -/

theorem normalizeFrom_faulty {before after : List Json} {v : Json} {e : Invalid} (index : Nat)
    (hbefore : ∀ w ∈ before, Normalizes w) (hv : normalize v none = .error e) :
    normalizeFrom index (before ++ v :: after) = .error (.item (index + before.length) e) := by
  induction before generalizing index with
  | nil =>
    rw [List.nil_append, normalizeFrom, hv]
    rfl
  | cons w before ih =>
    obtain ⟨⟨c, hc⟩, hrest⟩ := List.forall_mem_cons.mp hbefore
    rw [List.cons_append, normalizeFrom, hc]
    show (normalizeFrom (index + 1) (before ++ v :: after) >>= _) = _
    rw [ih (index + 1) hrest, List.length_cons, Nat.add_assoc, Nat.add_comm 1]
    rfl

theorem mapM_canonical {items : List Json} {cs : List Change} (h : Canonical items cs) :
    (items.mapM fun item => normalize item none) = .ok cs := by
  induction h with
  | nil => rfl
  | @cons v c items cs hc _ ih =>
    rw [List.mapM_cons, hc]
    show ((items.mapM fun item => normalize item none) >>= fun cs => pure (c :: cs)) = .ok (c :: cs)
    rw [ih]
    rfl

theorem exists_faulty {items : List Json} (h : ¬∀ v ∈ items, Normalizes v) :
    ∃ before v after e, items = before ++ v :: after ∧ (∀ w ∈ before, Normalizes w) ∧ normalize v none = .error e := by
  cases hchanges : normalizeAll items with
  | ok cs => exact absurd (normalizeAll_ok_iff.mp hchanges).normalizes h
  | error e =>
    obtain ⟨before, v, after, hitems, hbefore, e', hv, -⟩ := normalizeFrom_error hchanges
    exact ⟨before, v, after, e', hitems, hbefore, hv⟩

theorem exists_canonical {items : List Json} (h : ∀ v ∈ items, Normalizes v) : ∃ cs, Canonical items cs := by
  cases hchanges : normalizeAll items with
  | ok cs => exact ⟨cs, normalizeAll_ok_iff.mp hchanges⟩
  | error e => exact absurd h ((normalizeFrom_error hchanges).not_all fun _ _ => ItemFault.not_normalizes)

end Alteration

namespace Command

open Alteration (Invalid Change Canonical CarriesOut IsItem Normalizes Settled Willing accepted normalize)
open Database (Argument Server Session.database)
open Storage (Files)

/-! ## A server that carries out every change -/

/-- There is a server for the connection, and in this state it answers every call with a row. -/
structure Environment.Accepts (env : Environment σ) (c : Connection) (s : σ) : Prop where
  reached : ∃ target, c.target = some target ∧ env.reach target = true
  /-- There can be procedures in the schema. -/
  named : Sql.Identifier.check c.procedures = .ok ()
  answers : ∀ name text args, ∃ row t, (env.server.run ⟨.procedure name, text, some args⟩).run s = (.ok [row], t)

section

variable {env : Environment σ} {c : Connection} {s : σ}

theorem Environment.Accepts.call_run (h : env.Accepts c s) {name : String} (hname : Sql.Identifier.check name = .ok ())
    (args : List Argument) :
    ∃ row t, ((Session.database env.server c.procedures).call name args).run s = (.ok row, t) := by
  have hcall : Database.Statement.call c.procedures name args =
      .ok ⟨.procedure name, Database.Statement.callText c.procedures name args, some args⟩ :=
    Database.Statement.call_ok_iff.mpr ⟨⟨h.named, hname⟩, rfl⟩
  obtain ⟨row, t, hrow⟩ := h.answers name (Database.Statement.callText c.procedures name args) args
  have hrun : (Database.Session.run env.server
      ⟨.procedure name, Database.Statement.callText c.procedures name args, some args⟩).run.run s = (.ok [row], t) := by
    unfold Database.Session.run
    rw [if_pos (Database.Statement.call_sendable hcall)]
    exact hrow
  refine ⟨row, t, ?_⟩
  show (Database.Session.statement (Database.Statement.call c.procedures name args) >>= fun call =>
    Database.Session.runOne env.server call).run.run s = _
  rw [hcall]
  exact (run_bind_ok (s := s) rfl).trans (run_bind_ok hrun)

theorem Environment.Accepts.willing (h : env.Accepts c s) : Willing (Session.database env.server c.procedures) s := by
  intro table cs
  have hname : Sql.Identifier.check Alteration.alterProcedure = .ok () := by decide
  obtain ⟨row, t, hrow⟩ := h.call_run hname [.oid table, .jsonb (.array (cs.map Change.payload))]
  exact ⟨t, row, hrow⟩

theorem connect_run {f : Server σ → Task σ α} (h : env.Accepts c s) :
    (connect env c >>= f).run.run s = (f env.server).run.run s := by
  obtain ⟨target, htarget, hreach⟩ := h.reached
  have hconnect : (connect env c).run.run s = (.ok env.server, s) := by
    unfold connect
    rw [htarget]
    show (if env.reach target = true then _ else _ : Task σ (Server σ)).run.run s = _
    rw [if_pos hreach]
    rfl
  exact run_bind_ok hconnect

/-! ## Reports -/

def reportOf (input : Except InputError α) (changes : α → Except Invalid β) (report : β → Json) :
    Except CommandError Json := do
  let a ← input.mapError .input
  let b ← (changes a).mapError fun e => .alteration (.invalid e)
  return report b

theorem reportOf_ok {a : α} {b : β} {changes : α → Except Invalid β} (h : changes a = .ok b) (report : β → Json) :
    reportOf (.ok a) changes report = .ok (report b) :=
  bind_ok_iff.mpr ⟨a, rfl, bind_ok_iff.mpr ⟨b, mapError_ok_iff.mpr h, rfl⟩⟩

theorem reportOf_error {a : α} {e : Invalid} {changes : α → Except Invalid β} (h : changes a = .error e)
    (report : β → Json) : reportOf (.ok a) changes report = .error (.alteration (.invalid e)) :=
  bind_error_iff.mpr (.inr ⟨a, rfl, bind_error_iff.mpr (.inl (mapError_error_iff.mpr ⟨e, h, rfl⟩))⟩)

theorem dry_report (input : Except InputError α) (changes : α → Except Invalid β) (report : β → Json) :
    (Task.check .input input >>= fun a => Task.check (fun e => .alteration (.invalid e)) (changes a) >>= fun b =>
      pure (report b) : Task σ Json).run.run s = (reportOf input changes report, s) := by
  cases input with
  | error e => rfl
  | ok a =>
    refine (run_bind_ok (s := s) rfl).trans ?_
    cases hchanges : changes a with
    | error e =>
      rw [reportOf_error hchanges]
      rfl
    | ok b =>
      rw [reportOf_ok hchanges]
      rfl

theorem real_report (h : env.Accepts c s) (input : Except InputError α) {changes : α → Except Invalid β}
    {table : Nat} {sent : β → List Change} (action : α → Database σ → Alteration.Action σ β) (report : β → Json)
    (hsettled : ∀ a, Settled (Session.database env.server c.procedures) table sent (changes a) s
      ((action a (Session.database env.server c.procedures)).run.run s)) :
    ∃ t, (Task.check .input input >>= fun a => connect env c >>= fun server =>
        Task.lift .alteration (action a (Session.database server c.procedures)).run >>= fun b =>
        pure (report b) : Task σ Json).run.run s = (reportOf input changes report, t) ∧
      ∀ a b, input = .ok a → changes a = .ok b →
        CarriesOut (Session.database env.server c.procedures) table (sent b) s t := by
  cases input with
  | error e => exact ⟨s, rfl, nofun⟩
  | ok a =>
    obtain ⟨hresult, hcarries⟩ := hsettled a
    refine ⟨((action a (Session.database env.server c.procedures)).run.run s).2, ?_, ?_⟩
    · refine (run_bind_ok (s := s) rfl).trans ((connect_run h).trans ?_)
      have hlift : (Task.lift CommandError.alteration
          (action a (Session.database env.server c.procedures)).run).run.run s =
            (((changes a).mapError .invalid).mapError .alteration,
              ((action a (Session.database env.server c.procedures)).run.run s).2) := by
        rw [← hresult]
        rfl
      cases hchanges : changes a with
      | error e =>
        rw [hchanges] at hlift
        rw [reportOf_error hchanges]
        exact run_bind_error hlift
      | ok b =>
        rw [hchanges] at hlift
        rw [reportOf_ok hchanges]
        exact run_bind_ok hlift
    · intro a' b ha hb
      cases ha
      exact hcarries b hb

theorem finish_run {task : Task σ Json} {r : Except CommandError Json} {t : σ} (h : task.run.run s = (r, t)) :
    (finish env task).run s = (finished env.files r, t) := by
  unfold finish
  rw [StateT.run_bind, h]
  rfl

/-! ## The two commands -/

variable [Codecs]

theorem alter_dry_run (table : Nat) (attnum : Int) (request : String) :
    ((Invocation.alter table attnum request true c).run env).run s =
      (finished env.files (reportOf (readJson env.files env.stdin request) (normalize · (some attnum)) Change.report),
        s) :=
  finish_run (dry_report _ _ _)

theorem alter_real_run (h : env.Accepts c s) (table : Nat) (attnum : Int) (request : String) :
    ∃ t, ((Invocation.alter table attnum request false c).run env).run s =
        (finished env.files (reportOf (readJson env.files env.stdin request) (normalize · (some attnum)) Change.report),
          t) ∧
      ∀ v change, readJson env.files env.stdin request = .ok v → normalize v (some attnum) = .ok change →
        CarriesOut (Session.database env.server c.procedures) table [change] s t := by
  obtain ⟨t, hrun, hcarries⟩ := real_report h (readJson env.files env.stdin request)
    (fun v db => Alteration.alterColumn db table attnum v) Change.report fun v =>
      Alteration.alterColumn_willing h.willing table attnum v
  exact ⟨t, finish_run hrun, hcarries⟩

def listed (cs : List Change) : Json := .array (cs.map (·.report))

theorem batchUpdate_dry_run (table : Nat) (request : String) :
    ((Invocation.batchUpdate table request true c).run env).run s =
      (finished env.files (reportOf (readArray env.files env.stdin request) plan listed), s) :=
  finish_run (dry_report _ _ _)

theorem batchUpdate_real_run (h : env.Accepts c s) (table : Nat) (request : String) :
    ∃ t, ((Invocation.batchUpdate table request false c).run env).run s =
        (finished env.files (reportOf (readArray env.files env.stdin request) accepted listed), t) ∧
      ∀ items cs, readArray env.files env.stdin request = .ok items → accepted items = .ok cs →
        CarriesOut (Session.database env.server c.procedures) table cs s t := by
  obtain ⟨t, hrun, hcarries⟩ := real_report h (readArray env.files env.stdin request)
    (fun items db => Alteration.updateColumns db table items) listed fun items =>
      Alteration.updateColumns_willing h.willing table items
  exact ⟨t, finish_run hrun, hcarries⟩

end

/-! ## Dry runs compared -/

section

variable {items : List Json}

theorem checkBatch_ok (h : ∀ v ∈ items, IsItem v) : Alteration.checkBatch items = .ok () :=
  Alteration.checkFrom_ok_iff.mpr h

theorem accepted_canonical {cs : List Change} (hitems : ∀ v ∈ items, IsItem v) (hcs : Canonical items cs) :
    accepted items = .ok cs := by
  rw [accepted, checkBatch_ok hitems]
  exact Alteration.normalizeAll_ok_iff.mpr hcs

theorem plan_canonical {cs : List Change} (hitems : ∀ v ∈ items, IsItem v) (hcs : Canonical items cs) :
    plan items = .ok cs := by
  rw [plan, checkBatch_ok hitems]
  exact Alteration.mapM_canonical hcs

/-- Where no item is at fault but by its keys, nothing tells the two apart. -/
theorem plan_eq_accepted (h : (∀ v ∈ items, IsItem v) → ∀ v ∈ items, Normalizes v) : plan items = accepted items := by
  cases hkeys : Alteration.checkBatch items with
  | error e => rw [plan, accepted, hkeys]; rfl
  | ok u =>
    have hitems : ∀ v ∈ items, IsItem v := Alteration.checkFrom_ok_iff.mp hkeys
    obtain ⟨cs, hcs⟩ := Alteration.exists_canonical (h hitems)
    rw [plan_canonical hitems hcs, accepted_canonical hitems hcs]

end

def Environment.altered [Codecs] (env : Environment σ) (c : Connection) (s : σ) (table : Nat) (attnum : Int) (request : String)
    (dryRun : Bool) : Outcome × σ := ((Invocation.alter table attnum request dryRun c).run env).run s

def Environment.updated [Codecs] (env : Environment σ) (c : Connection) (s : σ) (table : Nat) (request : String)
    (dryRun : Bool) : Outcome × σ := ((Invocation.batchUpdate table request dryRun c).run env).run s

def refusal (files : Files) (detail : String) : Outcome :=
  ⟨1, "", "error: validation_error: Invalid alteration request: " ++ detail ++ "\n", files⟩

theorem finished_invalid (files : Files) (e : Invalid) :
    finished files (.error (.alteration (.invalid e))) = refusal files e.detail := by
  have hwords : "error: validation_error: Invalid alteration request: " =
      "error: " ++ ("validation_error: " ++ "Invalid alteration request: ") := by decide +kernel
  have hline : "error: " ++ ("validation_error: " ++ ("Invalid alteration request: " ++ e.detail)) ++ "\n" =
      "error: validation_error: Invalid alteration request: " ++ e.detail ++ "\n" := by
    simp only [hwords, String.append_assoc]
  exact congrArg (Outcome.mk 1 "" · files) hline

theorem refusal_numbered (files : Files) (detail : String) (i : Nat) :
    refusal files detail ≠ refusal files ("item " ++ toString i ++ ": " ++ detail) := by
  intro h
  have hlength := congrArg (fun o : Outcome => o.stderr.length) h
  simp only [refusal, String.length_append] at hlength
  have hitem : "item ".length = 5 := by decide
  omega

section

variable [Codecs] {env : Environment σ} {c : Connection} {s : σ} {table : Nat} {request : String}

theorem altered_eq (h : env.Accepts c s) (attnum : Int) :
    (env.altered c s table attnum request true).1 = (env.altered c s table attnum request false).1 := by
  obtain ⟨t, hreal, -⟩ := alter_real_run h table attnum request
  rw [Environment.altered, Environment.altered, alter_dry_run, hreal]

theorem altered_ok (h : env.Accepts c s) {attnum : Int} {v : Json} {change : Change}
    (hv : readJson env.files env.stdin request = .ok v) (hchange : normalize v (some attnum) = .ok change) :
    (env.altered c s table attnum request true).1 = finished env.files (.ok change.report) ∧
      CarriesOut (Session.database env.server c.procedures) table [change] s
        (env.altered c s table attnum request false).2 := by
  obtain ⟨t, hreal, hcarries⟩ := alter_real_run h table attnum request
  rw [Environment.altered, Environment.altered, alter_dry_run, hreal]
  refine ⟨?_, hcarries v change hv hchange⟩
  have hreport : reportOf (.ok v) (normalize · (some attnum)) Change.report = .ok change.report := reportOf_ok hchange _
  rw [hv, hreport]

theorem updated_ok (h : env.Accepts c s) {items : List Json} {cs : List Change}
    (hread : readArray env.files env.stdin request = .ok items) (hitems : ∀ v ∈ items, IsItem v)
    (hcs : Canonical items cs) :
    (env.updated c s table request true).1 = finished env.files (.ok (listed cs)) ∧
      CarriesOut (Session.database env.server c.procedures) table cs s (env.updated c s table request false).2 := by
  obtain ⟨t, hreal, hcarries⟩ := batchUpdate_real_run h table request
  rw [Environment.updated, Environment.updated, batchUpdate_dry_run, hreal]
  refine ⟨?_, hcarries items cs hread (accepted_canonical hitems hcs)⟩
  rw [hread, reportOf_ok (plan_canonical hitems hcs)]

/-- The first item that comes to no change is what both tell of, but only one of them which it is. -/
theorem updated_faulty (table : Nat) (h : env.Accepts c s) {before after : List Json} {v : Json} {e : Invalid}
    (hread : readArray env.files env.stdin request = .ok (before ++ v :: after))
    (hitems : ∀ w ∈ before ++ v :: after, IsItem w) (hbefore : ∀ w ∈ before, Normalizes w)
    (hv : normalize v none = .error e) :
    (env.updated c s table request true).1 = refusal env.files e.detail ∧
      (env.updated c s table request false).1 =
        refusal env.files ("item " ++ toString before.length ++ ": " ++ e.detail) := by
  obtain ⟨t, hreal, -⟩ := batchUpdate_real_run h table request
  have hplan : plan (before ++ v :: after) = .error e := by
    rw [plan, checkBatch_ok hitems]
    exact mapM_first_error hbefore hv
  have haccepted : accepted (before ++ v :: after) = .error (.item before.length e) := by
    rw [accepted, checkBatch_ok hitems]
    exact (Alteration.normalizeFrom_faulty 0 hbefore hv).trans (by rw [Nat.zero_add])
  rw [Environment.updated, Environment.updated, batchUpdate_dry_run, hreal, hread, reportOf_error hplan,
    reportOf_error haccepted]
  exact ⟨finished_invalid env.files e, finished_invalid env.files (.item before.length e)⟩

theorem updated_eq_iff (h : env.Accepts c s) :
    (env.updated c s table request true).1 = (env.updated c s table request false).1 ↔
      ∀ items, readArray env.files env.stdin request = .ok items → (∀ v ∈ items, IsItem v) →
        ∀ v ∈ items, Normalizes v := by
  constructor
  · intro heq items hread hitems
    by_contra hnot
    obtain ⟨before, v, after, e, rfl, hbefore, hv⟩ := Alteration.exists_faulty hnot
    obtain ⟨hdry, hreal⟩ := updated_faulty table h hread hitems hbefore hv
    rw [hdry, hreal] at heq
    exact refusal_numbered env.files e.detail before.length heq
  · intro hall
    obtain ⟨t, hreal, -⟩ := batchUpdate_real_run h table request
    rw [Environment.updated, Environment.updated, batchUpdate_dry_run, hreal]
    cases hread : readArray env.files env.stdin request with
    | error e => rfl
    | ok items =>
      have hsame := plan_eq_accepted (hall items hread)
      cases haccepted : accepted items with
      | error e => rw [reportOf_error (hsame.trans haccepted), reportOf_error haccepted]
      | ok cs => rw [reportOf_ok (hsame.trans haccepted), reportOf_ok haccepted]

end

/-- If there is a server for the connection that carries out everything, a dry run of the change of a column ends
    as the run does, and shows the change that is carried out. So it is for changes of several columns, if every
    item comes to a change by itself or the keys of some are wrong. If all keys are in order, but not every item
    comes to a change, the two differ: both say what is wrong with the first such item, but only the run says which
    item it is. -/
theorem dry_run_reports [Codecs] {env : Environment σ} {c : Connection} {s : σ} (h : env.Accepts c s) (table : Nat)
    (request : String) :
    (∀ attnum, (env.altered c s table attnum request true).1 = (env.altered c s table attnum request false).1 ∧
      ∀ v change, readJson env.files env.stdin request = .ok v → normalize v (some attnum) = .ok change →
        (env.altered c s table attnum request true).1 = finished env.files (.ok change.report) ∧
        CarriesOut (Session.database env.server c.procedures) table [change] s
          (env.altered c s table attnum request false).2) ∧
    ((env.updated c s table request true).1 = (env.updated c s table request false).1 ↔
      ∀ items, readArray env.files env.stdin request = .ok items → (∀ v ∈ items, IsItem v) →
        ∀ v ∈ items, Normalizes v) ∧
    (∀ items cs, readArray env.files env.stdin request = .ok items → (∀ v ∈ items, IsItem v) → Canonical items cs →
      (env.updated c s table request true).1 = finished env.files (.ok (listed cs)) ∧
      CarriesOut (Session.database env.server c.procedures) table cs s (env.updated c s table request false).2) ∧
    ∀ before v after e, readArray env.files env.stdin request = .ok (before ++ v :: after) →
      (∀ w ∈ before ++ v :: after, IsItem w) → (∀ w ∈ before, Normalizes w) → normalize v none = .error e →
      (env.updated c s table request true).1 = refusal env.files e.detail ∧
      (env.updated c s table request false).1 =
        refusal env.files ("item " ++ toString before.length ++ ": " ++ e.detail) := by
  refine ⟨fun attnum => ⟨altered_eq h attnum, ?_⟩, updated_eq_iff h, ?_, ?_⟩
  · intro v change hv hchange
    exact altered_ok h hv hchange
  · intro items cs hread hitems hcs
    exact updated_ok h hread hitems hcs
  · intro before v after e hread hitems hbefore hv
    exact updated_faulty table h hread hitems hbefore hv

/-- Items on standard input, and a server that does as it is told. -/
def typed (text : String) : Environment Database.Replies :=
  ⟨Files.empty [], Text.Utf8.encode text.toList, none, fun _ => true, Database.Replies.server⟩

def anyServer : Connection := ⟨some "db", "msar"⟩

theorem typed_accepts (text : String) : (typed text).Accepts anyServer (.ofList []) where
  reached := ⟨"db", rfl, rfl⟩
  named := by decide
  answers := fun _ _ _ => ⟨none, _, rfl⟩

/-- A new name, an item, and two items of which the second means no column. -/
def newName : String := "\x7b\"name\": \"a\"\x7d"

def oneItem : String := "[\x7b\"attnum\": 1\x7d]"

def secondWithoutColumn : String := "[\x7b\"attnum\": 1\x7d, \x7b\"attnum\": 0\x7d]"

section

open scoped Excerpt

theorem dry_run_of_typed :
    (typed newName).Accepts anyServer (.ofList []) ∧
    ((typed newName).altered anyServer (.ofList []) 1 3 "-" true).1 =
      ((typed newName).altered anyServer (.ofList []) 1 3 "-" false).1 ∧
    (∃ cs, ((typed oneItem).updated anyServer (.ofList []) 1 "-" true).1 = finished (Files.empty []) (.ok (listed cs)) ∧
      CarriesOut (Session.database Database.Replies.server "msar") 1 cs (.ofList [])
        ((typed oneItem).updated anyServer (.ofList []) 1 "-" false).2) ∧
    ((typed secondWithoutColumn).updated anyServer (.ofList []) 1 "-" true).1 =
      refusal (Files.empty []) (Invalid.notColumnNumber 0).detail ∧
    ((typed secondWithoutColumn).updated anyServer (.ofList []) 1 "-" false).1 =
      refusal (Files.empty []) ("item " ++ toString 1 ++ ": " ++ (Invalid.notColumnNumber 0).detail) := by
  have hitem : ∀ n : Int, IsItem (.object [("attnum", .int n)]) := fun n => ⟨_, rfl, rfl, by simp⟩
  refine ⟨typed_accepts _, ?_, ?_, ?_⟩
  · exact ((dry_run_reports (typed_accepts _) 1 "-").1 3).1
  · obtain ⟨-, -, hsent, -⟩ := dry_run_reports (typed_accepts oneItem) 1 "-"
    exact ⟨_, hsent [.object [("attnum", .int 1)]] _ rfl (by simpa using hitem 1) (.cons rfl .nil)⟩
  · obtain ⟨-, -, -, hfault⟩ := dry_run_reports (typed_accepts secondWithoutColumn) 1 "-"
    refine hfault [.object [("attnum", .int 1)]] (.object [("attnum", .int 0)]) [] (.notColumnNumber 0) rfl ?_ ?_ rfl
    · simpa using ⟨hitem 1, hitem 0⟩
    · simpa using ⟨_, rfl⟩

/-- So the dry run of these items leaves out what the run would say. -/
theorem dry_run_unnumbered :
    (typed secondWithoutColumn).Accepts anyServer (.ofList []) ∧
    ((typed secondWithoutColumn).updated anyServer (.ofList []) 1 "-" true).1.stderr =
      "error: validation_error: Invalid alteration request: attnum 0 is not a valid column number\n" ∧
    ((typed secondWithoutColumn).updated anyServer (.ofList []) 1 "-" false).1.stderr =
      "error: validation_error: Invalid alteration request: item 1: attnum 0 is not a valid column number\n" := by
  refine ⟨typed_accepts _, ?_, ?_⟩
  · decide +kernel
  · decide +kernel

end

end Command

end Intake
