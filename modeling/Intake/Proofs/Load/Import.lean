/-
  Intake.Proofs.Load.Import — what a load asks of the database, and in which order.

  Everything that can be found out without the database is found out first: the names, the plan,
  and the text of a file that is converted. Then the table is made, the load is opened, the bytes
  are written and passed on, and only a load that has taken all of them is finished. A file that is
  sent as it is may still fail midway; then the load is left as it is.

  Proved:
  - `stream_runs`, `insert_runs`: the requests of a load into a table.
  - `importFile_runs`: those of an import.
  - `requests_in_order`: so in every run they come in order, as far as they come, and a failure
    tells how far that was.
-/

import Intake.Database.Scripted
import Intake.Proofs.Column.Names
import Intake.Proofs.Load.CopyCommand
import Intake.Proofs.Load.Sent

namespace Intake.Load

open Database (Exchange Traced Runs noted runs_noted runs_pure Table)
open Storage (Entry Files)
open Intake.Stream (taken)

variable {σ : Type}

/-! ## Steps -/

section

variable {ε α β : Type} {wrap : ε → LoadError} {f : α → Step σ β} {g : α → Step (Traced σ) β}
  {Q : Except LoadError β → List Exchange → Prop}

theorem runs_check {x : Except ε α} (hfail : ∀ e, x = .error e → Q (.error (wrap e)) [])
    (hnext : ∀ a, x = .ok a → Runs (f a).run (g a).run Q) :
    Runs (Step.check wrap x >>= f).run (Step.check wrap x >>= g).run Q := by
  refine Database.runs_settled ?_ fun a ha => hnext a (mapError_ok_iff.mp ha)
  intro e he
  obtain ⟨e, hx, rfl⟩ := mapError_error_iff.mp he
  exact hfail e hx

theorem runs_lift {x : StateM σ (Except ε α)} {y : StateM (Traced σ) (Except ε α)}
    {P : Except ε α → List Exchange → Prop} (h : Runs x y P) :
    Runs (Step.lift wrap x).run (Step.lift wrap y).run
      fun r log => ∃ answer, r = answer.mapError wrap ∧ P answer log :=
  h.mapError

theorem runs_step {x : StateM σ (Except ε α)} {y : StateM (Traced σ) (Except ε α)}
    {P : Except ε α → List Exchange → Prop} (h : Runs x y P)
    (hfail : ∀ e log, P (.error e) log → Q (.error (wrap e)) log)
    (hnext : ∀ a log, P (.ok a) log → Runs (f a).run (g a).run fun r more => Q r (log ++ more)) :
    Runs (Step.lift wrap x >>= f).run (Step.lift wrap y >>= g).run Q :=
  h.bindMapError hfail hnext

/-- A request stands in the log, whatever its answer. -/
theorem runs_request {ask : StateM σ (Except ε α)} {exchange : Except ε α → Exchange}
    (hfail : ∀ e, Q (.error (wrap e)) [exchange (.error e)])
    (hnext : ∀ a, Runs (f a).run (g a).run fun r more => Q r (exchange (.ok a) :: more)) :
    Runs (Step.lift wrap ask >>= f).run (Step.lift wrap (noted ask exchange) >>= g).run Q := by
  refine runs_step (runs_noted (P := fun r log => log = [exchange r]) fun _ => rfl) ?_ ?_
  · rintro e - rfl
    exact hfail e
  · rintro a - rfl
    exact hnext a

end

/-! ## Names and order -/

inductive Kind where
  | call
  | createTable
  | copyIn
  | write
  | flush
  | finish
  deriving DecidableEq, Repr

def kindOf : Exchange → Kind
  | .call .. => .call
  | .createTable .. => .createTable
  | .copyIn .. => .copyIn
  | .write .. => .write
  | .flush .. => .flush
  | .finish .. => .finish

def loadKinds (writes : Nat) : List Kind := .copyIn :: (List.replicate writes .write ++ [.flush, .finish])

theorem kinds_taken (ps : List (List UInt8)) : (taken ps).map kindOf = List.replicate ps.length .write := by
  rw [taken, List.map_map, List.eq_replicate_iff]
  simp [kindOf]

/-- Whether a table that was made has the schema and the name that were asked for. -/
def echoes : Exchange → Bool
  | .createTable t (.ok table) => table.schema = t.schema ∧ table.name = t.name
  | _ => true

/-- The columns of a plan have names that can be quoted, so with the names of the request the
    command of the load has a text. -/
theorem copyCommand_text {table : Table} {p : Prepared} {schema name q : String}
    (hname : Sql.Identifier.qualify schema name = .ok q) (hecho : table.schema = schema ∧ table.name = name)
    (hcolumns : p.columns = Column.names p.headers) (hfew : p.headers.length < 2 ^ 64) :
    ∃ text, (copyCommand table p).text = .ok text := by
  obtain ⟨hs, hn, -⟩ := Sql.Identifier.qualify_ok_iff.mp hname
  refine ⟨_, CopyCommand.text_ok_iff.mpr ⟨?_, rfl⟩⟩
  simp only [CopyCommand.names, copyCommand, List.forall_mem_cons, hecho.1, hecho.2, hcolumns]
  exact ⟨hs, hn, fun column hm => (Column.sound_names hfew column hm).accepted⟩

section

variable [Codecs]

/-! ## Loading into a table -/

/-- How the load of an opened file into a table ends, and what it asks for. -/
inductive Loads (files : Files) (table : Table) (p : Prepared) : Except LoadError Nat → List Exchange → Prop
  /-- A name cannot be quoted. -/
  | unnamed (e : Sql.IdentifierError) (hcommand : (copyCommand table p).text = .error e) :
      Loads files table p (.error (.identifier e)) []
  | unstarted (command : String) (e : Database.Error) (hcommand : (copyCommand table p).text = .ok command) :
      Loads files table p (.error (.copyStart table.display e)) [.copyIn command (.error e)]
  /-- The file cannot be read to its end, and what came before the failure is written. -/
  | broken (command : String) (entry : Entry) (e : Storage.FileError) (ps : List (List UInt8))
      (hcommand : (copyCommand table p).text = .ok command) (hopen : files.openEntry p.path = .ok entry)
      (hfault : entry.reading.failure? = some e) (hall : ps.flatten = p.sentOf entry.reading) :
      Loads files table p (.error (.stream table.display e.message)) (.copyIn command (.ok ()) :: taken ps)
  /-- A piece is refused, and nothing is asked for after it. -/
  | refused (command : String) (entry : Entry) (ps : List (List UInt8)) (q : List UInt8) (m : String)
      (hcommand : (copyCommand table p).text = .ok command) (hopen : files.openEntry p.path = .ok entry)
      (hpart : ps.flatten ++ q <+: p.sentOf entry.reading) :
      Loads files table p (.error (.stream table.display m))
        (.copyIn command (.ok ()) :: (taken ps ++ [.write q (.error m)]))
  /-- All is written, and the load cannot pass it on. -/
  | unflushed (command : String) (contents : List UInt8) (ps : List (List UInt8)) (m : String)
      (hcommand : (copyCommand table p).text = .ok command) (hread : files.read p.path = .ok contents)
      (hall : ps.flatten = p.sent contents) :
      Loads files table p (.error (.stream table.display m))
        (.copyIn command (.ok ()) :: (taken ps ++ [.flush (.error m)]))
  /-- All is written and passed on, and the load is finished, well or not. -/
  | finished (command : String) (contents : List UInt8) (ps : List (List UInt8))
      (answer : Except Database.Error Nat) (hcommand : (copyCommand table p).text = .ok command)
      (hread : files.read p.path = .ok contents) (hall : ps.flatten = p.sent contents) :
      Loads files table p (answer.mapError (.finish table.display table.oid))
        (.copyIn command (.ok ()) :: (taken ps ++ [.flush (.ok ()), .finish answer]))

theorem stream_runs (db : Database σ) {files : Files} (table : Table) {p : Prepared} {source : Source}
    (h : openSource files p = .ok source) :
    Runs (stream db table p source).run (stream db.traced table p source).run (Loads files table p) := by
  refine runs_check (fun e hcommand => .unnamed e hcommand) fun command hcommand => ?_
  refine runs_request (fun e => .unstarted command e hcommand) fun _ => ?_
  refine runs_step (send_runs db h) ?_ ?_
  · intro m log hsent
    obtain ⟨entry, hopen, hcopied⟩ := hsent
    cases hcopied with
    | broken ps m hall hfault =>
      obtain ⟨e, he, rfl⟩ := Option.map_eq_some_iff.mp hfault
      exact .broken command entry e ps hcommand hopen he hall
    | refused ps q m hpart => exact .refused command entry ps q m hcommand hopen hpart
    | unflushed ps m hall hfault =>
      obtain ⟨contents, hread, hsame⟩ := sentOf_whole hopen hfault
      exact .unflushed command contents ps m hcommand hread (hall.trans hsame)
  · intro n log hsent
    obtain ⟨entry, hopen, hcopied⟩ := hsent
    cases hcopied with
    | whole ps hall hfault =>
      obtain ⟨contents, hread, hsame⟩ := sentOf_whole hopen hfault
      refine (runs_lift (runs_noted (P := fun r log => log = [.finish r]) fun _ => rfl)).mono ?_
      rintro r - ⟨answer, rfl, rfl⟩
      rw [List.append_assoc]
      exact .finished command contents ps answer hcommand hread (hall.trans hsame)

def Inserts (files : Files) (table : Table) (p : Prepared) (r : Except LoadError Nat) (log : List Exchange) :
    Prop :=
  (∃ e, openSource files p = .error e ∧ e.isLocal = true ∧ r = .error e ∧ log = []) ∨
    ∃ source, openSource files p = .ok source ∧ Loads files table p r log

theorem insert_runs (db : Database σ) (files : Files) (table : Table) (p : Prepared) :
    Runs (insert db files table p).run (insert db.traced files table p).run (Inserts files table p) := by
  refine runs_check (fun e hopen => ?_) fun source hopen => ?_
  · exact .inl ⟨e, hopen, isLocal_openSource files p e hopen, rfl, rfl⟩
  · exact (stream_runs db table hopen).mono fun r log h => .inr ⟨source, hopen, h⟩

/-! ## Making a table of a file -/

inductive Imports (files : Files) (r : Request) : Except LoadError Imported → List Exchange → Prop
  /-- Something is wrong with the request or with the file. -/
  | unplanned (e : LoadError) (hlocal : e.isLocal = true) : Imports files r (.error e) []
  | uncreated (p : Prepared) (source : Source) (e : Database.Error)
      (hplan : prepare files r.path r.header r.dialect r.charset = .ok p)
      (hopen : openSource files p = .ok source) :
      Imports files r (.error (.createTable (r.schema ++ "." ++ r.table) e))
        [.createTable ⟨r.schema, r.table, p.columns, r.comment⟩ (.error e)]
  | created (p : Prepared) (source : Source) (table : Table) (rows : Except LoadError Nat) (log : List Exchange)
      (hname : ∃ name, Sql.Identifier.qualify r.schema r.table = .ok name)
      (hplan : prepare files r.path r.header r.dialect r.charset = .ok p)
      (hopen : openSource files p = .ok source) (hload : Loads files table p rows log) :
      Imports files r (rows.map fun n => ⟨table, n, p.transfer.transcodes⟩)
        (.createTable ⟨r.schema, r.table, p.columns, r.comment⟩ (.ok table) :: log)

theorem importFile_runs (db : Database σ) (files : Files) (r : Request) :
    Runs (importFile db files r).run (importFile db.traced files r).run (Imports files r) := by
  refine runs_check (fun e _ => .unplanned _ rfl) fun name hname => ?_
  refine runs_check (fun e hplan => .unplanned _ (isLocal_prepare _ _ _ _ _ e hplan)) fun p hplan => ?_
  refine runs_check (fun e hopen => .unplanned _ (isLocal_openSource _ _ e hopen)) fun source hopen => ?_
  refine runs_request (fun e => .uncreated p source e hplan hopen) fun table => ?_
  refine (stream_runs db table hopen).bind ?_ ?_
  · intro e log hload
    exact .created p source table (.error e) log ⟨name, hname⟩ hplan hopen hload
  · intro n log hload
    refine runs_pure ?_
    rw [List.append_nil]
    exact .created p source table (.ok n) log ⟨name, hname⟩ hplan hopen hload

/-! ## The order of requests -/

theorem Loads.in_order {files : Files} {table : Table} {p : Prepared} {r : Except LoadError Nat}
    {log : List Exchange} (h : Loads files table p r log) : ∃ n, log.map kindOf <+: loadKinds n := by
  cases h with
  | unnamed e _ => exact ⟨0, List.nil_prefix⟩
  | unstarted command e _ => exact ⟨0, List.prefix_append _ _⟩
  | broken command entry e ps _ _ _ _ =>
    refine ⟨ps.length, ?_⟩
    rw [List.map_cons, kinds_taken]
    exact List.prefix_append _ _
  | refused command entry ps q m _ _ _ =>
    refine ⟨ps.length + 1, ?_⟩
    simp only [List.map_cons, List.map_append, kinds_taken, List.map_nil, loadKinds, List.replicate_succ']
    exact List.prefix_append _ _
  | unflushed command contents ps m _ _ _ =>
    refine ⟨ps.length, ?_⟩
    simp only [List.map_cons, List.map_append, kinds_taken, List.map_nil, loadKinds]
    refine (List.prefix_cons_inj _).mpr ((List.prefix_append_right_inj _).mpr ?_)
    exact List.prefix_append _ _
  | finished command contents ps answer _ _ _ =>
    refine ⟨ps.length, ?_⟩
    simp only [List.map_cons, List.map_append, kinds_taken, List.map_nil, loadKinds]
    exact List.prefix_rfl

theorem Imports.in_order {files : Files} {r : Request} {outcome : Except LoadError Imported}
    {log : List Exchange} (h : Imports files r outcome log) :
    ∃ n, log.map kindOf <+: .createTable :: loadKinds n := by
  cases h with
  | unplanned e _ => exact ⟨0, List.nil_prefix⟩
  | uncreated p source e _ _ => exact ⟨0, List.prefix_append _ _⟩
  | created p source table rows log _ _ _ hload =>
    obtain ⟨n, hn⟩ := hload.in_order
    exact ⟨n, (List.prefix_cons_inj _).mpr hn⟩

/-! ## Failures without requests -/

theorem Imports.local_asks_nothing {files : Files} {r : Request} {e : LoadError} {log : List Exchange}
    (h : Imports files r (.error e) log) (he : e.isLocal = true) (hecho : ∀ x ∈ log, echoes x = true)
    (hfew : ∀ p, prepare files r.path r.header r.dialect r.charset = .ok p → p.headers.length < 2 ^ 64) :
    log = [] := by
  generalize hr : (Except.error e : Except LoadError Imported) = outcome at h
  cases h with
  | unplanned e _ => rfl
  | uncreated p source e _ _ => cases hr; cases he
  | created p source table rows log hname hplan hopen hload =>
    obtain ⟨q, hname⟩ := hname
    have hmade := of_decide_eq_true (hecho _ List.mem_cons_self)
    obtain ⟨text, htext⟩ := copyCommand_text hname hmade (prepare_ok hplan).2 (hfew p hplan)
    cases hload with
    -- the only failure that the errors alone do not rule out
    | unnamed e hcommand => rw [htext] at hcommand; cases hcommand
    | unstarted command e _ => cases hr; cases he
    | broken command entry e ps _ _ _ _ => cases hr; cases he
    | refused command entry ps q m _ _ _ => cases hr; cases he
    | unflushed command contents ps m _ _ _ => cases hr; cases he
    | finished command contents ps answer _ _ _ =>
      cases answer with
      | ok n => cases hr
      | error e => cases hr; cases he

theorem Inserts.opened {files : Files} {table : Table} {p : Prepared} {r : Except LoadError Nat}
    {log : List Exchange} (h : Inserts files table p r log) (hlog : log ≠ []) : Opened files p := by
  rcases h with ⟨-, -, -, -, rfl⟩ | ⟨source, hopen, -⟩
  · exact absurd rfl hlog
  · exact opened_of_ok hopen

theorem Imports.opened {files : Files} {r : Request} {outcome : Except LoadError Imported}
    {log : List Exchange} (h : Imports files r outcome log) (hlog : log ≠ []) :
    ∃ p, prepare files r.path r.header r.dialect r.charset = .ok p ∧ Opened files p := by
  cases h with
  | unplanned e _ => exact absurd rfl hlog
  | uncreated p source e hplan hopen => exact ⟨p, hplan, opened_of_ok hopen⟩
  | created p source table rows log _ hplan hopen _ => exact ⟨p, hplan, opened_of_ok hopen⟩

theorem Inserts.in_order {files : Files} {table : Table} {p : Prepared} {r : Except LoadError Nat}
    {log : List Exchange} (h : Inserts files table p r log) : ∃ n, log.map kindOf <+: loadKinds n := by
  rcases h with ⟨-, -, -, -, rfl⟩ | ⟨-, -, hload⟩
  · exact ⟨0, List.nil_prefix⟩
  · exact hload.in_order

/-- Whatever the database answers, an import asks for a table, a load, the bytes of the file and the
    end of the load, in this order and as far as nothing fails, and what it comes to tells how far
    that was. If the file cannot be read or converted nothing is asked at all, nor if a name or the
    file is at fault and tables are made as they are asked for. A load into a table that exists does
    the same without the table. -/
theorem requests_in_order (db : Database σ) (files : Files) :
    (∀ r, Runs (importFile db files r).run (importFile db.traced files r).run fun outcome log =>
      Imports files r outcome log ∧ (∃ n, log.map kindOf <+: .createTable :: loadKinds n) ∧
      (log ≠ [] → ∃ p, prepare files r.path r.header r.dialect r.charset = .ok p ∧ Opened files p) ∧
      ((∀ x ∈ log, echoes x = true) →
        (∀ p, prepare files r.path r.header r.dialect r.charset = .ok p → p.headers.length < 2 ^ 64) →
        ∀ e, outcome = .error e → e.isLocal = true → log = [])) ∧
    ∀ table p, Runs (insert db files table p).run (insert db.traced files table p).run fun outcome log =>
      Inserts files table p outcome log ∧ (∃ n, log.map kindOf <+: loadKinds n) ∧
      (log ≠ [] → Opened files p) := by
  refine ⟨fun r => ?_, fun table p => ?_⟩
  · refine (importFile_runs db files r).mono fun outcome log h => ⟨h, h.in_order, h.opened, ?_⟩
    rintro hecho hfew e rfl he
    exact h.local_asks_nothing he hecho hfew
  · exact (insert_runs db files table p).mono fun outcome log h => ⟨h, h.in_order, h.opened⟩

end

def smallFiles : Files :=
  ((Files.empty ["home"]).enter "rows.csv" (.file [0x61, 0x2C, 0x62, 0x0A, 0x31, 0x2C, 0x32, 0x0A])).enter
    "empty.csv" (.file [])

def smallRequest (path : String) : Request := ⟨path, some true, none, none, "public", "t", none⟩

/-- A file that can be read up to its second line only. -/
def brokenFiles : Files := (Files.empty ["home"]).enter "rows.csv" (.damaged [0x61, 0x2C, 0x62, 0x0A, 0x31])

/-- An import that has nothing to find out but the columns. -/
def settledRequest : Request := ⟨"rows.csv", some true, some ⟨0x2C, 0x22, none⟩, some .utf8, "public", "t", none⟩

section

open scoped Excerpt

/-- The columns are found, and the load is left unfinished. -/
example : ((importFile Database.Scripted.database.traced brokenFiles settledRequest).run.run
      ⟨.ofScript ⟨[], [], none⟩, []⟩).1 = .error (.stream "public.t" "Input/output error (os error 5)") ∧
    ((importFile Database.Scripted.database.traced brokenFiles settledRequest).run.run
      ⟨.ofScript ⟨[], [], none⟩, []⟩).2.log.map kindOf = [.createTable, .copyIn, .write, .write] := by
  decide +kernel

theorem requests_of_small :
    (∃ log, Imports smallFiles (smallRequest "rows.csv") (.ok ⟨⟨16384, "public", "t"⟩, 2, false⟩) log ∧
      log.map kindOf = [.createTable, .copyIn, .write, .write, .flush, .finish]) ∧
    ∃ log, Imports smallFiles (smallRequest "empty.csv") (.error (.noColumns "empty.csv")) log ∧
      (∀ x ∈ log, echoes x = true) ∧
      (∀ p, prepare smallFiles "empty.csv" (some true) none none = .ok p → p.headers.length < 2 ^ 64) ∧
      LoadError.isLocal (.noColumns "empty.csv") = true ∧ log = [] := by
  have hruns := (requests_in_order Database.Scripted.database smallFiles).1
  constructor
  · obtain ⟨log, hrun, himports, -⟩ := hruns (smallRequest "rows.csv") (.ofScript ⟨[], [], none⟩) []
    have houtcome : ((importFile Database.Scripted.database smallFiles (smallRequest "rows.csv")).run.run
        (.ofScript ⟨[], [], none⟩)).1 = .ok ⟨⟨16384, "public", "t"⟩, 2, false⟩ := by decide +kernel
    have hkinds : ((importFile Database.Scripted.database.traced smallFiles (smallRequest "rows.csv")).run.run
        ⟨.ofScript ⟨[], [], none⟩, []⟩).2.log.map kindOf =
          [.createTable, .copyIn, .write, .write, .flush, .finish] := by decide +kernel
    rw [hrun] at hkinds
    rw [houtcome] at himports
    exact ⟨log, himports, hkinds⟩
  · obtain ⟨log, hrun, himports, -, -, hnone⟩ :=
      hruns (smallRequest "empty.csv") (.ofScript ⟨[], [], none⟩) []
    have houtcome : ((importFile Database.Scripted.database smallFiles (smallRequest "empty.csv")).run.run
        (.ofScript ⟨[], [], none⟩)).1 = .error (.noColumns "empty.csv") := by decide +kernel
    have hecho : ∀ x ∈ ((importFile Database.Scripted.database.traced smallFiles
        (smallRequest "empty.csv")).run.run ⟨.ofScript ⟨[], [], none⟩, []⟩).2.log, echoes x = true := by
      decide +kernel
    have hplan : prepare smallFiles "empty.csv" (some true) none none = .error (.noColumns "empty.csv") := by
      decide +kernel
    have hfew : ∀ p, prepare smallFiles "empty.csv" (some true) none none = .ok p →
        p.headers.length < 2 ^ 64 := by
      intro p hp
      rw [hplan] at hp
      cases hp
    rw [hrun] at hecho
    rw [houtcome] at himports
    exact ⟨log, himports, hecho, hfew, rfl, hnone hecho hfew _ houtcome rfl⟩

end

end Intake.Load
