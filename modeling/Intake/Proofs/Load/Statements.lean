/-
  Intake.Proofs.Load.Statements — what an import sends to its server.

  An import behind a session sends what serves its requests. When it succeeds that is everything there
  is to send, each of it with success; when it fails the load was not finished.

  Proved:
  - `importFile_sends`: what is sent serves the requests of an import.
  - `Sends.completes`, `Sends.unfinished`: all of it is sent, or the end of the load is not reached.
  - `Sends.within`: none of it begins or ends a transaction.
-/

import Intake.Proofs.Database.Served
import Intake.Proofs.Load.Carried

namespace Intake.Load

open Database (Exchange NewTable Runs Message Server Serves Creates Statement Table)
open Storage (Files)
open Intake.Stream (taken)

variable {procedures : String}

/-! ## What serves a load -/

theorem CopyCommand.text_not_bound {c : CopyCommand} {command : String} (h : c.text = .ok command) :
    command ∉ Statement.bounds := by
  unfold CopyCommand.text at h
  simp only [bind_ok_iff, pure_ok_iff] at h
  obtain ⟨columns, -, table, -, rfl⟩ := h
  simp only [String.append_assoc]
  exact Statement.not_bound_append (by decide) _

/-- Pieces that the server took. -/
def writes (ps : List (List UInt8)) : List Message := ps.map fun piece => .write piece (.ok ())

theorem served_end {ps : List (List UInt8)} {answer : Except Database.Error Nat} {logs : List (List Message)}
    (h : List.Forall₂ (Serves procedures) (taken ps ++ [.flush (.ok ()), .finish answer]) logs) :
    logs.flatten = writes ps ++ [.flush (.ok ()), .finish answer] := by
  induction ps generalizing logs with
  | nil =>
    cases h with
    | cons hflush hrest =>
      cases hrest with
      | cons hfinish hnone =>
        cases hflush
        cases hfinish
        cases hnone
        rfl
  | cons piece ps ih =>
    cases h with
    | cons hwrite hrest =>
      cases hwrite
      rw [List.flatten_cons, ih hrest]
      rfl

variable [Codecs] {σ : Type} {files : Files} {r : Request}

/-! ## The requests of an import -/

theorem Loads.command {table : Table} {p : Prepared} {rows : Except LoadError Nat} {log : List Exchange}
    (h : Loads files table p rows log) {command : String} {answer : Except Database.Error Unit}
    (hmem : .copyIn command answer ∈ log) : (copyCommand table p).text = .ok command := by
  cases h with
  | unnamed e _ => simp at hmem
  | unstarted command' e hcommand =>
    simp only [List.mem_singleton, Exchange.copyIn.injEq] at hmem
    rw [hcommand, hmem.1]
  | broken command' entry e ps hcommand _ _ _ =>
    simp [taken] at hmem
    rw [hcommand, hmem.1]
  | refused command' entry ps q m hcommand _ _ =>
    simp [taken] at hmem
    rw [hcommand, hmem.1]
  | unflushed command' contents ps m hcommand _ _ =>
    simp [taken] at hmem
    rw [hcommand, hmem.1]
  | finished command' contents ps answer' hcommand _ _ =>
    simp [taken] at hmem
    rw [hcommand, hmem.1]

theorem Loads.unfinished {table : Table} {p : Prepared} {e : LoadError} {log : List Exchange}
    (h : Loads files table p (.error e) log) (n : Nat) : .finish (.ok n) ∉ log := by
  generalize hr : (Except.error e : Except LoadError Nat) = rows at h
  cases h with
  | unnamed e _ => simp
  | unstarted command e _ => simp
  | broken command entry e ps _ _ _ _ => simp [taken]
  | refused command entry ps q m _ _ _ => simp [taken]
  | unflushed command contents ps m _ _ _ => simp [taken]
  | finished command contents ps answer _ _ _ =>
    cases answer with
    | ok n' => cases hr
    | error e' => simp [taken]

/-- The table that was made, and the command that opened a load into it. -/
theorem Imports.command {outcome : Except LoadError Imported} {log : List Exchange}
    (h : Imports files r outcome log) {command : String} {answer : Except Database.Error Unit}
    (hmem : .copyIn command answer ∈ log) :
    ∃ p table, prepare files r.path r.header r.dialect r.charset = .ok p ∧
      .createTable ⟨r.schema, r.table, p.columns, r.comment⟩ (.ok table) ∈ log ∧
      (copyCommand table p).text = .ok command := by
  cases h with
  | unplanned e _ => simp at hmem
  | uncreated p source e _ _ => simp at hmem
  | created p source table rows log _ hplan _ hload =>
    simp only [List.mem_cons, reduceCtorEq, false_or] at hmem
    exact ⟨p, table, hplan, List.mem_cons_self, hload.command hmem⟩

theorem Imports.unfinished {e : LoadError} {log : List Exchange} (h : Imports files r (.error e) log) (n : Nat) :
    .finish (.ok n) ∉ log := by
  generalize hr : (Except.error e : Except LoadError Imported) = outcome at h
  cases h with
  | unplanned e _ => simp
  | uncreated p source e _ _ => simp
  | created p source table rows log _ _ _ hload =>
    cases rows with
    | ok n' => cases hr
    | error e' => simpa using hload.unfinished n

/-! ## What serves an import -/

def Sends (procedures : String) (files : Files) (r : Request) (outcome : Except LoadError Imported)
    (log : List Message) : Prop :=
  ∃ asked logs, Imports files r outcome asked ∧ List.Forall₂ (Serves procedures) asked logs ∧ log = logs.flatten

theorem importFile_sends (server : Server σ) (procedures : String) (files : Files) (r : Request) :
    Runs (importFile (Database.Session.database server procedures) files r).run
      (importFile (Database.Session.database server.traced procedures) files r).run (Sends procedures files r) :=
  importFile_carried (Database.session_carries server procedures) files r

/-- All that an import sends, when all of it succeeds. -/
inductive Completes (files : Files) (r : Request) : Imported → List Message → Prop
  | completes (p : Prepared) (contents : List UInt8) (table : Table) (made : List Message) (command : String)
      (ps : List (List UInt8)) (rows : Nat)
      (hplan : prepare files r.path r.header r.dialect r.charset = .ok p)
      (hread : files.read p.path = .ok contents)
      (hmade : Creates ⟨r.schema, r.table, p.columns, r.comment⟩ (.ok table) made)
      (hcommand : (copyCommand table p).text = .ok command) (hall : ps.flatten = p.sent contents) :
      Completes files r ⟨table, rows, p.transfer.transcodes⟩
        (made ++ .copyIn (.copy command) (.ok ()) :: (writes ps ++ [.flush (.ok ()), .finish (.ok rows)]))

theorem Sends.completes {i : Imported} {log : List Message} (h : Sends procedures files r (.ok i) log) :
    Completes files r i log := by
  obtain ⟨asked, logs, himports, hserved, rfl⟩ := h
  generalize hr : (Except.ok i : Except LoadError Imported) = outcome at himports
  cases himports with
  | unplanned e _ => cases hr
  | uncreated p source e _ _ => cases hr
  | created p source table rows log _ hplan _ hload =>
    cases hload with
    | unnamed e _ => cases hr
    | unstarted command e _ => cases hr
    | broken command entry e ps _ _ _ _ => cases hr
    | refused command entry ps q m _ _ _ => cases hr
    | unflushed command contents ps m _ _ _ => cases hr
    | finished command contents ps answer hcommand hread hall =>
      cases answer with
      | error e => cases hr
      | ok n =>
        cases hr
        -- the table, the start of the load, and what is left of it
        cases hserved with
        | cons htable hserved =>
          cases hserved with
          | cons hcopy hserved =>
            cases htable with
            | createTable _ _ made hmade =>
              cases hcopy
              rw [List.flatten_cons, List.flatten_cons, served_end hserved]
              exact .completes p contents table _ command ps n hplan hread hmade hcommand hall

theorem Completes.finishes {i : Imported} {log : List Message} (h : Completes files r i log) :
    log.getLast? = some (.finish (.ok i.rows)) := by
  cases h with
  | completes p contents table made command ps rows _ _ _ _ _ =>
    rw [← List.cons_append, ← List.append_assoc, List.getLast?_append_of_ne_nil _ (List.cons_ne_nil _ _)]
    rfl

theorem Sends.unfinished {e : LoadError} {log : List Message} (h : Sends procedures files r (.error e) log) (n : Nat) :
    .finish (.ok n) ∉ log := by
  intro hmem
  obtain ⟨asked, logs, himports, hserved, rfl⟩ := h
  obtain ⟨x, hx, log, hserves, hfinish⟩ := Database.exists_served hserved hmem
  rw [hserves.finish_mem hfinish] at hx
  exact himports.unfinished n hx

theorem Sends.within {outcome : Except LoadError Imported} {log : List Message}
    (h : Sends procedures files r outcome log) : ∀ x ∈ log, x.Within := by
  intro y hy
  obtain ⟨asked, logs, himports, hserved, rfl⟩ := h
  obtain ⟨x, hx, log, hserves, hlog⟩ := Database.exists_served hserved hy
  refine hserves.within ?_ y hlog
  intro command answer hcopy
  rw [hcopy] at hx
  obtain ⟨p, table, -, -, htext⟩ := himports.command hx
  exact CopyCommand.text_not_bound htext

end Intake.Load
