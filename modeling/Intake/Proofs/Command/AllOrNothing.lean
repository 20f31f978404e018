/-
  Intake.Proofs.Command.AllOrNothing — an import takes effect as a whole or not at all.

  Between its first statement and its last one the command sends what an import sends, and the last one
  commits just when all of that went well. The program succeeds just when the server has committed.

  Proved:
  - `load_runs`: what is sent for the command that imports a file.
  - `load_all_or_nothing`: whatever the server answers, the table and its rows are committed together,
    or they are taken back.
-/

import Intake.Command.Run
import Intake.Database.Replies
import Intake.Proofs.Database.Transaction
import Intake.Proofs.Load.Statements

namespace Intake.Command

open Database (Message Runs Server Statement Traced Transacts)
open Load (Completes Imported LoadError Sends)
open Storage (Files)

variable {σ : Type}

def Environment.traced (env : Environment σ) : Environment (Traced σ Message) :=
  ⟨env.files, env.stdin, env.databaseUrl, env.reach, env.server.traced⟩

/-! ## What the command sends -/

def Settings.request (s : Settings) (schema table : String) (comment : Option String) : Load.Request :=
  ⟨s.path, s.header, s.dialect, s.charset, schema, table, comment⟩

def failureOf (path : String) : Database.Session.TransactionError LoadError → CommandError
  | .begin e => .beginning e
  | .body e => .importing path e
  | .commit e => .committing e

theorem exitCode_finished (files : Files) (r : Except CommandError Json) :
    (finished files r).exitCode = 0 ↔ ∃ v, r = .ok v := by
  cases r with
  | ok v => simp [finished]
  | error e => simp [finished, failed]

/-- A command turns to its server, if there is one. -/
theorem runs_connect {α : Type} {env : Environment σ} {c : Connection} {f : Server σ → Task σ α}
    {g : Server (Traced σ Message) → Task (Traced σ Message) α} {Q : Except CommandError α → List Message → Prop}
    (hfail : ∀ e, Q (.error e) []) (hnext : Runs (f env.server).run (g env.server.traced).run Q) :
    Runs (connect env c >>= f).run (connect env.traced c >>= g).run Q := by
  unfold connect
  cases c.target with
  | none => exact Database.runs_pure (hfail _)
  | some target =>
    by_cases h : env.reach target = true
    · simp only [Environment.traced, h, if_true]
      exact hnext
    · simp only [Environment.traced, h]
      exact Database.runs_pure (hfail _)

section

variable [Codecs]

/-- How the command ends, and what it sends. -/
inductive Attempts (files : Files) (flags : FileFlags) (schema table : String) (comment : Option String)
    (procedures : String) : Except CommandError Json → List Message → Prop
  /-- The settings are wrong, or there is no server. -/
  | unasked (e : CommandError) : Attempts files flags schema table comment procedures (.error e) []
  | asked (s : Settings) (outcome : Except (Database.Session.TransactionError LoadError) Imported)
      (log : List Message) (hsettings : settings files flags = .ok s)
      (htransacts : Transacts (Sends procedures files (s.request schema table comment)) outcome log) :
      Attempts files flags schema table comment procedures
        ((outcome.mapError (failureOf s.path)).map fun i => .object i.members) log

theorem load_runs (env : Environment σ) (flags : FileFlags) (schema table : String) (comment : Option String)
    (c : Connection) :
    Runs (Command.load env flags schema table comment c).run
      (Command.load env.traced flags schema table comment c).run
      (Attempts env.files flags schema table comment c.procedures) := by
  refine Database.runs_settled (fun e _ => .unasked e) fun s hs => ?_
  have hsettings : settings env.files flags = .ok s := mapError_ok_iff.mp hs
  refine runs_connect (fun e => .unasked e) ?_
  have htransaction := Database.transaction_runs env.server
    (Load.importFile_sends env.server c.procedures env.files (s.request schema table comment))
  refine htransaction.bindMapError ?_ ?_
  · intro e log h
    cases e with
    | begin e => exact .asked s (.error (.begin e)) log hsettings h
    | body e => exact .asked s (.error (.body e)) log hsettings h
    | commit e => exact .asked s (.error (.commit e)) log hsettings h
  · intro i log h
    refine Database.runs_pure ?_
    rw [List.append_nil]
    exact .asked s (.ok i) log hsettings h

/-! ## All or nothing -/

/-- How a transaction ends that has sent a body for an import. -/
structure Concludes (procedures : String) (files : Files) (r : Load.Request) (body : List Message)
    (last : Statement) : Prop where
  within : ∀ x ∈ body, x.Within
  ends : last = .commit ∨ last = .rollback
  commit_iff : last = .commit ↔ ∃ i, Completes files r i body
  unfinished : last = .rollback → ∀ n, .finish (.ok n) ∉ body
  failed : last = .rollback → ∃ e, Sends procedures files r (.error e) body

section

variable {files : Files} {flags : FileFlags} {schema table : String} {comment : Option String}
  {procedures : String} {r : Except CommandError Json} {log : List Message}

theorem Attempts.commit_last (h : Attempts files flags schema table comment procedures r log)
    {before after : List Message} {x : Message} (hlog : log = before ++ x :: after)
    (hx : x.text? = some Statement.commit.text) :
    after = [] ∧ ∃ n, before.getLast? = some (.finish (.ok n)) := by
  cases h with
  | unasked e => simp at hlog
  | asked s outcome log hsettings htransacts =>
    obtain ⟨hafter, first, i, body, rfl, hbody⟩ := htransacts.commit_last (fun _ _ h => h.within) hlog hx
    refine ⟨hafter, i.rows, ?_⟩
    rw [List.getLast?_cons, hbody.completes.finishes]
    rfl

theorem concludes_ok {files : Files} {r : Load.Request} {i : Imported} {body : List Message}
    (h : Sends procedures files r (.ok i) body) : Concludes procedures files r body .commit where
  within := h.within
  ends := .inl rfl
  commit_iff := iff_of_true rfl ⟨i, h.completes⟩
  unfinished := nofun
  failed := nofun

theorem concludes_error {files : Files} {r : Load.Request} {e : LoadError} {body : List Message}
    (h : Sends procedures files r (.error e) body) : Concludes procedures files r body .rollback where
  within := h.within
  ends := .inr rfl
  commit_iff := by
    refine iff_of_false nofun ?_
    intro hcompletes
    obtain ⟨i, hcompletes⟩ := hcompletes
    exact h.unfinished i.rows (List.mem_of_getLast? hcompletes.finishes)
  unfinished := fun _ => h.unfinished
  failed := fun _ => ⟨e, h⟩

theorem Attempts.concludes (h : Attempts files flags schema table comment procedures r log)
    (hbegun : ∃ x ∈ log, x.succeeds Statement.begin.text = true) :
    ∃ s first body last answer, settings files flags = .ok s ∧
      log = .ran .begin (.ok first) :: (body ++ [.ran last answer]) ∧
      Concludes procedures files (s.request schema table comment) body last := by
  cases h with
  | unasked e => simp at hbegun
  | asked s outcome log hsettings htransacts =>
    obtain ⟨first, body, last, answer, hlog, ⟨rfl, i, hbody⟩ | ⟨rfl, e, hbody⟩⟩ := htransacts.ends hbegun
    · exact ⟨s, first, body, .commit, answer, hsettings, hlog, concludes_ok hbody⟩
    · exact ⟨s, first, body, .rollback, answer, hsettings, hlog, concludes_error hbody⟩

theorem Attempts.ok_iff (h : Attempts files flags schema table comment procedures r log) :
    (∃ v, r = .ok v) ↔ ∃ x ∈ log, x.succeeds Statement.commit.text = true := by
  cases h with
  | unasked e => simp
  | asked s outcome log hsettings htransacts =>
    rw [← htransacts.ok_iff fun _ _ h => h.within]
    cases outcome with
    | ok i => exact iff_of_true ⟨_, rfl⟩ ⟨i, rfl⟩
    | error e => exact iff_of_false nofun nofun

end

/-- Whatever the server answers, the command that imports a file sends COMMIT only as the last statement
    and right after a load that was finished well. Once a transaction has begun it ends with COMMIT, if
    the table was made, described and looked up and the whole file was loaded into it, and else with
    ROLLBACK. The program succeeds just when the server has committed, and settings that are refused
    leave the server unasked. -/
theorem load_all_or_nothing (env : Environment σ) (flags : FileFlags) (schema table : String)
    (comment : Option String) (c : Connection) :
    Runs ((Invocation.load flags schema table comment c).run env)
      ((Invocation.load flags schema table comment c).run env.traced) fun outcome log =>
      (∀ before x after, log = before ++ x :: after → x.text? = some Statement.commit.text →
        after = [] ∧ ∃ n, before.getLast? = some (.finish (.ok n))) ∧
      ((∃ x ∈ log, x.succeeds Statement.begin.text = true) → ∃ s first body last answer,
        settings env.files flags = .ok s ∧ log = .ran .begin (.ok first) :: (body ++ [.ran last answer]) ∧
        Concludes c.procedures env.files (s.request schema table comment) body last) ∧
      (outcome.exitCode = 0 ↔ ∃ x ∈ log, x.succeeds Statement.commit.text = true) ∧
      ∀ e, settings env.files flags = .error e → log = [] := by
  refine (load_runs env flags schema table comment c).bindState fun r log h => Database.runs_pure ?_
  rw [List.append_nil]
  refine ⟨fun before x after => h.commit_last, h.concludes, ?_, ?_⟩
  · rw [exitCode_finished]
    exact h.ok_iff
  · intro e he
    cases h with
    | unasked _ => rfl
    | asked s outcome log hsettings _ =>
      rw [he] at hsettings
      cases hsettings

end

def rowEnvironment : Environment Database.Replies :=
  ⟨Load.smallFiles, [], none, fun _ => true, Database.Replies.server⟩

def rowFlags : FileFlags := ⟨some "rows.csv", none, none, none, none, some true, none⟩

section

open scoped Excerpt

def rowRun (flags : FileFlags) (replies : List (String × Database.Reply)) :
    Outcome × Traced Database.Replies Message :=
  ((Invocation.load flags "public" "t" none ⟨some "db", "msar"⟩).run rowEnvironment.traced).run
    ⟨.ofList replies, []⟩

/-- How a run ends, whether a transaction has begun, and the last statement. -/
def seen (run : Outcome × Traced Database.Replies Message) : UInt8 × Bool × Option String :=
  (run.1.exitCode, run.2.log.any (·.succeeds Statement.begin.text), run.2.log.getLast?.bind Message.text?)

theorem load_of_row :
    (∃ s first body answer i, settings Load.smallFiles rowFlags = .ok s ∧
      (rowRun rowFlags []).2.log = .ran .begin (.ok first) :: (body ++ [.ran .commit answer]) ∧
      Completes Load.smallFiles (s.request "public" "t" none) i body ∧
      (∃ n, (.ran .begin (.ok first) :: body).getLast? = some (.finish (.ok n))) ∧
      ∃ x ∈ (rowRun rowFlags []).2.log, x.succeeds Statement.commit.text = true) ∧
    (∃ s first body answer e, settings Load.smallFiles rowFlags = .ok s ∧
      (rowRun rowFlags [("copy_finish", .failure (.ofMessage "full"))]).2.log =
        .ran .begin (.ok first) :: (body ++ [.ran .rollback answer]) ∧
      Sends "msar" Load.smallFiles (s.request "public" "t" none) (.error e) body) ∧
    settings Load.smallFiles { rowFlags with input := none } = .error .noFile ∧
      (rowRun { rowFlags with input := none } []).2.log = [] := by
  have hruns := fun flags => load_all_or_nothing rowEnvironment flags "public" "t" none ⟨some "db", "msar"⟩
  refine ⟨?_, ?_, rfl, ?_⟩
  · obtain ⟨log, hrun, hcommit, hbegin, hexit, -⟩ := hruns rowFlags (.ofList []) []
    rw [List.nil_append] at hrun
    have hseen : seen (rowRun rowFlags []) = (0, true, some "COMMIT") := by decide +kernel
    rw [rowRun, hrun] at hseen ⊢
    simp only [seen, Prod.mk.injEq, List.any_eq_true] at hseen
    obtain ⟨hzero, hbegun, hlast⟩ := hseen
    obtain ⟨s, first, body, last, answer, hsettings, hlog, hconcludes⟩ := hbegin hbegun
    rw [hlog, ← List.cons_append, List.getLast?_concat] at hlast
    rcases hconcludes.ends with rfl | rfl
    · obtain ⟨i, hcompletes⟩ := hconcludes.commit_iff.mp rfl
      obtain ⟨-, hfinished⟩ := hcommit (.ran .begin (.ok first) :: body) _ [] hlog rfl
      exact ⟨s, first, body, answer, i, hsettings, hlog, hcompletes, hfinished, hexit.mp hzero⟩
    · simp [Message.text?, Statement.rollback] at hlast
  · obtain ⟨log, hrun, -, hbegin, -⟩ :=
      hruns rowFlags (.ofList [("copy_finish", .failure (.ofMessage "full"))]) []
    rw [List.nil_append] at hrun
    have hseen : seen (rowRun rowFlags [("copy_finish", .failure (.ofMessage "full"))]) =
        (1, true, some "ROLLBACK") := by decide +kernel
    rw [rowRun, hrun] at hseen ⊢
    simp only [seen, Prod.mk.injEq, List.any_eq_true] at hseen
    obtain ⟨-, hbegun, hlast⟩ := hseen
    obtain ⟨s, first, body, last, answer, hsettings, hlog, hconcludes⟩ := hbegin hbegun
    rw [hlog, ← List.cons_append, List.getLast?_concat] at hlast
    rcases hconcludes.ends with rfl | rfl
    · simp [Message.text?, Statement.commit] at hlast
    · obtain ⟨e, hsends⟩ := hconcludes.failed rfl
      exact ⟨s, first, body, answer, e, hsettings, hlog, hsends⟩
  · obtain ⟨log, hrun, -, -, -, hnone⟩ := hruns { rowFlags with input := none } (.ofList []) []
    rw [rowRun, hrun]
    exact hnone .noFile rfl

end

end Intake.Command
