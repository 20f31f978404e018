/-
  Intake.Proofs.Database.Traced — what a database is asked, and what it answers.

  A traced database is the database it traces, with a log beside its state. `Runs` is the statement
  about a program that is worth proving: with the traced database it does what it does with the
  database itself, and result and log are as they should be. What is logged may be anything, so the
  same is said of programs that use something else than a database.

  Proved:
  - `runs_noted`: the requests of a traced database, each by itself.
  - `Runs.bind`: a program is as its steps are.
  - `runs_settled`: a step that does not depend on the database leaves no log.
-/

import Intake.Database.Basic
import Intake.Proofs.Outcome

namespace Intake.Database

/-- A request and its answer. -/
inductive Exchange where
  | call (name : String) (args : List Argument) (answer : Except Error (Option String))
  | createTable (table : NewTable) (answer : Except Error Table)
  | copyIn (command : String) (answer : Except Error Unit)
  | write (bytes : List UInt8) (answer : Except String Unit)
  | flush (answer : Except String Unit)
  | finish (answer : Except Error Nat)

/-- A state with a log beside it, of exchanges with a database unless something else is logged. -/
structure Traced (σ : Type) (ξ : Type := Exchange) where
  state : σ
  /-- What was asked, the oldest first. -/
  log : List ξ

variable {σ ξ ε α β : Type}

def noted (ask : StateM σ α) (exchange : α → ξ) : StateM (Traced σ ξ) α := do
  let t ← get
  let (answer, s) := ask.run t.state
  set (⟨s, t.log ++ [exchange answer]⟩ : Traced σ ξ)
  return answer

def traced (db : Database σ) : Database (Traced σ) where
  call := fun name args => noted (db.call name args) (.call name args)
  createTable := fun t => noted (db.createTable t) (.createTable t)
  copyIn := fun command => noted (db.copyIn command) (.copyIn command)
  write := fun bytes => noted (db.write bytes) (.write bytes)
  flush := noted db.flush .flush
  finish := noted db.finish .finish

/-- The second program does what the first one does and logs what it asks for; result and log are
    as said. -/
def Runs (x : StateM σ α) (y : StateM (Traced σ ξ) α) (post : α → List ξ → Prop) : Prop :=
  ∀ s log, ∃ asked,
    y.run ⟨s, log⟩ = ((x.run s).1, ⟨(x.run s).2, log ++ asked⟩) ∧ post (x.run s).1 asked

theorem Runs.mono {x : StateM σ α} {y : StateM (Traced σ ξ) α} {P Q : α → List ξ → Prop}
    (h : Runs x y P) (hPQ : ∀ a log, P a log → Q a log) : Runs x y Q := by
  intro s log
  obtain ⟨asked, hrun, hpost⟩ := h s log
  exact ⟨asked, hrun, hPQ _ _ hpost⟩

theorem Runs.and {x : StateM σ α} {y : StateM (Traced σ ξ) α} {P Q : α → List ξ → Prop} (h : Runs x y P)
    (h' : Runs x y Q) : Runs x y fun a log => P a log ∧ Q a log := by
  intro s log
  obtain ⟨asked, hrun, hP⟩ := h s log
  obtain ⟨asked', hrun', hQ⟩ := h' s log
  rw [hrun] at hrun'
  have hlog : log ++ asked = log ++ asked' := congrArg (·.2.log) hrun'
  rw [← List.append_cancel_left hlog] at hQ
  exact ⟨asked, hrun, hP, hQ⟩

theorem runs_pure {a : α} {P : α → List ξ → Prop} (h : P a []) :
    Runs (pure a : StateM σ α) (pure a) P := by
  intro s log
  exact ⟨[], by rw [List.append_nil]; rfl, h⟩

theorem runs_noted {ask : StateM σ α} {exchange : α → ξ} {P : α → List ξ → Prop}
    (h : ∀ a, P a [exchange a]) : Runs ask (noted ask exchange) P := by
  intro s log
  exact ⟨[exchange (ask.run s).1], rfl, h _⟩

theorem Runs.bindState {x : StateM σ α} {y : StateM (Traced σ ξ) α} {f : α → StateM σ β}
    {g : α → StateM (Traced σ ξ) β} {P : α → List ξ → Prop} {Q : β → List ξ → Prop}
    (h : Runs x y P) (hnext : ∀ a log, P a log → Runs (f a) (g a) fun b more => Q b (log ++ more)) :
    Runs (x >>= f) (y >>= g) Q := by
  intro s log
  obtain ⟨asked, hrun, hpost⟩ := h s log
  obtain ⟨more, hmore, hQ⟩ := hnext _ _ hpost (x.run s).2 (log ++ asked)
  refine ⟨asked ++ more, ?_, hQ⟩
  rw [← List.append_assoc]
  simp only [StateT.run_bind, hrun] at hmore ⊢
  exact hmore

/-- A step that fails ends the program; after one that succeeds the rest of it runs. -/
theorem Runs.bind {x : ExceptT ε (StateM σ) α} {y : ExceptT ε (StateM (Traced σ ξ)) α}
    {f : α → ExceptT ε (StateM σ) β} {g : α → ExceptT ε (StateM (Traced σ ξ)) β}
    {P : Except ε α → List ξ → Prop} {Q : Except ε β → List ξ → Prop}
    (h : Runs x.run y.run P) (hfail : ∀ e log, P (.error e) log → Q (.error e) log)
    (hnext : ∀ a log, P (.ok a) log → Runs (f a).run (g a).run fun b more => Q b (log ++ more)) :
    Runs (x >>= f).run (y >>= g).run Q := by
  rw [ExceptT.run_bind, ExceptT.run_bind]
  refine h.bindState fun a log ha => ?_
  cases a with
  | ok a => exact hnext a log ha
  | error e => exact runs_pure (by rw [List.append_nil]; exact hfail e log ha)

theorem runs_settled {x : Except ε α} {f : α → ExceptT ε (StateM σ) β}
    {g : α → ExceptT ε (StateM (Traced σ ξ)) β} {Q : Except ε β → List ξ → Prop}
    (hfail : ∀ e, x = .error e → Q (.error e) []) (hnext : ∀ a, x = .ok a → Runs (f a).run (g a).run Q) :
    Runs (ExceptT.mk (pure x) >>= f).run (ExceptT.mk (pure x) >>= g).run Q := by
  refine Runs.bind (P := fun r log => r = x ∧ log = []) (runs_pure ⟨rfl, rfl⟩) ?_ ?_
  · rintro e - ⟨he, rfl⟩
    exact hfail e he.symm
  · rintro a - ⟨ha, rfl⟩
    exact hnext a ha.symm

section

variable {ε' : Type} {wrap : ε → ε'} {x : StateM σ (Except ε α)} {y : StateM (Traced σ ξ) (Except ε α)}
  {P : Except ε α → List ξ → Prop}

theorem Runs.mapError (h : Runs x y P) :
    Runs (do return (← x).mapError wrap) (do return (← y).mapError wrap)
      fun r log => ∃ answer, r = answer.mapError wrap ∧ P answer log := by
  refine h.bindState fun answer log ha => runs_pure ?_
  rw [List.append_nil]
  exact ⟨answer, rfl, ha⟩

theorem Runs.bindMapError {f : α → ExceptT ε' (StateM σ) β} {g : α → ExceptT ε' (StateM (Traced σ ξ)) β}
    {Q : Except ε' β → List ξ → Prop} (h : Runs x y P)
    (hfail : ∀ e log, P (.error e) log → Q (.error (wrap e)) log)
    (hnext : ∀ a log, P (.ok a) log → Runs (f a).run (g a).run fun r more => Q r (log ++ more)) :
    Runs (ExceptT.mk (do return (← x).mapError wrap) >>= f).run
      (ExceptT.mk (do return (← y).mapError wrap) >>= g).run Q := by
  refine Runs.bind h.mapError ?_ ?_
  · intro e log ha
    obtain ⟨answer, he, hlog⟩ := ha
    obtain ⟨e, rfl, rfl⟩ := mapError_error_iff.mp he.symm
    exact hfail e log hlog
  · intro a log ha
    obtain ⟨answer, ha, hlog⟩ := ha
    obtain rfl := mapError_ok_iff.mp ha.symm
    exact hnext a log hlog

end

end Intake.Database
