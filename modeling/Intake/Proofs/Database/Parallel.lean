/-
  Intake.Proofs.Database.Parallel — one program with two databases.

  Two databases that answer every request alike, and keep their states related, cannot be told apart by
  a program that uses them only by their requests: it comes to the same with both. This is used for a
  database that does its work by other means and logs those: what is known of the requests of a program
  is then known of what was done for them.

  Proved:
  - `Parallel.bind`: programs are parallel as their steps are.
  - `Carries.parallel`: a database that carries out the requests of another one is parallel to it.
  - `Runs.carried`: so what a program asks for is what is carried out.
  - `exists_served`: and nothing else is.
-/

import Intake.Proofs.Database.Traced
import Mathlib.Data.List.Forall2

namespace Intake.Database

variable {σ τ ξ ε α β : Type}

/-! ## Parallel programs -/

/-- From related states both programs come to the same result, and to related states. -/
def Parallel (R : σ → τ → Prop) (x : StateM σ α) (y : StateM τ α) : Prop :=
  ∀ s t, R s t → (y.run t).1 = (x.run s).1 ∧ R (x.run s).2 (y.run t).2

section

variable {R : σ → τ → Prop}

theorem parallel_pure (a : α) : Parallel R (pure a : StateM σ α) (pure a) := by
  intro s t h
  exact ⟨rfl, h⟩

theorem Parallel.bindState {x : StateM σ α} {y : StateM τ α} {f : α → StateM σ β} {g : α → StateM τ β}
    (h : Parallel R x y) (hnext : ∀ a, Parallel R (f a) (g a)) : Parallel R (x >>= f) (y >>= g) := by
  intro s t hst
  obtain ⟨hresult, hstates⟩ := h s t hst
  have hrest := hnext (x.run s).1 _ _ hstates
  show (((g (y.run t).1).run (y.run t).2).1 = ((f (x.run s).1).run (x.run s).2).1) ∧
    R ((f (x.run s).1).run (x.run s).2).2 ((g (y.run t).1).run (y.run t).2).2
  rw [hresult]
  exact hrest

theorem Parallel.bind {x : ExceptT ε (StateM σ) α} {y : ExceptT ε (StateM τ) α}
    {f : α → ExceptT ε (StateM σ) β} {g : α → ExceptT ε (StateM τ) β} (h : Parallel R x.run y.run)
    (hnext : ∀ a, Parallel R (f a).run (g a).run) : Parallel R (x >>= f).run (y >>= g).run := by
  rw [ExceptT.run_bind, ExceptT.run_bind]
  refine h.bindState fun r => ?_
  cases r with
  | ok a => exact hnext a
  | error e => exact parallel_pure _

theorem parallel_settled {x : Except ε α} {f : α → ExceptT ε (StateM σ) β} {g : α → ExceptT ε (StateM τ) β}
    (hnext : ∀ a, Parallel R (f a).run (g a).run) :
    Parallel R (ExceptT.mk (pure x) >>= f).run (ExceptT.mk (pure x) >>= g).run :=
  Parallel.bind (parallel_pure x) hnext

end

/-- Databases that answer every request alike. -/
structure Parallels (R : σ → τ → Prop) (db : Database σ) (db' : Database τ) : Prop where
  call : ∀ name args, Parallel R (db.call name args) (db'.call name args)
  createTable : ∀ t, Parallel R (db.createTable t) (db'.createTable t)
  copyIn : ∀ command, Parallel R (db.copyIn command) (db'.copyIn command)
  write : ∀ bytes, Parallel R (db.write bytes) (db'.write bytes)
  flush : Parallel R db.flush db'.flush
  finish : Parallel R db.finish db'.finish

/-! ## Requests and how they are carried out -/

/-- The second database does what the first one does, and logs for every request and its answer
    something that serves them. -/
structure Carries (serves : Exchange → List ξ → Prop) (db : Database σ) (db' : Database (Traced σ ξ)) : Prop where
  call : ∀ name args, Runs (db.call name args) (db'.call name args) fun r => serves (.call name args r)
  createTable : ∀ t, Runs (db.createTable t) (db'.createTable t) fun r => serves (.createTable t r)
  copyIn : ∀ command, Runs (db.copyIn command) (db'.copyIn command) fun r => serves (.copyIn command r)
  write : ∀ bytes, Runs (db.write bytes) (db'.write bytes) fun r => serves (.write bytes r)
  flush : Runs db.flush db'.flush fun r => serves (.flush r)
  finish : Runs db.finish db'.finish fun r => serves (.finish r)

/-- What was logged after `log` serves what was asked for. -/
def Linked (serves : Exchange → List ξ → Prop) (log : List ξ) (t : Traced σ) (u : Traced σ ξ) : Prop :=
  u.state = t.state ∧ ∃ logs, List.Forall₂ serves t.log logs ∧ u.log = log ++ logs.flatten

section

variable {serves : Exchange → List ξ → Prop}

theorem parallel_noted {x : StateM σ α} {exchange : α → Exchange} {y : StateM (Traced σ ξ) α}
    (h : Runs x y fun r => serves (exchange r)) (log : List ξ) :
    Parallel (Linked serves log) (noted x exchange) y := by
  rintro ⟨s, asked⟩ ⟨s', log'⟩ ⟨hstate, logs, hserves, hlog⟩
  simp only at hstate hserves hlog
  subst hstate
  obtain ⟨more, hrun, hmore⟩ := h s' log'
  rw [hrun]
  refine ⟨rfl, rfl, logs ++ [more], ?_, ?_⟩
  · exact List.rel_append hserves (.cons hmore .nil)
  · simp [hlog]

theorem Carries.parallel {db : Database σ} {db' : Database (Traced σ ξ)} (h : Carries serves db db')
    (log : List ξ) : Parallels (Linked serves log) db.traced db' where
  call := fun name args => parallel_noted (h.call name args) log
  createTable := fun t => parallel_noted (h.createTable t) log
  copyIn := fun command => parallel_noted (h.copyIn command) log
  write := fun bytes => parallel_noted (h.write bytes) log
  flush := parallel_noted h.flush log
  finish := parallel_noted h.finish log

theorem Runs.carried {x : StateM σ α} {y : StateM (Traced σ) α} {z : StateM (Traced σ ξ) α}
    {P : α → List Exchange → Prop} (h : Runs x y P) (hparallel : ∀ log, Parallel (Linked serves log) y z) :
    Runs x z fun a log => ∃ asked logs, P a asked ∧ List.Forall₂ serves asked logs ∧ log = logs.flatten := by
  intro s log
  obtain ⟨asked, hrun, hpost⟩ := h s []
  obtain ⟨hresult, hstate, logs, hserves, hlog⟩ := hparallel log ⟨s, []⟩ ⟨s, log⟩ ⟨rfl, [], .nil, by simp⟩
  simp only [hrun, List.nil_append] at hresult hstate hserves
  refine ⟨logs.flatten, ?_, asked, logs, hpost, hserves, rfl⟩
  rw [← hlog, ← hresult, ← hstate]
  rfl

/-- All that is carried out is carried out for a request. -/
theorem exists_served {asked : List Exchange} {logs : List (List ξ)} (h : List.Forall₂ serves asked logs) {y : ξ}
    (hy : y ∈ logs.flatten) : ∃ x ∈ asked, ∃ log, serves x log ∧ y ∈ log := by
  induction h with
  | nil => simp at hy
  | @cons x log asked logs hserves _ ih =>
    rw [List.flatten_cons, List.mem_append] at hy
    rcases hy with hy | hy
    · exact ⟨x, List.mem_cons_self, log, hserves, hy⟩
    · obtain ⟨x', hx', hrest⟩ := ih hy
      exact ⟨x', List.mem_cons_of_mem _ hx', hrest⟩

end

end Intake.Database
