/-
  Intake.Proofs.Database.Transaction — what a session sends around the requests of a transaction.

  Proved:
  - `transaction_runs`: a transaction is begun, does what its body does, and is committed or taken back.
  - `Transacts.ends`: if it has begun, it is committed just when its body succeeds.
  - `Transacts.commit_last`: no body that stays within its transaction commits, and after the commit
    nothing is sent.
  - `Transacts.ok_iff`: a transaction succeeds just when the server commits it.
-/

import Intake.Proofs.Database.Served

namespace Intake.Database

variable {σ : Type}

/-! ## What is sent -/

/-- How a transaction ends, and what is sent around what its body sends. -/
inductive Transacts {ε α : Type} (P : Except ε α → List Message → Prop) :
    Except (Session.TransactionError ε) α → List Message → Prop
  | unbegun (e : Error) (answer : Except Error (List (Option String))) :
      Transacts P (.error (.begin e)) [.ran .begin (.error e), .ran .rollback answer]
  | undone (rows : List (Option String)) (e : ε) (body : List Message) (answer : Except Error (List (Option String)))
      (hbody : P (.error e) body) :
      Transacts P (.error (.body e)) (.ran .begin (.ok rows) :: (body ++ [.ran .rollback answer]))
  | uncommitted (rows : List (Option String)) (a : α) (body : List Message) (e : Error) (hbody : P (.ok a) body) :
      Transacts P (.error (.commit e)) (.ran .begin (.ok rows) :: (body ++ [.ran .commit (.error e)]))
  | committed (rows : List (Option String)) (a : α) (body : List Message) (more : List (Option String))
      (hbody : P (.ok a) body) :
      Transacts P (.ok a) (.ran .begin (.ok rows) :: (body ++ [.ran .commit (.ok more)]))

theorem runs_ran {β : Type} {server : Server σ} {s : Statement}
    {f : Except Error (List (Option String)) → StateM σ β}
    {g : Except Error (List (Option String)) → StateM (Traced σ Message) β} {Q : β → List Message → Prop}
    (hnext : ∀ answer, Runs (f answer) (g answer) fun b more => Q b (.ran s answer :: more)) :
    Runs (server.run s >>= f) (server.traced.run s >>= g) Q := by
  refine Runs.bindState (runs_noted (P := fun answer log => log = [.ran s answer]) fun _ => rfl) ?_
  intro answer log h
  subst h
  exact hnext answer

theorem transaction_runs {ε α : Type} (server : Server σ) {x : StateM σ (Except ε α)}
    {y : StateM (Traced σ Message) (Except ε α)} {P : Except ε α → List Message → Prop} (h : Runs x y P) :
    Runs (Session.transaction server x) (Session.transaction server.traced y) (Transacts P) := by
  refine runs_ran fun answer => ?_
  cases answer with
  | error e => exact runs_ran fun answer => runs_pure (.unbegun e answer)
  | ok rows =>
    refine h.bindState fun r body hbody => ?_
    cases r with
    | error e => exact runs_ran fun answer => runs_pure (.undone rows e body answer hbody)
    | ok a =>
      refine runs_ran fun answer => ?_
      cases answer with
      | error e => exact runs_pure (.uncommitted rows a body e hbody)
      | ok more => exact runs_pure (.committed rows a body more hbody)

/-! ## How a transaction ends -/

section

variable {ε α : Type} {P : Except ε α → List Message → Prop}
  {outcome : Except (Session.TransactionError ε) α} {log : List Message}

/-- A transaction that has begun ends with one more statement, and which one depends on its body. -/
theorem Transacts.ends (h : Transacts P outcome log)
    (hbegun : ∃ x ∈ log, x.succeeds Statement.begin.text = true) :
    ∃ first body last answer, log = .ran .begin (.ok first) :: (body ++ [.ran last answer]) ∧
      (last = .commit ∧ (∃ a, P (.ok a) body) ∨ last = .rollback ∧ ∃ e, P (.error e) body) := by
  cases h with
  | unbegun e answer =>
    cases answer with
    | ok rows => simp [Message.succeeds, Statement.begin, Statement.rollback] at hbegun
    | error e' => simp [Message.succeeds] at hbegun
  | undone first e body answer hbody => exact ⟨_, body, .rollback, answer, rfl, .inr ⟨rfl, e, hbody⟩⟩
  | uncommitted first a body e hbody => exact ⟨_, body, .commit, .error e, rfl, .inl ⟨rfl, a, hbody⟩⟩
  | committed first a body more hbody => exact ⟨_, body, .commit, .ok more, rfl, .inl ⟨rfl, a, hbody⟩⟩

theorem Message.Within.not_commit {x : Message} (h : x.Within) : x.text? ≠ some Statement.commit.text := by
  intro hx
  exact h _ hx (by decide)

theorem last_of_append {ξ : Type} {l before after : List ξ} {x z : ξ} (h : l ++ [z] = before ++ x :: after)
    (hx : x ∉ l) : before = l ∧ x = z ∧ after = [] := by
  rcases List.eq_nil_or_concat after with rfl | ⟨init, last, rfl⟩
  · obtain ⟨hl, hz⟩ := List.append_inj' h rfl
    exact ⟨hl.symm, (List.singleton_inj.mp hz).symm, rfl⟩
  · rw [List.concat_eq_append, ← List.cons_append, ← List.append_assoc] at h
    obtain ⟨hl, -⟩ := List.append_inj' h rfl
    refine absurd ?_ hx
    simp [hl]

theorem begin_not_commit (answer : Except Error (List (Option String))) :
    (Message.ran .begin answer).text? ≠ some Statement.commit.text := by
  simp [Message.text?, Statement.begin, Statement.commit]

theorem rollback_not_commit (answer : Except Error (List (Option String))) :
    (Message.ran .rollback answer).text? ≠ some Statement.commit.text := by
  simp [Message.text?, Statement.rollback, Statement.commit]

variable (hwithin : ∀ r body, P r body → ∀ x ∈ body, x.Within)
include hwithin

theorem commit_not_mem {r : Except ε α} {body : List Message} (h : P r body) {x : Message}
    (hx : x.text? = some Statement.commit.text) (answer : Except Error (List (Option String))) :
    x ∉ .ran .begin answer :: body := by
  intro hmem
  rcases List.mem_cons.mp hmem with rfl | hmem
  · exact begin_not_commit answer hx
  · exact (hwithin r body h x hmem).not_commit hx

/-- Only a body that succeeds is committed, and after that nothing is sent. -/
theorem Transacts.commit_last (h : Transacts P outcome log) {before after : List Message} {x : Message}
    (hlog : log = before ++ x :: after) (hx : x.text? = some Statement.commit.text) :
    after = [] ∧ ∃ first a body, before = .ran .begin first :: body ∧ P (.ok a) body := by
  cases h with
  | unbegun e answer =>
    have hfirst : x ∉ [.ran .begin (.error e)] := by
      intro hmem
      rw [List.mem_singleton.mp hmem] at hx
      exact begin_not_commit _ hx
    obtain ⟨-, rfl, -⟩ := last_of_append hlog hfirst
    exact absurd hx (rollback_not_commit answer)
  | undone first e body answer hbody =>
    rw [← List.cons_append] at hlog
    obtain ⟨-, rfl, -⟩ := last_of_append hlog (commit_not_mem hwithin hbody hx _)
    exact absurd hx (rollback_not_commit answer)
  | uncommitted first a body e hbody =>
    rw [← List.cons_append] at hlog
    obtain ⟨rfl, rfl, rfl⟩ := last_of_append hlog (commit_not_mem hwithin hbody hx _)
    exact ⟨rfl, _, a, body, rfl, hbody⟩
  | committed first a body more hbody =>
    rw [← List.cons_append] at hlog
    obtain ⟨rfl, rfl, rfl⟩ := last_of_append hlog (commit_not_mem hwithin hbody hx _)
    exact ⟨rfl, _, a, body, rfl, hbody⟩

theorem Transacts.ok_iff (h : Transacts P outcome log) :
    (∃ a, outcome = .ok a) ↔ ∃ x ∈ log, x.succeeds Statement.commit.text = true := by
  constructor
  · intro hok
    obtain ⟨a, rfl⟩ := hok
    cases h with
    | committed first a body more hbody => exact ⟨.ran .commit (.ok more), by simp, rfl⟩
  · intro hcommit
    obtain ⟨x, hmem, hx⟩ := hcommit
    have htext := Message.text?_of_succeeds hx
    obtain ⟨before, after, hlog⟩ := List.append_of_mem hmem
    obtain ⟨rfl, -⟩ := h.commit_last hwithin hlog htext
    have hlast : log.getLast? = some x := by rw [hlog, List.getLast?_concat]
    cases h with
    | unbegun e answer =>
      cases hlast
      exact absurd htext (rollback_not_commit answer)
    | undone first e body answer hbody =>
      rw [← List.cons_append, List.getLast?_concat] at hlast
      cases hlast
      exact absurd htext (rollback_not_commit answer)
    | uncommitted first a body e hbody =>
      rw [← List.cons_append, List.getLast?_concat] at hlast
      cases hlast
      cases hx
    | committed first a body more hbody => exact ⟨a, rfl⟩

end

end Intake.Database
