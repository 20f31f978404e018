/-
  Intake.Proofs.Text.Machine — the output of a machine, from whatever state it is in.

  `outputFrom` is what a machine has still to give in a state, for the input that is still to come. It
  can be taken apart symbol by symbol, or after any beginning of the input.

  Proved:
  - `outputFrom_append`: what was fed before shows in the state and in nothing else.
  - `outputFrom_andThen`, `run_andThen`: two machines, one after the other, give what the second
    makes of the output of the first.
-/

import Intake.Text.Machine

namespace Intake.Text.Machine

variable {α β γ : Type}

/-- What a machine in some state gives for an input and at its end. -/
def outputFrom (m : Machine α β) (s : m.State) (xs : List α) : List β := m.close (m.feed (s, #[]) xs)

theorem feed_output (m : Machine α β) (s : m.State) (out : Array β) (xs : List α) :
    m.feed (s, out) xs = ((m.feed (s, #[]) xs).1, out ++ (m.feed (s, #[]) xs).2) := by
  induction xs generalizing s out with
  | nil => simp [feed]
  | cons x xs ih =>
    have hcons : ∀ o, m.feed (s, o) (x :: xs) = m.feed ((m.step s x).1, o ++ (m.step s x).2) xs := fun _ => rfl
    rw [hcons, hcons, ih, ih _ (#[] ++ _)]
    refine Prod.ext rfl (Array.ext' ?_)
    simp

theorem feed_cons (m : Machine α β) (s : m.State) (x : α) (xs : List α) :
    m.feed (s, #[]) (x :: xs) =
      ((m.feed ((m.step s x).1, #[]) xs).1, (m.step s x).2.toArray ++ (m.feed ((m.step s x).1, #[]) xs).2) := by
  have hcons := m.feed_output (m.step s x).1 ((#[] : Array β) ++ (m.step s x).2) xs
  refine hcons.trans (Prod.ext rfl (Array.ext' ?_))
  simp

theorem outputFrom_nil (m : Machine α β) (s : m.State) : m.outputFrom s [] = m.finish s := by
  simp [outputFrom, close, feed]

theorem outputFrom_append (m : Machine α β) (s : m.State) (xs ys : List α) :
    m.outputFrom s (xs ++ ys) =
      (m.feed (s, #[]) xs).2.toList ++ m.outputFrom (m.feed (s, #[]) xs).1 ys := by
  rw [outputFrom, feed_append, feed_output, outputFrom]
  simp [close]

theorem outputFrom_cons (m : Machine α β) (s : m.State) (x : α) (xs : List α) :
    m.outputFrom s (x :: xs) = (m.step s x).2 ++ m.outputFrom (m.step s x).1 xs := by
  have h := m.outputFrom_append s [x] xs
  simpa [feed, advance] using h

theorem outputFrom_andThen (m : Machine α β) (n : Machine β γ) (s : m.State) (t : n.State) (xs : List α) :
    (m.andThen n).outputFrom (s, t) xs = n.outputFrom t (m.outputFrom s xs) := by
  induction xs generalizing s t with
  | nil =>
    rw [m.outputFrom_nil]
    exact (m.andThen n).outputFrom_nil (s, t)
  | cons x xs ih =>
    rw [m.outputFrom_cons, n.outputFrom_append]
    refine ((m.andThen n).outputFrom_cons (s, t) x xs).trans ?_
    exact congrArg _ (ih _ _)

theorem run_andThen (m : Machine α β) (n : Machine β γ) (xs : List α) :
    (m.andThen n).run xs = n.run (m.run xs) :=
  outputFrom_andThen m n m.start n.start xs

end Intake.Text.Machine
