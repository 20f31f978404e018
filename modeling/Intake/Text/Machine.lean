/-
  Intake.Text.Machine — readers that take one symbol at a time.

  A machine holds a state between symbols, gives some output for each and the rest at the end.
  Decoders and the removal of byte-order marks are machines, and machines compose, so a text read
  in pieces is the text read at once (`feed_append`, `run_append`).
-/

namespace Intake.Text

/-- A decoded character, or `none` where a malformed sequence stood. -/
abbrev Symbol := Option Char

structure Machine (α β : Type) where
  State : Type
  start : State
  step : State → α → State × List β
  finish : State → List β

namespace Machine

variable {α β γ : Type}

/-- A machine in the middle of its input: its state and the output so far. -/
abbrev Run (m : Machine α β) := m.State × Array β

def begin (m : Machine α β) : m.Run := (m.start, #[])

def advance (m : Machine α β) (r : m.Run) (x : α) : m.Run :=
  let next := m.step r.1 x
  (next.1, r.2 ++ next.2)

def feed (m : Machine α β) (r : m.Run) (xs : List α) : m.Run := xs.foldl m.advance r

def close (m : Machine α β) (r : m.Run) : List β := (r.2 ++ m.finish r.1).toList

def run (m : Machine α β) (xs : List α) : List β := m.close (m.feed m.begin xs)

/-- The output for an input of which more may follow. -/
def before (m : Machine α β) (xs : List α) : List β := (m.feed m.begin xs).2.toList

/-- Every output of the first machine is an input of the second. -/
def andThen (m : Machine α β) (n : Machine β γ) : Machine α γ where
  State := m.State × n.State
  start := (m.start, n.start)
  step := fun s x =>
    let passed := m.step s.1 x
    let r := n.feed (s.2, #[]) passed.2
    ((passed.1, r.1), r.2.toList)
  finish := fun s => n.close (n.feed (s.2, #[]) (m.finish s.1))

theorem feed_append (m : Machine α β) (r : m.Run) (xs ys : List α) :
    m.feed r (xs ++ ys) = m.feed (m.feed r xs) ys := by
  simp [feed]

theorem run_append (m : Machine α β) (xs ys : List α) :
    m.run (xs ++ ys) = m.close (m.feed (m.feed m.begin xs) ys) := by
  simp [run, feed_append]

end Machine

end Intake.Text
