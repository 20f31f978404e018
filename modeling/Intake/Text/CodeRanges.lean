/-
  Intake.Text.CodeRanges — a set of characters written as ranges of code points, the form in
  which the character properties of this library are tabulated.
-/

namespace Intake.Text

/-- Inclusive ranges of code points, in ascending order. -/
structure CodeRanges where
  ranges : List (Nat × Nat)

namespace CodeRanges

def contains (set : CodeRanges) (c : Char) : Bool :=
  set.ranges.any fun range => range.1 ≤ c.toNat && c.toNat ≤ range.2

theorem contains_iff {set : CodeRanges} {c : Char} :
    set.contains c = true ↔ ∃ range ∈ set.ranges, range.1 ≤ c.toNat ∧ c.toNat ≤ range.2 := by
  simp [contains]

end CodeRanges

end Intake.Text
