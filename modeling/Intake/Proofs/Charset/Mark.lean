/-
  Intake.Proofs.Charset.Mark — the mark of an encoding is found in the first bytes of a text.

  No mark is longer than `headLength`, so what the head of a text says about marks, the whole text
  says (`marked?_take`), and a mark that is found can be dropped (`ownMarkLength_le`).
-/

import Intake.Charset.Mark

namespace Intake.Charset

theorem length_mark_le (c : Charset) : c.mark.length ≤ headLength := by
  cases c <;> simp [mark, headLength]

theorem marked?_take (bytes : List UInt8) : marked? (bytes.take headLength) = marked? bytes := by
  have h : ∀ c : Charset, c.mark.isPrefixOf (bytes.take headLength) = c.mark.isPrefixOf bytes := by
    intro c
    rw [Bool.eq_iff_iff, List.isPrefixOf_iff_prefix, List.isPrefixOf_iff_prefix, List.prefix_take_iff]
    exact ⟨fun h => h.1, fun h => ⟨h, length_mark_le c⟩⟩
  simp only [marked?, h]

theorem marked?_starts {c : Charset} {bytes : List UInt8} (h : marked? bytes = some c) :
    c.mark <+: bytes := by
  have hmark := List.find?_some h
  exact List.isPrefixOf_iff_prefix.mp hmark

/-- A mark that is found has two bytes or more. -/
theorem length_mark_ge {c : Charset} {bytes : List UInt8} (h : marked? bytes = some c) : 2 ≤ c.mark.length := by
  have hmem := List.mem_of_find?_eq_some h
  simp only [List.mem_cons, List.not_mem_nil, or_false] at hmem
  rcases hmem with rfl | rfl | rfl <;> decide

/-- No mark begins another one, so a mark that the bytes start with is the one that is found. -/
theorem ownMarkLength_eq (c : Charset) (bytes : List UInt8) :
    c.ownMarkLength bytes = if c.mark <+: bytes then c.mark.length else 0 := by
  rw [ownMarkLength]
  by_cases hstarts : c.mark <+: bytes
  · rw [if_pos hstarts]
    obtain ⟨rest, rfl⟩ := hstarts
    cases c with
    | utf8 => rfl
    | utf16le => rfl
    | utf16be => rfl
    | _ => exact ite_self 0
  · rw [if_neg hstarts, if_neg fun h => hstarts (marked?_starts h)]

theorem ownMarkLength_take (c : Charset) (bytes : List UInt8) :
    c.ownMarkLength (bytes.take headLength) = c.ownMarkLength bytes := by
  rw [ownMarkLength, ownMarkLength, marked?_take]

theorem ownMarkLength_le (c : Charset) (bytes : List UInt8) : c.ownMarkLength bytes ≤ bytes.length := by
  rw [ownMarkLength]
  split
  · exact (marked?_starts ‹_›).length_le
  · exact Nat.zero_le _

theorem markLength_take (bytes : List UInt8) : markLength (bytes.take headLength) = markLength bytes := by
  rw [markLength, markLength, marked?_take]

theorem markLength_le (bytes : List UInt8) : markLength bytes ≤ bytes.length := by
  rw [markLength]
  split
  · exact (marked?_starts ‹_›).length_le
  · exact Nat.zero_le _

theorem drop_head {n : Nat} {bytes : List UInt8} (h : n ≤ (bytes.take headLength).length) :
    (bytes.take headLength).drop n ++ bytes.drop headLength = bytes.drop n := by
  rw [← List.drop_append_of_le_length h, List.take_append_drop]

theorem drop_ownMark_head (c : Charset) (bytes : List UInt8) :
    (bytes.take headLength).drop (c.ownMarkLength (bytes.take headLength)) ++ bytes.drop headLength =
      bytes.drop (c.ownMarkLength bytes) := by
  rw [drop_head (c.ownMarkLength_le _), ownMarkLength_take]

theorem drop_mark_head (bytes : List UInt8) :
    (bytes.take headLength).drop (markLength (bytes.take headLength)) ++ bytes.drop headLength =
      bytes.drop (markLength bytes) := by
  rw [drop_head (markLength_le _), markLength_take]

end Intake.Charset
