/-
  Intake.Proofs.Column.Truncated — names cut to a number of bytes.

  A name that is too long keeps its longest beginning of whole characters that fits. The number of bytes can fall
  inside a character, or before the end of the first one; the cut then is where that character begins.

  Proved:
  - `truncate_longest`: what is kept is found by a search from behind, which always stops at a character boundary; it
    is a beginning of the name that fits, the whole name just if that fits, and nothing longer fits.
-/

import Intake.Column.Name
import Intake.Proofs.Text.Boundary

namespace Intake.Column

open Text.Utf8 (byteLength takeBytes encode isBoundary boundaryBefore cutBack)

theorem toList_truncate (name : String) (limit : Nat) :
    (truncate name limit).toList = takeBytes limit name.toList := by
  rw [truncate, String.toList_ofList]

theorem utf8ByteSize_truncate (name : String) (limit : Nat) :
    (truncate name limit).utf8ByteSize = byteLength (takeBytes limit name.toList) := by
  rw [← Text.Utf8.byteLength_toList, toList_truncate]

theorem truncate_eq_iff (name : String) (limit : Nat) : truncate name limit = name ↔ name.utf8ByteSize ≤ limit := by
  rw [← String.toList_inj, toList_truncate, ← Text.Utf8.byteLength_toList]
  constructor
  · intro hsame
    rw [← hsame]
    exact Text.Utf8.byteLength_takeBytes_le limit name.toList
  · exact Text.Utf8.takeBytes_of_fits

/-- What comes next in the name has no room any more. -/
theorem truncate_full {name : String} {limit : Nat} {c : Char} {rest : List Char}
    (h : name.toList = (truncate name limit).toList ++ c :: rest) :
    limit < (truncate name limit).utf8ByteSize + c.utf8Size := by
  rw [toList_truncate] at h
  rw [utf8ByteSize_truncate]
  rcases Text.Utf8.takeBytes_stops limit name.toList with hall | ⟨d, rest', hnext, hfull⟩
  · rw [hall] at h
    exact absurd (List.self_eq_append_right.mp h) (List.cons_ne_nil c rest)
  · have hsame : c :: rest = d :: rest' := List.append_cancel_left (h.symm.trans hnext)
    obtain ⟨rfl, -⟩ := List.cons.inj hsame
    exact hfull

/-- Looking for the place to cut from the limit backwards always comes to a character boundary, and gives what is kept:
    a beginning of the name that ends at a boundary and fits, all of the name just if that fits. One more character
    would not fit, and no beginning of whole characters that fits is longer. -/
theorem truncate_longest (name : String) (limit : Nat) :
    boundaryBefore (encode name.toList) limit = some (truncate name limit).utf8ByteSize ∧
    cutBack limit name.toList = some (truncate name limit).toList ∧
    (truncate name limit).toList <+: name.toList ∧
    isBoundary (encode name.toList) (truncate name limit).utf8ByteSize = true ∧
    (truncate name limit).utf8ByteSize ≤ limit ∧
    (truncate name limit = name ↔ name.utf8ByteSize ≤ limit) ∧
    (∀ c rest, name.toList = (truncate name limit).toList ++ c :: rest →
      limit < (truncate name limit).utf8ByteSize + c.utf8Size) ∧
    ∀ cs, cs <+: name.toList → byteLength cs ≤ limit → cs <+: (truncate name limit).toList := by
  have hstarts := Text.Utf8.takeBytes_starts limit name.toList
  refine ⟨?_, ?_, ?_, ?_, ?_, truncate_eq_iff name limit, fun c rest => truncate_full, ?_⟩
  · rw [utf8ByteSize_truncate, Text.Utf8.boundaryBefore_encode]
  · rw [toList_truncate, Text.Utf8.cutBack_eq]
  · rw [toList_truncate]
    exact hstarts
  · rw [utf8ByteSize_truncate, Text.Utf8.isBoundary_iff]
    exact ⟨_, hstarts, rfl⟩
  · rw [utf8ByteSize_truncate]
    exact Text.Utf8.byteLength_takeBytes_le limit name.toList
  · intro cs hcs hfits
    rw [toList_truncate]
    exact Text.Utf8.starts_takeBytes hcs hfits

def mixed : String := "aé€𝄞"

theorem truncate_mixed :
    truncate mixed 5 = "aé" ∧ boundaryBefore (encode mixed.toList) 5 = some 3 ∧
    cutBack 5 mixed.toList = some ['a', 'é'] ∧
    mixed.toList = (truncate mixed 5).toList ++ '€' :: ['𝄞'] ∧
    5 < (truncate mixed 5).utf8ByteSize + '€'.utf8Size ∧
    ['a'] <+: mixed.toList ∧ byteLength ['a'] ≤ 5 ∧ ['a'] <+: (truncate mixed 5).toList := by
  have hcut : truncate mixed 5 = "aé" := by decide +kernel
  have hnext : mixed.toList = (truncate mixed 5).toList ++ '€' :: ['𝄞'] := by
    rw [hcut]
    decide +kernel
  have hone : ['a'] <+: mixed.toList := ⟨['é', '€', '𝄞'], by decide +kernel⟩
  have hfits : byteLength ['a'] ≤ 5 := by decide
  have hlist : (truncate mixed 5).toList = ['a', 'é'] := by
    rw [hcut]
    decide +kernel
  have hsize : (truncate mixed 5).utf8ByteSize = 3 := by
    rw [hcut]
    decide +kernel
  obtain ⟨hsearch, hback, -, -, -, -, hfull, hlongest⟩ := truncate_longest mixed 5
  rw [hsize] at hsearch
  rw [hlist] at hback
  exact ⟨hcut, hsearch, hback, hnext, hfull _ _ hnext, hone, hfits, hlongest _ hone hfits⟩

end Intake.Column
