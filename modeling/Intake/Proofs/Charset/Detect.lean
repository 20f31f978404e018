/-
  Intake.Proofs.Charset.Detect — the encoding that a sample is taken for.

  A mark decides. Without one a sample is taken for UTF-8 just if some text begins with it, and then one
  to three bytes at most are missing of a text. The marks of UTF-16 begin with bytes that are in no UTF-8
  text, so the beginning of such a text is always taken for what it is.

  Proved:
  - `marked?_of_starts`, `marked?_eq_none_iff`: which mark is found.
  - `detect_unmarked`: what a sample without a mark is taken for.
  - `detect_by_opening`: all of this, for every sample.
-/

import Intake.Charset.Detect
import Intake.Proofs.Charset.Mark
import Intake.Proofs.Text.Opening

namespace Intake.Charset

open Text.Utf8 (IsText)

variable {sample : List UInt8}

/-! ## Marks -/

/-- No mark begins like another one. -/
theorem marked?_of_starts {c : Charset} (hc : c ∈ [utf8, utf16le, utf16be]) (h : c.mark <+: sample) :
    marked? sample = some c := by
  obtain ⟨rest, rfl⟩ := h
  simp only [List.mem_cons, List.not_mem_nil, or_false] at hc
  rcases hc with rfl | rfl | rfl <;> rfl

theorem marked?_eq_none_iff :
    marked? sample = none ↔ ∀ c ∈ [utf8, utf16le, utf16be], ¬c.mark <+: sample := by
  rw [marked?, List.find?_eq_none]
  simp only [List.isPrefixOf_iff_prefix]

theorem detect_marked {c : Charset} (h : marked? sample = some c) : detect sample = c := by
  rw [detect, h]

/-! ## No mark -/

theorem detect_unmarked (h : marked? sample = none) :
    (detect sample = utf8 ↔ Text.Utf8.isOpening sample = true) ∧
      (detect sample = single .windows1252 ↔ ¬Text.Utf8.isOpening sample = true) := by
  rw [detect, h]
  cases Text.Utf8.isOpening sample <;> simp

/-- The marks of UTF-16 are no UTF-8. -/
theorem utf16_mark_not_text {text : List UInt8} (htext : IsText text) :
    ¬utf16le.mark <+: text ∧ ¬utf16be.mark <+: text := by
  constructor
  · rintro ⟨rest, rfl⟩
    exact Text.Utf8.not_isText_of_first (by decide) htext
  · rintro ⟨rest, rfl⟩
    exact Text.Utf8.not_isText_of_first (by decide) htext

/-- The beginning of a text is taken for UTF-8, wherever it ends. -/
theorem detect_beginning {text : List UInt8} (htext : IsText text) (h : sample <+: text) : detect sample = utf8 := by
  obtain ⟨hlittle, hbig⟩ := utf16_mark_not_text htext
  cases hmarked : marked? sample with
  | none =>
    obtain ⟨rest, rfl⟩ := h
    exact (detect_unmarked hmarked).1.mpr (Text.Utf8.isOpening_of_isText htext)
  | some c =>
    rw [detect_marked hmarked]
    have hstarts := (marked?_starts hmarked).trans h
    have hmem := List.mem_of_find?_eq_some hmarked
    simp only [List.mem_cons, List.not_mem_nil, or_false] at hmem
    rcases hmem with rfl | rfl | rfl
    · rfl
    · exact absurd hstarts hlittle
    · exact absurd hstarts hbig

/-- A mark of UTF-8 or UTF-16 at the start of a sample says what it is in. A sample without one is taken for
    UTF-8 if it is a text, or one to three more bytes make it one, and else for windows-1252. So it is UTF-8
    for every beginning of a text. -/
theorem detect_by_opening (sample : List UInt8) :
    ([0xEF, 0xBB, 0xBF] <+: sample → detect sample = utf8) ∧
    ([0xFF, 0xFE] <+: sample → detect sample = utf16le) ∧
    ([0xFE, 0xFF] <+: sample → detect sample = utf16be) ∧
    (¬[0xEF, 0xBB, 0xBF] <+: sample → ¬[0xFF, 0xFE] <+: sample → ¬[0xFE, 0xFF] <+: sample →
      (detect sample = utf8 ↔
        IsText sample ∨ ∃ tail, 1 ≤ tail.length ∧ tail.length ≤ 3 ∧ IsText (sample ++ tail)) ∧
      (detect sample = single .windows1252 ↔
        ¬(IsText sample ∨ ∃ tail, 1 ≤ tail.length ∧ tail.length ≤ 3 ∧ IsText (sample ++ tail)))) ∧
    ∀ text, IsText text → sample <+: text → detect sample = utf8 := by
  refine ⟨fun h => ?_, fun h => ?_, fun h => ?_, fun hutf8 hlittle hbig => ?_, fun text htext h => ?_⟩
  · exact detect_marked (marked?_of_starts (c := utf8) (by simp) h)
  · exact detect_marked (marked?_of_starts (c := utf16le) (by simp) h)
  · exact detect_marked (marked?_of_starts (c := utf16be) (by simp) h)
  · have hnone : marked? sample = none := by
      refine marked?_eq_none_iff.mpr fun c hc => ?_
      simp only [List.mem_cons, List.not_mem_nil, or_false] at hc
      rcases hc with rfl | rfl | rfl
      · exact hutf8
      · exact hlittle
      · exact hbig
    rw [← Text.Utf8.isOpening_iff_completed]
    exact detect_unmarked hnone
  · exact detect_beginning htext h

/-- The beginnings of a price in euros, with a mark and without, and cut in the sign; a word in another encoding;
    and both forms of UTF-16. -/
theorem detect_of_prices :
    detect [0xEF, 0xBB, 0xBF, 0xE2] = utf8 ∧ detect [0x35, 0xE2, 0x82] = utf8 ∧
    IsText [0x35, 0xE2, 0x82, 0xAC] ∧
    (¬IsText [0x63, 0xE9, 0x2C] ∧ ¬∃ tail, 1 ≤ tail.length ∧ tail.length ≤ 3 ∧ IsText ([0x63, 0xE9, 0x2C] ++ tail)) ∧
    detect [0xFF, 0xFE, 0x35, 0x00] = utf16le ∧ detect [0xFE, 0xFF, 0x00, 0x35] = utf16be := by
  have hprice : IsText [0x35, 0xE2, 0x82, 0xAC] := ⟨['5', '€'], by decide⟩
  obtain ⟨hmarked, -, -, -, -⟩ := detect_by_opening [0xEF, 0xBB, 0xBF, 0xE2]
  obtain ⟨-, -, -, -, hbeginning⟩ := detect_by_opening [0x35, 0xE2, 0x82]
  obtain ⟨-, -, -, hword, -⟩ := detect_by_opening [0x63, 0xE9, 0x2C]
  obtain ⟨-, hlittle, -, -, -⟩ := detect_by_opening [0xFF, 0xFE, 0x35, 0x00]
  obtain ⟨-, -, hbig, -, -⟩ := detect_by_opening [0xFE, 0xFF, 0x00, 0x35]
  have hother : detect [0x63, 0xE9, 0x2C] = single .windows1252 := by decide +kernel
  exact ⟨hmarked (by decide), hbeginning _ hprice (by decide), hprice,
    not_or.mp ((hword (by decide) (by decide) (by decide)).2.mp hother), hlittle (by decide), hbig (by decide)⟩

end Intake.Charset
