/-
  Intake.Proofs.Text.Trim — texts without white space at either end.

  Trimming gives such a text (`snug_trimChars`) and leaves one as it is (`trimChars_of_snug`), so
  trimming twice is trimming once (`trim_trim`). It leaves something unless there is nothing but
  white space (`trimChars_eq_nil_iff`). A beginning of a trimmed text can end in white space;
  trimming its end makes it snug again (`snug_trimEnd`).
-/

import Intake.Text.Blank
import Mathlib.Data.List.TakeWhile

namespace Intake.Text

structure Snug (cs : List Char) : Prop where
  first : ∀ c ∈ cs.head?, isBlank c = false
  last : ∀ c ∈ cs.getLast?, isBlank c = false

theorem head_trimStart (cs : List Char) : ∀ c ∈ (trimStart cs).head?, isBlank c = false := by
  intro c hc
  have := List.head?_dropWhile_not isBlank cs
  rw [trimStart] at hc
  rw [hc] at this
  simpa using this

theorem trimEnd_starts (cs : List Char) : trimEnd cs <+: cs := by
  rw [trimEnd, ← List.reverse_suffix, List.reverse_reverse]
  exact List.dropWhile_suffix _

theorem last_trimEnd (cs : List Char) : ∀ c ∈ (trimEnd cs).getLast?, isBlank c = false := by
  intro c hc
  rw [trimEnd, List.getLast?_reverse] at hc
  exact head_trimStart cs.reverse c hc

theorem head_of_starts {α : Type} {p : α → Prop} {xs ys : List α} (h : xs <+: ys)
    (hy : ∀ y ∈ ys.head?, p y) : ∀ x ∈ xs.head?, p x := by
  obtain ⟨zs, rfl⟩ := h
  cases xs with
  | nil => simp
  | cons x xs => simpa using hy

theorem snug_trimEnd {cs : List Char} (h : ∀ c ∈ cs.head?, isBlank c = false) : Snug (trimEnd cs) :=
  ⟨head_of_starts (trimEnd_starts cs) h, last_trimEnd cs⟩

theorem snug_trimChars (cs : List Char) : Snug (trimChars cs) := snug_trimEnd (head_trimStart cs)

theorem trimStart_of_head {cs : List Char} (h : ∀ c ∈ cs.head?, isBlank c = false) : trimStart cs = cs := by
  cases cs with
  | nil => rfl
  | cons c cs => simp [trimStart, h c rfl]

theorem trimEnd_of_last {cs : List Char} (h : ∀ c ∈ cs.getLast?, isBlank c = false) : trimEnd cs = cs := by
  have hr : trimStart cs.reverse = cs.reverse := trimStart_of_head (by simpa using h)
  rw [trimStart] at hr
  rw [trimEnd, hr, List.reverse_reverse]

theorem trimChars_of_snug {cs : List Char} (h : Snug cs) : trimChars cs = cs := by
  rw [trimChars, trimStart_of_head h.first, trimEnd_of_last h.last]

theorem trimChars_eq_nil_iff {cs : List Char} : trimChars cs = [] ↔ ∀ c ∈ cs, isBlank c = true := by
  have hstart : trimStart cs = [] ↔ ∀ c ∈ cs, isBlank c = true := List.dropWhile_eq_nil_iff
  have hend : trimChars cs = [] ↔ ∀ c ∈ trimStart cs, isBlank c = true := by
    rw [trimChars, trimEnd, List.reverse_eq_nil_iff, List.dropWhile_eq_nil_iff]
    simp
  rw [hend, ← hstart]
  cases hrest : trimStart cs with
  | nil => simp
  | cons c rest =>
    -- what is left begins with a character that is no white space
    have hc : isBlank c = false := head_trimStart cs c (by rw [hrest]; rfl)
    simp [hc]

theorem trim_trim (s : String) : trim (trim s) = trim s := by
  unfold trim
  rw [String.toList_ofList, trimChars_of_snug (snug_trimChars _)]

end Intake.Text
