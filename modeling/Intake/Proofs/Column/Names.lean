/-
  Intake.Proofs.Column.Names — the names given to columns.

  A name is sound if the server takes it as it is and it can be typed again: not empty, not longer
  than the server keeps, without control characters and without white space at either end.

  Proved:
  - `sound_wanted`, `sound_candidate`: what a cell asks for is sound, and it stays sound with a
    suffix in place of its end.
  - `candidate_injective`: the counter can be read off a candidate, so the attempts after the first
    give different names, and among one more than there are names taken one is free
    (`disambiguate_free`).
  - `nameFrom_free`, `sound_nameFrom`: from any names taken so far, the names that follow are free,
    distinct and sound.
-/

import Intake.Column.Name
import Intake.Proofs.Sql.Quoting
import Intake.Proofs.Text.Trim
import Mathlib.Algebra.Group.Nat.Defs
import Mathlib.Tactic.ByContra

namespace Intake.Column

open Text (Snug isBlank isControl)
open Text.Utf8 (byteLength takeBytes)

/-- A name that the server takes as it is. -/
structure Sound (name : String) : Prop where
  nonempty : name ≠ ""
  fits : name.utf8ByteSize ≤ Sql.maxIdentifierBytes
  printable : ∀ c ∈ name.toList, isControl c = false
  snug : Snug name.toList

theorem Sound.accepted {name : String} (h : Sound name) : Sql.Identifier.check name = .ok () := by
  refine Sql.Identifier.check_ok_iff.mpr ⟨h.nonempty, fun hn => ?_, h.fits⟩
  have := h.printable _ hn
  revert this
  decide

/-! ## Digits and suffixes -/

/-- What suffixes are made of. -/
def IsPlain (c : Char) : Prop := c.isDigit = true ∨ c = '_'

theorem IsPlain.bounds {c : Char} (h : IsPlain c) : 48 ≤ c.toNat ∧ c.toNat ≤ 95 := by
  rcases h with h | rfl
  · have hd := Char.isDigit_iff_toNat.mp h
    have h0 : '0'.toNat = 48 := rfl
    have h9 : '9'.toNat = 57 := rfl
    omega
  · decide

theorem IsPlain.printable {c : Char} (h : IsPlain c) : isControl c = false := by
  have := h.bounds
  simp only [isControl, Bool.or_eq_false_iff, Bool.and_eq_false_iff, decide_eq_false_iff_not]
  omega

theorem IsPlain.not_blank {c : Char} (h : IsPlain c) : isBlank c = false := by
  have hc := h.bounds
  cases hb : isBlank c with
  | false => rfl
  | true =>
    obtain ⟨range, hr, hlow, hhigh⟩ := Text.CodeRanges.contains_iff.mp hb
    simp only [Text.blankRanges, List.mem_cons, List.not_mem_nil, or_false] at hr
    rcases hr with rfl | rfl | rfl | rfl | rfl | rfl | rfl | rfl | rfl | rfl <;>
      simp only at hlow hhigh <;> omega

theorem IsPlain.ascii {c : Char} (h : IsPlain c) : c.utf8Size = 1 := by
  have hc := h.bounds
  rw [Char.utf8Size_eq_one_iff, UInt32.le_iff_toNat_le]
  exact Nat.le_trans hc.2 (by decide)

theorem plain_digits {n : Nat} {c : Char} (h : c ∈ (toString n).toList) : IsPlain c := by
  rw [Nat.toString_eq_repr, Nat.toList_repr] at h
  exact Or.inl (Nat.isDigit_of_mem_toDigits (by decide) (by decide) h)

theorem digits_injective {m n : Nat} (h : (toString m).toList = (toString n).toList) : m = n := by
  rw [Nat.toString_eq_repr, Nat.toString_eq_repr, Nat.toList_repr, Nat.toList_repr] at h
  rw [← Nat.ofDigitChars_ten_toDigits (n := m), h, Nat.ofDigitChars_ten_toDigits]

/-- Positions and counters stay far below this. -/
def roomy : Nat := 10 ^ 20

theorem size_digits {n : Nat} (h : n < roomy) : (toString n).utf8ByteSize ≤ 20 := by
  rw [← Text.Utf8.byteLength_toList, Text.Utf8.byteLength_ascii fun c hc => (plain_digits hc).ascii,
    Nat.toString_eq_repr, Nat.toList_repr]
  exact (Nat.length_toDigits_le_iff (by decide) (by decide)).mpr h

theorem plain_suffix {position attempt : Nat} {c : Char} (h : c ∈ (suffix position attempt).toList) :
    IsPlain c := by
  have hu : ∀ {c : Char}, c ∈ "_".toList → IsPlain c := by
    intro c hc
    exact Or.inr (by simpa using hc)
  rw [suffix] at h
  split at h
  · simp only [String.toList_append, List.mem_append] at h
    rcases h with h | h
    · exact hu h
    · exact plain_digits h
  · simp only [String.toList_append, List.mem_append] at h
    rcases h with ((h | h) | h) | h
    · exact hu h
    · exact plain_digits h
    · exact hu h
    · exact plain_digits h

theorem size_suffix {position attempt : Nat} (hp : position < roomy) (ha : attempt < roomy) :
    (suffix position attempt).utf8ByteSize ≤ 42 := by
  have h1 : "_".utf8ByteSize = 1 := by decide
  have h2 := size_digits hp
  have h3 := size_digits ha
  rw [suffix]
  split <;> simp only [String.utf8ByteSize_append, h1] <;> omega

theorem suffix_ne_nil (position attempt : Nat) : (suffix position attempt).toList ≠ [] := by
  rw [suffix]
  split <;> simp

/-! ## What a cell asks for -/

theorem mem_trimChars {c : Char} {cs : List Char} (h : c ∈ Text.trimChars cs) : c ∈ cs :=
  (List.dropWhile_suffix isBlank).subset ((Text.trimEnd_starts _).subset h)

theorem byteLength_le_of_starts {cs ds : List Char} (h : cs <+: ds) : byteLength cs ≤ byteLength ds := by
  obtain ⟨es, rfl⟩ := h
  simp

theorem sound_clean {cell : String} (h : (clean cell).toList ≠ []) : Sound (clean cell) := by
  rw [clean] at h ⊢
  rw [String.toList_ofList] at h
  refine ⟨fun e => h ?_, ?_, ?_, ?_⟩
  · simpa using congrArg String.toList e
  · rw [Text.Utf8.utf8ByteSize_ofList]
    exact Nat.le_trans (byteLength_le_of_starts (Text.trimEnd_starts _)) (Text.Utf8.byteLength_takeBytes_le _ _)
  · rw [String.toList_ofList]
    intro c hc
    have hspaced := mem_trimChars
      ((Text.Utf8.takeBytes_starts _ _).subset ((Text.trimEnd_starts _).subset hc))
    obtain ⟨d, -, rfl⟩ := List.mem_map.mp hspaced
    split
    · decide
    · simpa using ‹¬isControl d = true›
  · rw [String.toList_ofList]
    exact Text.snug_trimEnd (Text.head_of_starts (Text.Utf8.takeBytes_starts _ _) (Text.snug_trimChars _).first)

theorem mem_of_last_append {cs ds : List Char} {c : Char} (hne : ds ≠ []) (h : c ∈ (cs ++ ds).getLast?) :
    c ∈ ds := by
  rw [List.getLast?_append, List.getLast?_eq_some_getLast hne] at h
  obtain rfl : ds.getLast hne = c := by simpa using h
  exact List.getLast_mem hne

theorem sound_placeholder {position : Nat} (h : position < roomy) : Sound (placeholder position) := by
  have hlist : (placeholder position).toList = "Column ".toList ++ (toString position).toList :=
    String.toList_append
  have hcolumn : ∀ c ∈ "Column ".toList, isControl c = false := by
    have hall : ("Column ".toList.all fun c => !isControl c) = true := by decide
    intro c hc
    simpa using List.all_eq_true.mp hall c hc
  have hdigits : (toString position).toList ≠ [] := by simp
  refine ⟨?_, ?_, ?_, ?_, ?_⟩
  · simp [placeholder]
  · have h1 : "Column ".utf8ByteSize = 7 := by decide
    have h2 := size_digits h
    rw [placeholder, String.utf8ByteSize_append, Sql.maxIdentifierBytes]
    omega
  · intro c hc
    rw [hlist, List.mem_append] at hc
    exact hc.elim (hcolumn c) fun hc => (plain_digits hc).printable
  · intro c hc
    rw [hlist] at hc
    obtain rfl : 'C' = c := by simpa using hc
    decide
  · intro c hc
    rw [hlist] at hc
    exact (plain_digits (mem_of_last_append hdigits hc)).not_blank

theorem sound_wanted {position : Nat} (h : position < roomy) (cell : String) : Sound (wanted position cell) := by
  rw [wanted]
  split
  · exact sound_placeholder h
  · exact sound_clean ‹_›

/-! ## Candidates -/

theorem toList_candidate (name : String) (position attempt : Nat) :
    (candidate name position attempt).toList =
      takeBytes (Sql.maxIdentifierBytes - (suffix position attempt).utf8ByteSize) name.toList ++
        (suffix position attempt).toList := by
  simp [candidate, truncate]

theorem fits_candidate {position attempt : Nat} (h : (suffix position attempt).utf8ByteSize ≤ Sql.maxIdentifierBytes)
    (name : String) : (candidate name position attempt).utf8ByteSize ≤ Sql.maxIdentifierBytes := by
  have hcut := Text.Utf8.byteLength_takeBytes_le
    (Sql.maxIdentifierBytes - (suffix position attempt).utf8ByteSize) name.toList
  rw [← Text.Utf8.byteLength_toList, toList_candidate, Text.Utf8.byteLength_append, Text.Utf8.byteLength_toList]
  omega

theorem sound_candidate {name : String} (hn : Sound name) {position attempt : Nat} (hp : position < roomy)
    (ha : attempt < roomy) : Sound (candidate name position attempt) := by
  have hlist := toList_candidate name position attempt
  have hne := suffix_ne_nil position attempt
  have hsize := size_suffix hp ha
  refine ⟨fun e => ?_, ?_, ?_, ?_, ?_⟩
  · rw [e] at hlist
    simp [hne] at hlist
  · exact fits_candidate (Nat.le_trans hsize (by decide)) name
  · intro c hc
    rw [hlist, List.mem_append] at hc
    rcases hc with hc | hc
    · exact hn.printable c ((Text.Utf8.takeBytes_starts _ _).subset hc)
    · exact (plain_suffix hc).printable
  · intro c hc
    rw [hlist] at hc
    cases hx : takeBytes (Sql.maxIdentifierBytes - (suffix position attempt).utf8ByteSize) name.toList with
    | nil =>
      rw [hx, List.nil_append] at hc
      exact (plain_suffix (List.mem_of_head? hc)).not_blank
    | cons d ds =>
      have hprefix := Text.Utf8.takeBytes_starts
        (Sql.maxIdentifierBytes - (suffix position attempt).utf8ByteSize) name.toList
      rw [hx] at hprefix hc
      exact Text.head_of_starts hprefix hn.snug.first c hc
  · intro c hc
    rw [hlist] at hc
    exact (plain_suffix (mem_of_last_append hne hc)).not_blank

def counter (cs : List Char) : List Char := (cs.reverse.takeWhile (· ≠ '_')).reverse

theorem counter_append (cs : List Char) (n : Nat) :
    counter (cs ++ '_' :: (toString n).toList) = (toString n).toList := by
  have hdigits : ∀ c ∈ (toString n).toList.reverse, (decide (c ≠ '_')) = true := by
    intro c hc
    rw [List.mem_reverse, Nat.toString_eq_repr, Nat.toList_repr] at hc
    refine decide_eq_true fun e => ?_
    subst e
    exact Nat.underscore_not_in_toDigits hc
  rw [counter, List.reverse_append, List.reverse_cons, List.append_assoc, List.takeWhile_append_of_pos hdigits]
  simp

theorem candidate_injective {name : String} {position a b : Nat} (ha : 0 < a) (hb : 0 < b)
    (h : candidate name position a = candidate name position b) : a = b := by
  have hcounter : ∀ {n : Nat}, 0 < n → counter (candidate name position n).toList = (toString n).toList := by
    intro n hn
    have e : (suffix position n).toList =
        "_".toList ++ (toString position).toList ++ '_' :: (toString n).toList := by
      simp [suffix, Nat.ne_of_gt hn]
    rw [toList_candidate, e, ← List.append_assoc, counter_append]
  exact digits_injective (by rw [← hcounter ha, ← hcounter hb, h])

/-- Attempt 0 and the attempt whose counter is the position can give one name; from attempt 1 on
    all names differ, so one more of them than there are names taken cannot all be taken. -/
theorem exists_free (name : String) (position : Nat) (taken : List String) :
    ∃ attempt ≤ taken.length + 1, candidate name position attempt ∉ taken := by
  by_contra hno
  have hall : ∀ attempt ≤ taken.length + 1, candidate name position attempt ∈ taken := by
    intro attempt ha
    by_contra hn
    exact hno ⟨attempt, ha, hn⟩
  have hnodup : ((List.range (taken.length + 1)).map fun i => candidate name position (i + 1)).Nodup := by
    refine List.Pairwise.map _ (fun i j hij e => hij ?_) List.nodup_range
    have := candidate_injective (Nat.succ_pos i) (Nat.succ_pos j) e
    omega
  have hsub : ((List.range (taken.length + 1)).map fun i => candidate name position (i + 1)) ⊆ taken := by
    intro c hc
    obtain ⟨i, hi, rfl⟩ := List.mem_map.mp hc
    rw [List.mem_range] at hi
    exact hall (i + 1) (by omega)
  have hle := hnodup.length_le_of_subset hsub
  rw [List.length_map, List.length_range] at hle
  omega

theorem firstFree_not_mem {name : String} {position : Nat} {taken : List String} {attempt tries : Nat}
    (h : ∃ i ≤ tries, candidate name position (attempt + i) ∉ taken) :
    firstFree name position taken attempt tries ∉ taken := by
  induction tries generalizing attempt with
  | zero =>
    obtain ⟨i, hi, hc⟩ := h
    obtain rfl : i = 0 := by omega
    exact hc
  | succ tries ih =>
    rw [firstFree]
    split
    · rename_i hmem
      obtain ⟨i, hi, hc⟩ := h
      cases i with
      | zero => exact absurd hmem hc
      | succ i => exact ih ⟨i, by omega, by rwa [Nat.add_assoc, Nat.add_comm 1 i]⟩
    · assumption

theorem firstFree_is_candidate (name : String) (position : Nat) (taken : List String) (attempt tries : Nat) :
    ∃ i ≤ tries, firstFree name position taken attempt tries = candidate name position (attempt + i) := by
  induction tries generalizing attempt with
  | zero => exact ⟨0, Nat.le_refl _, rfl⟩
  | succ tries ih =>
    rw [firstFree]
    split
    · obtain ⟨i, hi, he⟩ := ih (attempt + 1)
      exact ⟨i + 1, by omega, by rw [he, Nat.add_assoc, Nat.add_comm 1 i]⟩
    · exact ⟨0, by omega, rfl⟩

theorem disambiguate_free (name : String) (position : Nat) (taken : List String) :
    disambiguate name position taken ∉ taken := by
  obtain ⟨attempt, ha, hc⟩ := exists_free name position taken
  exact firstFree_not_mem ⟨attempt, ha, by rwa [Nat.zero_add]⟩

/-! ## Names for a row of cells -/

theorem unique_free (taken : List String) (position : Nat) (cell : String) :
    unique taken position cell ∉ taken := by
  rw [unique]
  split
  · exact disambiguate_free _ _ _
  · assumption

theorem sound_unique {taken : List String} {position : Nat} (hp : position < roomy)
    (ht : taken.length + 1 < roomy) (cell : String) : Sound (unique taken position cell) := by
  rw [unique]
  split
  · obtain ⟨i, hi, he⟩ := firstFree_is_candidate (wanted position cell) position taken 0 (taken.length + 1)
    rw [disambiguate, he]
    exact sound_candidate (sound_wanted hp cell) hp (by omega)
  · exact sound_wanted hp cell

theorem length_nameFrom (taken : List String) (position : Nat) (cells : List String) :
    (nameFrom taken position cells).length = cells.length := by
  induction cells generalizing taken position with
  | nil => rfl
  | cons cell cells ih => rw [nameFrom, List.length_cons, ih, List.length_cons]

/-- Each name is new when it is given, so no later name meets it again. -/
theorem nameFrom_free (taken : List String) (position : Nat) (cells : List String) :
    (nameFrom taken position cells).Nodup ∧ ∀ name ∈ nameFrom taken position cells, name ∉ taken := by
  induction cells generalizing taken position with
  | nil => exact ⟨List.nodup_nil, by simp [nameFrom]⟩
  | cons cell cells ih =>
    obtain ⟨hnodup, hfree⟩ := ih (unique taken position cell :: taken) (position + 1)
    rw [nameFrom]
    refine ⟨List.nodup_cons.mpr ⟨fun hmem => hfree _ hmem List.mem_cons_self, hnodup⟩, ?_⟩
    refine List.forall_mem_cons.mpr ⟨unique_free taken position cell, fun name hm ht => ?_⟩
    exact hfree name hm (List.mem_cons_of_mem _ ht)

theorem sound_nameFrom {taken : List String} {position : Nat} {cells : List String}
    (hp : position + cells.length < roomy) (ht : taken.length + cells.length < roomy) :
    ∀ name ∈ nameFrom taken position cells, Sound name := by
  induction cells generalizing taken position with
  | nil => simp [nameFrom]
  | cons cell cells ih =>
    rw [List.length_cons] at hp ht
    rw [nameFrom]
    refine List.forall_mem_cons.mpr ⟨sound_unique (by omega) (by omega) cell, ih (by omega) ?_⟩
    rw [List.length_cons]; omega

theorem sound_names {cells : List String} (h : cells.length < 2 ^ 64) : ∀ name ∈ names cells, Sound name := by
  have hroom : 2 ^ 64 + 2 < roomy := by decide
  refine sound_nameFrom (by omega) ?_
  simp only [reservedNames, List.length_singleton]; omega

/-- Header cells give as many names, all different and none reserved, that the server takes as they
    are: not empty, not longer than it keeps, without control characters and without white space at
    either end. -/
theorem names_distinct_and_accepted (cells : List String) (h : cells.length < 2 ^ 64) :
    (names cells).length = cells.length ∧ (names cells).Nodup ∧
      ∀ name ∈ names cells, name ≠ "" ∧ name.utf8ByteSize ≤ 63 ∧
        (∀ c ∈ name.toList, c ≠ '\x00' ∧ isControl c = false) ∧ Snug name.toList ∧
        name ∉ reservedNames ∧ Sql.Identifier.check name = .ok () := by
  obtain ⟨hnodup, hfree⟩ := nameFrom_free reservedNames 0 cells
  refine ⟨length_nameFrom _ _ _, hnodup, fun name hm => ?_⟩
  have hs := sound_names h name hm
  refine ⟨hs.nonempty, hs.fits, fun c hc => ⟨?_, hs.printable c hc⟩, hs.snug, hfree name hm, hs.accepted⟩
  rintro rfl
  exact absurd (hs.printable _ hc) (by decide)

/-- Cells that ask for names already given, for a placeholder and for the reserved name. -/
def clashing : List String := ["a_2", "a", "a", "Column 4", "", " Column 4\n", "id"]

theorem names_of_clashing :
    clashing.length < 2 ^ 64 ∧
      names clashing = ["a_2", "a", "a_2_1", "Column 4", "Column 4_4", "Column 4_5", "id_6"] ∧
      (names clashing).Nodup ∧ Snug "Column 4_5".toList ∧ "id_6" ∉ reservedNames ∧
      Sql.Identifier.check "a_2_1" = .ok () := by
  have hlength : clashing.length < 2 ^ 64 := by decide
  have hnames : names clashing = ["a_2", "a", "a_2_1", "Column 4", "Column 4_4", "Column 4_5", "id_6"] := by
    decide +kernel
  obtain ⟨-, hnodup, hall⟩ := names_distinct_and_accepted clashing hlength
  rw [hnames] at hall
  obtain ⟨-, -, -, hsnug, -⟩ := hall "Column 4_5" (by simp)
  obtain ⟨-, -, -, -, hreserved, -⟩ := hall "id_6" (by simp)
  obtain ⟨-, -, -, -, -, haccepted⟩ := hall "a_2_1" (by simp)
  exact ⟨hlength, hnames, hnodup, hsnug, hreserved, haccepted⟩

end Intake.Column
