/-
  Intake.Proofs.Delimited.Sniffed — which delimiter is taken for that of a text.

  A byte stands outside quotes where an even number of quotes comes before it, and a quote never does. The first lines
  that are not blank are looked at, and a candidate is considered if it stands outside quotes on the first of them. Of
  these candidates the one is taken that does so as often as there on most lines, then the one that does so more often,
  then the one that comes first.

  Proved:
  - `countUnquoted_eq`: what is counted are the places outside quotes.
  - `better_iff`, `best_eq_argmax`: the search goes by one score, and finds the first fit with the highest.
  - `fit?_eq_some_iff`: which candidates are considered, and how they fit.
  - `sniff_eq_some_iff`: so the candidate that is taken is the best one.
  - `sniff_finds_best`: when there is none, which one it is, and that it is not the quote.
-/

import Intake.Delimited.Sniff
import Intake.Proofs.Text.Trim
import Mathlib.Data.List.MinMax
import Mathlib.Data.Prod.Lex
import Mathlib.Order.Lex

namespace Intake.Delimited

/-! ## Counting -/

/-- How often a byte stands on a line outside quotes: it is no quote, and an even number of quotes comes before it. -/
def outside (quote : UInt8) (line : List Char) (b : UInt8) : Nat :=
  let bytes := Text.Utf8.encode line
  (List.range bytes.length).countP fun i =>
    bytes[i]? = some b ∧ b ≠ quote ∧ (bytes.take i).count quote % 2 = 0

/-- Whether a byte stands at a place outside quotes, if some quotes have come before all of the bytes. -/
def standsOutside (before : Nat) (b quote : UInt8) (bytes : List UInt8) (i : Nat) : Bool :=
  bytes[i]? = some b ∧ b ≠ quote ∧ (before + (bytes.take i).count quote) % 2 = 0

theorem standsOutside_first (before : Nat) (b quote x : UInt8) (bytes : List UInt8) :
    standsOutside before b quote (x :: bytes) 0 = decide (x = b ∧ b ≠ quote ∧ before % 2 = 0) := by
  simp [standsOutside]

theorem standsOutside_next (before : Nat) (b quote x : UInt8) (bytes : List UInt8) (i : Nat) :
    standsOutside before b quote (x :: bytes) (i + 1) =
      standsOutside (if x = quote then before + 1 else before) b quote bytes i := by
  unfold standsOutside
  rw [List.getElem?_cons_succ, List.take_succ_cons, List.count_cons]
  by_cases hquote : x = quote
  · simp only [hquote, beq_self_eq_true, if_true, Nat.add_assoc, Nat.add_comm 1]
  · simp only [hquote, beq_iff_eq, if_false, Nat.add_zero]

theorem countP_range_succ (p : Nat → Bool) (n : Nat) :
    (List.range (n + 1)).countP p = (List.range n).countP (fun i => p (i + 1)) + if p 0 then 1 else 0 := by
  rw [List.range_succ_eq_map, List.countP_cons, List.countP_map]
  rfl

theorem countFrom_eq (before : Nat) (b quote : UInt8) (bytes : List UInt8) :
    countFrom (decide (before % 2 = 1)) b quote bytes =
      (List.range bytes.length).countP (standsOutside before b quote bytes) := by
  induction bytes generalizing before with
  | nil => rfl
  | cons x bytes ih =>
    rw [List.length_cons, countP_range_succ, standsOutside_first, countFrom]
    simp only [standsOutside_next]
    by_cases hquote : x = quote
    · subst hquote
      have hturn : (!decide (before % 2 = 1)) = decide ((before + 1) % 2 = 1) := by
        by_cases hodd : before % 2 = 1 <;> simp [hodd] <;> omega
      have hnone : ¬(x = b ∧ b ≠ x ∧ before % 2 = 0) := by
        rintro ⟨hsame, hne, -⟩
        exact hne hsame.symm
      simp only [if_true, hturn, ih (before + 1), decide_eq_true_eq, if_neg hnone, Nat.add_zero]
    · have hcounts : (x = b ∧ (!decide (before % 2 = 1)) = true) ↔ x = b ∧ b ≠ quote ∧ before % 2 = 0 := by
        rw [Bool.not_eq_true', decide_eq_false_iff_not]
        constructor
        · rintro ⟨rfl, hodd⟩
          exact ⟨rfl, hquote, by omega⟩
        · rintro ⟨rfl, -, heven⟩
          exact ⟨rfl, by omega⟩
      simp only [hquote, if_false, ih before, hcounts, decide_eq_true_eq]
      split <;> rfl

theorem countUnquoted_eq (b quote : UInt8) (line : List Char) : countUnquoted b quote line = outside quote line b := by
  have hstart : standsOutside 0 b quote (Text.Utf8.encode line) = fun i =>
      decide ((Text.Utf8.encode line)[i]? = some b ∧ b ≠ quote ∧ ((Text.Utf8.encode line).take i).count quote % 2 = 0) := by
    funext i
    simp only [standsOutside, Nat.zero_add]
  have h := countFrom_eq 0 b quote (Text.Utf8.encode line)
  rw [hstart] at h
  exact h

theorem outside_quote (quote : UInt8) (line : List Char) : outside quote line quote = 0 := by
  simp [outside]

/-! ## Fits -/

def Fit.score (f : Fit) : Nat ×ₗ Nat := toLex (f.consistent, f.first)

theorem better_iff (a b : Fit) : a.better b = true ↔ b.score < a.score := by
  simp only [Fit.better, Fit.score, Prod.Lex.toLex_lt_toLex, Bool.or_eq_true, Bool.and_eq_true, decide_eq_true_eq]
  omega

theorem best_eq_argmax (fits : List Fit) : best fits = fits.argmax Fit.score := by
  unfold best List.argmax
  congr 1
  funext found f
  cases found with
  | none => rfl
  | some b => simp only [better_iff, List.argAux]

section

variable (quote : UInt8) (first : List Char) (ls : List (List Char))

/-- The lines on which a byte stands outside quotes as often as on the first. -/
def agreeing (b : UInt8) : Nat := ls.countP fun line => outside quote line b = outside quote first b

/-- What a byte is judged by: first the lines that agree, then how often it stands outside quotes on the first. -/
def score (b : UInt8) : Nat ×ₗ Nat := toLex (agreeing quote first ls b, outside quote first b)

def fitOf (b : UInt8) : Fit := ⟨b, agreeing quote first ls b, outside quote first b⟩

end

variable {quote : UInt8} {first : List Char} {rest : List (List Char)}

/-- A candidate is considered just if it occurs on the first line. -/
theorem fit?_eq (quote : UInt8) (first : List Char) (rest : List (List Char)) (b : UInt8) :
    fit? quote (first :: rest) b =
      if outside quote first b = 0 then none else some (fitOf quote first (first :: rest) b) := by
  have hoften : countUnquoted b quote = fun line => outside quote line b := funext (countUnquoted_eq b quote)
  have hcount : ((first :: rest).map fun line => outside quote line b).count (outside quote first b) =
      agreeing quote first (first :: rest) b := by
    rw [List.count_eq_countP, List.countP_map, agreeing]
    exact List.countP_congr fun line _ => by simp
  unfold fit? fitOf
  rw [hoften, ← hcount, List.map_cons]

theorem fit?_eq_some_iff {b : UInt8} {f : Fit} :
    fit? quote (first :: rest) b = some f ↔
      0 < outside quote first b ∧ fitOf quote first (first :: rest) b = f := by
  rw [fit?_eq, Nat.pos_iff_ne_zero]
  split
  · simp [*]
  · simp [*]

theorem fit?_of_occurs {c : UInt8} (hc : 0 < outside quote first c) :
    fit? quote (first :: rest) c = some (fitOf quote first (first :: rest) c) :=
  fit?_eq_some_iff.mpr ⟨hc, rfl⟩

theorem fit?_injective {x y : UInt8} {f : Fit} (hx : fit? quote (first :: rest) x = some f)
    (hy : fit? quote (first :: rest) y = some f) : x = y := by
  obtain ⟨-, rfl⟩ := fit?_eq_some_iff.mp hx
  obtain ⟨-, hxy⟩ := fit?_eq_some_iff.mp hy
  exact (congrArg Fit.candidate hxy).symm

/-- Candidates that are considered keep their order. -/
theorem idxOf_filterMap_le_iff {α β : Type} [DecidableEq α] [DecidableEq β] {f : α → Option β}
    (hf : ∀ {x y b}, f x = some b → f y = some b → x = y) {xs : List α} {x y : α} {a b : β} (hx : f x = some a)
    (hy : f y = some b) : (xs.filterMap f).idxOf a ≤ (xs.filterMap f).idxOf b ↔ xs.idxOf x ≤ xs.idxOf y := by
  induction xs with
  | nil => simp
  | cons z xs ih =>
    by_cases hzx : z = x
    · subst hzx
      simp [hx]
    · by_cases hzy : z = y
      · subst hzy
        have hab : b ≠ a := by
          rintro rfl
          exact hzx (hf hy hx)
        simp [hy, hzx, hab]
      · rw [List.idxOf_cons_ne _ hzx, List.idxOf_cons_ne _ hzy, Nat.succ_le_succ_iff, ← ih]
        cases hz : f z with
        | none => rw [List.filterMap_cons_none hz]
        | some c =>
          have hca : c ≠ a := by
            rintro rfl
            exact hzx (hf hz hx)
          have hcb : c ≠ b := by
            rintro rfl
            exact hzy (hf hz hy)
          rw [List.filterMap_cons_some hz, List.idxOf_cons_ne _ hca, List.idxOf_cons_ne _ hcb,
            Nat.succ_le_succ_iff]

/-! ## The best candidate -/

/-- A candidate that occurs on the first line, has the highest score of those that do, and is the first of those with
    the highest. -/
structure IsBest (quote : UInt8) (first : List Char) (ls : List (List Char)) (d : UInt8) : Prop where
  candidate : d ∈ candidates
  occurs : 0 < outside quote first d
  highest : ∀ c ∈ candidates, 0 < outside quote first c → score quote first ls c ≤ score quote first ls d
  earliest : ∀ c ∈ candidates, 0 < outside quote first c → score quote first ls c = score quote first ls d →
    candidates.idxOf d ≤ candidates.idxOf c

theorem isBest_of_only {ls : List (List Char)} {d : UInt8} (hd : d ∈ candidates) (hoccurs : 0 < outside quote first d)
    (honly : ∀ c, 0 < outside quote first c → c = d) : IsBest quote first ls d := by
  refine ⟨hd, hoccurs, ?_, ?_⟩
  · intro c _ hc
    rw [honly c hc]
  · intro c _ hc _
    rw [honly c hc]

theorem best_fit_iff {f : Fit} :
    best (candidates.filterMap (fit? quote (first :: rest))) = some f ↔
      ∃ d, IsBest quote first (first :: rest) d ∧ fitOf quote first (first :: rest) d = f := by
  rw [best_eq_argmax, ← Option.mem_def, List.mem_argmax_iff]
  constructor
  · rintro ⟨hmem, hhighest, hearliest⟩
    obtain ⟨d, hd, hf⟩ := List.mem_filterMap.mp hmem
    obtain ⟨hoccurs, rfl⟩ := fit?_eq_some_iff.mp hf
    refine ⟨d, ⟨hd, hoccurs, fun c hc hpos => ?_, fun c hc hpos hscore => ?_⟩, rfl⟩
    · exact hhighest _ (List.mem_filterMap.mpr ⟨c, hc, fit?_of_occurs hpos⟩)
    · refine (idxOf_filterMap_le_iff fit?_injective hf (fit?_of_occurs hpos)).mp ?_
      exact hearliest _ (List.mem_filterMap.mpr ⟨c, hc, fit?_of_occurs hpos⟩) (le_of_eq hscore.symm)
  · rintro ⟨d, hbest, rfl⟩
    refine ⟨List.mem_filterMap.mpr ⟨d, hbest.candidate, fit?_of_occurs hbest.occurs⟩, ?_, ?_⟩
    · intro f hf
      obtain ⟨c, hc, hf⟩ := List.mem_filterMap.mp hf
      obtain ⟨hpos, rfl⟩ := fit?_eq_some_iff.mp hf
      exact hbest.highest c hc hpos
    · intro f hf hscore
      obtain ⟨c, hc, hf⟩ := List.mem_filterMap.mp hf
      obtain ⟨hpos, rfl⟩ := fit?_eq_some_iff.mp hf
      refine (idxOf_filterMap_le_iff fit?_injective (fit?_of_occurs hbest.occurs) hf).mpr ?_
      exact hbest.earliest c hc hpos (le_antisymm (hbest.highest c hc hpos) hscore)

/-- The lines that are looked at are the first ones with a character that is no white space. -/
theorem sampled_eq (sample : List Char) :
    sampled sample = ((lines sample).filter fun line => line.any fun c => !Text.isBlank c).take 20 := by
  have hblank : ∀ line : List Char, (!(Text.trimChars line).isEmpty) = line.any fun c => !Text.isBlank c := by
    intro line
    rw [Bool.eq_iff_iff, Bool.not_eq_true', List.isEmpty_eq_false_iff, ne_eq, Text.trimChars_eq_nil_iff]
    simp
  simp only [sampled, hblank]
  rfl

variable {sample : List Char} {d : UInt8}

theorem sniff_eq_some_iff :
    sniff sample quote = some d ↔ ∃ first rest, sampled sample = first :: rest ∧ IsBest quote first (first :: rest) d := by
  unfold sniff
  cases hlines : sampled sample with
  | nil =>
    have hnone : candidates.filterMap (fit? quote []) = [] := rfl
    simp [hnone, best]
  | cons first rest =>
    rw [Option.map_eq_some_iff]
    constructor
    · rintro ⟨f, hf, rfl⟩
      obtain ⟨d, hd, rfl⟩ := best_fit_iff.mp hf
      exact ⟨first, rest, rfl, hd⟩
    · rintro ⟨first', rest', hsame, hd⟩
      obtain ⟨rfl, rfl⟩ := List.cons.inj hsame
      exact ⟨_, best_fit_iff.mpr ⟨d, hd, rfl⟩, rfl⟩

theorem sniff_eq_none_iff :
    sniff sample quote = none ↔
      ∀ first rest, sampled sample = first :: rest → ∀ c ∈ candidates, outside quote first c = 0 := by
  unfold sniff
  rw [Option.map_eq_none_iff, best_eq_argmax, List.argmax_eq_none, List.filterMap_eq_nil_iff]
  constructor
  · intro hnone first rest hlines c hc
    have hfit := hnone c hc
    rw [hlines, fit?_eq] at hfit
    by_contra hoccurs
    rw [if_neg hoccurs] at hfit
    cases hfit
  · intro hnone c hc
    cases hlines : sampled sample with
    | nil => rfl
    | cons first rest => rw [fit?_eq, if_pos (hnone first rest hlines c hc)]

/-- The first twenty lines that are not blank decide. There is no delimiter just if there is no such line, or if no
    candidate stands outside quotes on the first of them. Else it is the best of the candidates that do: that which does
    so as often as there on most lines, then that which does so more often, then the first. It is never the quote. -/
theorem sniff_finds_best {sample : List Char} {ls : List (List Char)}
    (h : ls = ((lines sample).filter fun line => line.any fun c => !Text.isBlank c).take 20) (quote : UInt8) :
    (sniff sample quote = none ↔
      ls = [] ∨ ∃ first rest, ls = first :: rest ∧ ∀ c ∈ candidates, outside quote first c = 0) ∧
    (∀ d, sniff sample quote = some d ↔ ∃ first rest, ls = first :: rest ∧ IsBest quote first ls d) ∧
    sniff sample quote ≠ some quote := by
  rw [← sampled_eq] at h
  subst h
  refine ⟨?_, fun d => ?_, fun hquote => ?_⟩
  · rw [sniff_eq_none_iff]
    cases hlines : sampled sample with
    | nil => simp
    | cons first rest => simp
  · rw [sniff_eq_some_iff]
    constructor
    · rintro ⟨first, rest, hlines, hbest⟩
      exact ⟨first, rest, hlines, hlines ▸ hbest⟩
    · rintro ⟨first, rest, hlines, hbest⟩
      exact ⟨first, rest, hlines, hlines ▸ hbest⟩
  · obtain ⟨first, rest, -, hbest⟩ := sniff_eq_some_iff.mp hquote
    have hoccurs := hbest.occurs
    rw [outside_quote] at hoccurs
    exact absurd hoccurs (Nat.lt_irrefl 0)

/-- After a blank line, a line on which semicolon and bar occur once each, one of the semicolons being between quotes.
    The semicolon comes first among the candidates, but not all lines agree on it. -/
def contested : List Char := "\n\"x;y\";b|c\n1;2|3\n;4;5|6\n".toList

def contestedLines : List (List Char) := ["\"x;y\";b|c".toList, "1;2|3".toList, ";4;5|6".toList]

theorem sniff_of_contested :
    contestedLines = ((lines contested).filter fun line => line.any fun c => !Text.isBlank c).take 20 ∧
    sniff contested 0x22 = some 0x7C ∧ outside 0x22 "\"x;y\";b|c".toList 0x3B = 1 ∧
    IsBest 0x22 "\"x;y\";b|c".toList contestedLines 0x7C := by
  have hlines : contestedLines = ((lines contested).filter fun line => line.any fun c => !Text.isBlank c).take 20 := by
    decide +kernel
  have hsniff : sniff contested 0x22 = some 0x7C := by decide +kernel
  obtain ⟨-, hbest, -⟩ := sniff_finds_best hlines 0x22
  obtain ⟨first, rest, hfirst, hd⟩ := (hbest 0x7C).mp hsniff
  obtain ⟨rfl, -⟩ := List.cons.inj hfirst
  exact ⟨hlines, hsniff, by decide +kernel, hd⟩

end Intake.Delimited
