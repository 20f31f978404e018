/-
  Intake.Proofs.Column.Renamed — the name a column gets when the one it asks for is taken.

  Suffixes are tried in a row: the position, then the position and a counter. Nothing in this bounds the number of
  attempts, so it is stated here as a run that stops at a free candidate and nowhere else. An attempt cuts the name to
  what its suffix leaves of the length the server keeps. That difference has to be one of natural numbers, and the
  number of the attempt one of 64 bits.

  Proved:
  - `Tries.at_free`: a run stops at a candidate, and this one is free.
  - `tries_firstFree`: a search that may make enough attempts makes those of the run.
  - `possible_attempt`: with positions and counters of 64 bits, no suffix is too long.
  - `candidate_begins`: a candidate begins as the name does.
  - `renaming_stops`: so a column is renamed after at most two attempts more than there are names taken.
-/

import Intake.Proofs.Column.Names
import Mathlib.Data.List.Dedup

namespace Intake.Column

/-! ## Attempts in a row -/

structure Possible (position attempt : Nat) : Prop where
  /-- The suffix is not longer than what there is to be cut. -/
  room : (suffix position attempt).utf8ByteSize ≤ Sql.maxIdentifierBytes
  /-- The counter holds the number of the attempt. -/
  counted : attempt < 2 ^ 64

/-- So many attempts are made, from `attempt` on, and the last of them gives the name. -/
inductive Tries (name : String) (position : Nat) (taken : List String) : Nat → Nat → String → Prop
  | stops {attempt : Nat} (hpossible : Possible position attempt)
      (hfree : candidate name position attempt ∉ taken) :
      Tries name position taken attempt 1 (candidate name position attempt)
  | goesOn {attempt tries : Nat} {result : String} (hpossible : Possible position attempt)
      (htaken : candidate name position attempt ∈ taken)
      (hrest : Tries name position taken (attempt + 1) tries result) :
      Tries name position taken attempt (tries + 1) result

section

variable {name : String} {position : Nat} {taken : List String}

theorem Tries.at_free {attempt tries : Nat} {result : String} (h : Tries name position taken attempt tries result) :
    ∃ i < tries, Possible position (attempt + i) ∧ result = candidate name position (attempt + i) ∧
      result ∉ taken := by
  induction h with
  | stops hpossible hfree => exact ⟨0, Nat.one_pos, hpossible, rfl, hfree⟩
  | goesOn hpossible htaken hrest ih =>
    obtain ⟨i, hi, hmade, hresult, hfree⟩ := ih
    rw [Nat.add_assoc, Nat.add_comm 1 i] at hmade hresult
    exact ⟨i + 1, by omega, hmade, hresult, hfree⟩

/-- The search ends as the run does if it may go on to a candidate that is free. -/
theorem tries_firstFree {attempt tries i : Nat} (hi : i ≤ tries) (hfree : candidate name position (attempt + i) ∉ taken)
    (hpossible : ∀ j ≤ i, Possible position (attempt + j)) :
    ∃ made ≤ i + 1, Tries name position taken attempt made (firstFree name position taken attempt tries) := by
  have hnow : Possible position attempt := hpossible 0 (Nat.zero_le i)
  induction tries generalizing attempt i with
  | zero =>
    obtain rfl : i = 0 := by omega
    exact ⟨1, Nat.le_refl 1, .stops hnow hfree⟩
  | succ tries ih =>
    rw [firstFree]
    by_cases htaken : candidate name position attempt ∈ taken
    · rw [if_pos htaken]
      cases i with
      | zero => exact absurd htaken hfree
      | succ i =>
        have hshift : ∀ j, attempt + 1 + j = attempt + (j + 1) := by
          intro j
          omega
        rw [← hshift] at hfree
        have hlater : ∀ j ≤ i, Possible position (attempt + 1 + j) := by
          intro j hj
          rw [hshift]
          exact hpossible (j + 1) (by omega)
        obtain ⟨made, hmade, hrun⟩ := ih (by omega) hfree hlater (hlater 0 (Nat.zero_le i))
        exact ⟨made + 1, by omega, .goesOn hnow htaken hrun⟩
    · rw [if_neg htaken]
      exact ⟨1, by omega, .stops hnow htaken⟩

end

/-- What counts is how many different names are taken. -/
theorem exists_free_of_set (name : String) (position : Nat) (taken : List String) :
    ∃ attempt ≤ taken.dedup.length + 1, candidate name position attempt ∉ taken := by
  obtain ⟨attempt, hle, hfree⟩ := exists_free name position taken.dedup
  exact ⟨attempt, hle, fun h => hfree (List.mem_dedup.mpr h)⟩

/-! ## Suffixes and what stands before them -/

theorem short_suffix {position attempt : Nat} (hp : position < 2 ^ 64) (ha : attempt < 2 ^ 64) :
    (suffix position attempt).utf8ByteSize ≤ 42 := by
  have hroom : 2 ^ 64 < roomy := by decide
  exact size_suffix (Nat.lt_trans hp hroom) (Nat.lt_trans ha hroom)

theorem possible_attempt {position attempt : Nat} (hp : position < 2 ^ 64) (ha : attempt < 2 ^ 64) :
    Possible position attempt :=
  ⟨Nat.le_trans (short_suffix hp ha) (by decide), ha⟩

theorem toList_suffix_first (position : Nat) : (suffix position 0).toList = '_' :: (toString position).toList := by
  simp [suffix]

theorem toList_suffix_counted {attempt : Nat} (h : 0 < attempt) (position : Nat) :
    (suffix position attempt).toList = '_' :: (toString position).toList ++ '_' :: (toString attempt).toList := by
  simp [suffix, Nat.ne_of_gt h]

/-- Suffixes leave room for at least one character of the name. -/
theorem candidate_begins {name : String} {position attempt : Nat} (hname : name ≠ "") (hp : position < 2 ^ 64)
    (ha : attempt < 2 ^ 64) :
    ∃ beginning, beginning ≠ [] ∧ beginning <+: name.toList ∧
      (candidate name position attempt).toList = beginning ++ (suffix position attempt).toList := by
  have hsize := short_suffix hp ha
  have hsome : name.toList ≠ [] := fun h => hname (String.toList_eq_nil_iff.mp h)
  refine ⟨_, Text.Utf8.takeBytes_ne_nil hsome ?_, Text.Utf8.takeBytes_starts _ _,
    toList_candidate name position attempt⟩
  rw [Sql.maxIdentifierBytes]
  omega

/-- A name that is taken is replaced after at most two attempts more than there are different names taken; two, since
    the first attempt and the one whose counter is the position can give the same name. No suffix tried on the way is
    longer than what is to be cut. The new name is not taken and fits; it begins as the name does and ends with the
    position, or with the position and a counter. -/
theorem renaming_stops (name : String) (position : Nat) (taken : List String) (hname : name ≠ "")
    (hposition : position < 2 ^ 64) (htaken : taken.dedup.length < 2 ^ 63) :
    (∃ tries ≤ taken.dedup.length + 2, Tries name position taken 0 tries (disambiguate name position taken)) ∧
    disambiguate name position taken ∉ taken ∧
    (disambiguate name position taken).utf8ByteSize ≤ 63 ∧
    ∃ beginning, beginning ≠ [] ∧ beginning <+: name.toList ∧
      ((disambiguate name position taken).toList = beginning ++ '_' :: (toString position).toList ∨
        ∃ n, 0 < n ∧ (disambiguate name position taken).toList =
          beginning ++ ('_' :: (toString position).toList ++ '_' :: (toString n).toList)) := by
  obtain ⟨last, hlast, hfree⟩ := exists_free_of_set name position taken
  have hallowed : last ≤ taken.length + 1 := by
    have := (List.dedup_sublist taken).length_le
    omega
  obtain ⟨tries, htries, hrun⟩ : ∃ tries ≤ last + 1,
      Tries name position taken 0 tries (disambiguate name position taken) := by
    refine tries_firstFree hallowed (by rwa [Nat.zero_add]) fun j hj => ?_
    exact possible_attempt hposition (by omega)
  obtain ⟨i, hi, hpossible, hresult, hnew⟩ := hrun.at_free
  rw [Nat.zero_add] at hpossible hresult
  refine ⟨⟨tries, by omega, hrun⟩, hnew, ?_, ?_⟩
  · rw [hresult]
    exact fits_candidate hpossible.room name
  · obtain ⟨beginning, hsome, hstarts, hform⟩ := candidate_begins hname hposition hpossible.counted
    refine ⟨beginning, hsome, hstarts, ?_⟩
    rw [hresult, hform]
    by_cases hfirst : i = 0
    · subst hfirst
      rw [toList_suffix_first]
      exact .inl rfl
    · have hcounter : 0 < i := by omega
      rw [toList_suffix_counted hcounter]
      exact .inr ⟨i, hcounter, rfl⟩

/-- As long as names get, and with a suffix in itself where one with a counter is put. -/
def suffixed : String := String.ofList (List.replicate 59 'a') ++ "_1bc"

/-- The first two attempts give one name. As this is taken, the third one is needed, two more than there are names. -/
theorem renaming_of_suffixed :
    suffixed ≠ "" ∧ 1 < 2 ^ 64 ∧ [candidate suffixed 1 0].dedup.length < 2 ^ 63 ∧
    candidate suffixed 1 1 = candidate suffixed 1 0 ∧
    disambiguate suffixed 1 [candidate suffixed 1 0] = String.ofList (List.replicate 59 'a') ++ "_1_2" ∧
    (∃ tries ≤ 3, Tries suffixed 1 [candidate suffixed 1 0] 0 tries
      (String.ofList (List.replicate 59 'a') ++ "_1_2")) ∧
    (String.ofList (List.replicate 59 'a') ++ "_1_2").utf8ByteSize ≤ 63 := by
  have hname : suffixed ≠ "" := by decide +kernel
  have hposition : 1 < 2 ^ 64 := by decide
  have hone : [candidate suffixed 1 0].dedup = [candidate suffixed 1 0] := (List.nodup_singleton _).dedup
  have htaken : [candidate suffixed 1 0].dedup.length < 2 ^ 63 := by
    rw [hone]
    decide
  have hresult : disambiguate suffixed 1 [candidate suffixed 1 0] =
      String.ofList (List.replicate 59 'a') ++ "_1_2" := by
    decide +kernel
  obtain ⟨⟨tries, htries, hrun⟩, -, hfits, -⟩ :=
    renaming_stops suffixed 1 [candidate suffixed 1 0] hname hposition htaken
  rw [hone] at htries
  rw [hresult] at hrun hfits
  exact ⟨hname, hposition, htaken, by decide +kernel, hresult, ⟨tries, htries, hrun⟩, hfits⟩

end Intake.Column
