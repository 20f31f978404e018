/-
  Intake.Proofs.Column.Before — a column's name comes from its cell and from the cells before it.

  Names are given from left to right. Each is settled by its cell, its position and the names given before it, so the
  cells that follow have no say in it. A cell gets the name it asks for unless that is reserved or given already, be it
  to a column that asked for another one.

  Proved:
  - `nameFrom_take`: the names of the first cells are the first names.
  - `nameFrom_at`: the name at a position, by the names before it.
  - `unique_eq_wanted_iff`: a cell gets what it asks for just if that is free.
  - `names_by_cells_before`: so names do not change when cells are added behind them.
-/

import Intake.Proofs.Column.Names

namespace Intake.Column

theorem nameFrom_take (taken : List String) (position n : Nat) (cells : List String) :
    (nameFrom taken position cells).take n = nameFrom taken position (cells.take n) := by
  induction cells generalizing taken position n with
  | nil => simp [nameFrom]
  | cons cell cells ih =>
    cases n with
    | zero => rfl
    | succ n => rw [nameFrom, List.take_succ_cons, ih, List.take_succ_cons, nameFrom]

/-- The names taken when a cell has its turn are those before it, newest first, and those taken at the start. -/
theorem nameFrom_at (taken : List String) (position i : Nat) (cells : List String) :
    (nameFrom taken position cells)[i]? =
      cells[i]?.map (unique (((nameFrom taken position cells).take i).reverse ++ taken) (position + i)) := by
  induction cells generalizing taken position i with
  | nil => simp [nameFrom]
  | cons cell cells ih =>
    cases i with
    | zero => simp [nameFrom]
    | succ i =>
      rw [nameFrom, List.getElem?_cons_succ, ih, List.getElem?_cons_succ, List.take_succ_cons, List.reverse_cons,
        List.append_assoc, List.singleton_append, Nat.add_assoc, Nat.add_comm 1 i]

/-- A name that is given instead is free, so it is not the one that was asked for. -/
theorem unique_eq_wanted_iff (taken : List String) (position : Nat) (cell : String) :
    unique taken position cell = wanted position cell ↔ wanted position cell ∉ taken := by
  constructor
  · intro h
    rw [← h]
    exact unique_free taken position cell
  · intro h
    rw [unique, if_neg h]

theorem names_take (cells : List String) (n : Nat) : (names cells).take n = names (cells.take n) :=
  nameFrom_take reservedNames 0 n cells

/-- Cells that follow do not change the names before them. So a name depends on nothing but its cell, its position and
    the cells before it, and a cell gets the name it asks for, its cleaned text or a placeholder, just if that is
    neither reserved nor among the names before it. -/
theorem names_by_cells_before (xs ys : List String) :
    (names (xs ++ ys)).take xs.length = names xs ∧
    (∀ xs' i, xs.take (i + 1) = xs'.take (i + 1) → (names xs)[i]? = (names xs')[i]?) ∧
    ∀ i cell, xs[i]? = some cell → ∃ name, (names xs)[i]? = some name ∧
      (name = wanted i cell ↔ wanted i cell ∉ reservedNames ∧ wanted i cell ∉ (names xs).take i) := by
  refine ⟨?_, ?_, ?_⟩
  · rw [names_take, List.take_left]
  · intro xs' i hsame
    have hfirst : ∀ cells : List String, (names cells)[i]? = (names (cells.take (i + 1)))[i]? := by
      intro cells
      rw [← names_take, List.getElem?_take_of_lt (Nat.lt_succ_self i)]
    rw [hfirst xs, hfirst xs', hsame]
  · intro i cell hcell
    have hname := nameFrom_at reservedNames 0 i xs
    rw [hcell, Option.map_some, Nat.zero_add] at hname
    refine ⟨_, hname, ?_⟩
    rw [unique_eq_wanted_iff, List.mem_append, List.mem_reverse, not_or, and_comm]
    rfl

def overlapping : List String := ["a", "a", "a_1"]

theorem names_of_overlapping :
    names overlapping = ["a", "a_1", "a_1_2"] ∧
    (names (overlapping ++ ["id", " a_1_2"])).take 3 = names overlapping ∧
    overlapping.take 2 = ["a", "a", "b"].take 2 ∧ (names overlapping)[1]? = (names ["a", "a", "b"])[1]? ∧
    overlapping[2]? = some "a_1" ∧ wanted 2 "a_1" ∈ (names overlapping).take 2 := by
  have hnames : names overlapping = ["a", "a_1", "a_1_2"] := by decide +kernel
  have hwanted : wanted 2 "a_1" = "a_1" := by decide +kernel
  have hcells : overlapping.take 2 = ["a", "a", "b"].take 2 := rfl
  have hthird : overlapping[2]? = some "a_1" := rfl
  obtain ⟨hstay, hbefore, hgets⟩ := names_by_cells_before overlapping ["id", " a_1_2"]
  refine ⟨hnames, hstay, hcells, hbefore _ 1 hcells, hthird, ?_⟩
  obtain ⟨name, hname, hiff⟩ := hgets 2 "a_1" hthird
  have hother : name = "a_1_2" := by
    rw [hnames] at hname
    exact (Option.some.inj hname).symm
  by_contra hfree
  have hsame := hiff.mpr ⟨by rw [hwanted]; decide, hfree⟩
  rw [hother, hwanted] at hsame
  exact absurd hsame (by decide)

end Intake.Column
