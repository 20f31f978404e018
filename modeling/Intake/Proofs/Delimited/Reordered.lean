/-
  Intake.Proofs.Delimited.Reordered — rows and columns in another order.

  Whether the first row is a header is read off its cells and what the columns say about it, and both are only counted.
  What a column says depends on which values there are below its first cell, but not on how often or where. So the rows
  below can come in any order and more than once, and columns can change places if they do so in all rows.

  Proved:
  - `signal_of_same`: a column says the same over the same rows.
  - `below_arrange`: a column that has changed places has its cells below it.
  - `signals_arrange`: the columns say the same things in their new order.
  - `infersHeader_congr`: the decision rests on what is counted.
  - `header_of_any_order`: so it does not depend on the order of the rows below, or of the columns.
-/

import Intake.Delimited.Layout
import Mathlib.Data.List.Basic
import Mathlib.Tactic.Tauto

namespace Intake.Delimited

/-! ## The same rows -/

theorem any_of_same {α : Type} {xs ys : List α} (h : ∀ x, x ∈ xs ↔ x ∈ ys) (p : α → Bool) : xs.any p = ys.any p := by
  rw [Bool.eq_iff_iff, List.any_eq_true, List.any_eq_true]
  constructor
  · rintro ⟨x, hx, hp⟩
    exact ⟨x, (h x).mp hx, hp⟩
  · rintro ⟨x, hx, hp⟩
    exact ⟨x, (h x).mpr hx, hp⟩

theorem isEmpty_of_same {α : Type} {xs ys : List α} (h : ∀ x, x ∈ xs ↔ x ∈ ys) : xs.isEmpty = ys.isEmpty := by
  rw [Bool.eq_iff_iff, List.isEmpty_iff, List.isEmpty_iff, List.eq_nil_iff_forall_not_mem,
    List.eq_nil_iff_forall_not_mem]
  simp only [h]

section

variable {first : List String} {others others' : List (List String)}

theorem below_of_same (h : ∀ row, row ∈ others' ↔ row ∈ others) (column : Nat) (cell : String) :
    cell ∈ below column others' ↔ cell ∈ below column others := by
  simp only [below, List.mem_filterMap, h]

theorem signal_of_same (h : ∀ row, row ∈ others' ↔ row ∈ others) (column : Nat) (cell : String) :
    signal others' column cell = signal others column cell := by
  have hany := any_of_same (below_of_same h column)
  simp only [signal, hany]

theorem signals_of_same (h : ∀ row, row ∈ others' ↔ row ∈ others) :
    signals first others' = signals first others := by
  simp only [signals, signal_of_same h]

end

/-! ## Columns in another order -/

def arrange (order : List Nat) (row : List String) : List String := order.map fun i => row.getD i ""

theorem arrange_range (row : List String) : arrange (List.range row.length) row = row := by
  refine List.ext_getElem (by simp [arrange]) fun i _ hi => ?_
  simp [arrange, List.getD_eq_getElem?_getD, List.getElem?_eq_getElem hi]

theorem arrange_perm {order : List Nat} {row : List String} (h : order.Perm (List.range row.length)) :
    (arrange order row).Perm row := by
  have hcells := h.map fun i => row.getD i ""
  have hall := arrange_range row
  rw [arrange] at hall
  rwa [hall] at hcells

section

variable {order : List Nat} {first : List String} {others : List (List String)}

/-- A column that has moved takes the cells below it along. -/
theorem below_arrange {k i : Nat} (hmoved : order[k]? = some i) (hinside : ∀ row ∈ others, i < row.length) :
    below k (others.map (arrange order)) = below i others := by
  rw [below, below, List.filterMap_map]
  refine List.filterMap_congr fun row hrow => ?_
  have hi := hinside row hrow
  simp [arrange, hmoved, List.getD_eq_getElem?_getD, List.getElem?_eq_getElem hi]

/-- At its new place a column says what it said at the old one. -/
theorem signals_arrange (hinside : ∀ row ∈ others, ∀ i ∈ order, i < row.length) :
    signals (arrange order first) (others.map (arrange order)) =
      order.map fun i => signal others i (first.getD i "") := by
  refine List.ext_getElem (by simp [signals, arrange]) fun k _ hk => ?_
  have hk : k < order.length := by simpa using hk
  have hbelow : below k (others.map (arrange order)) = below order[k] others :=
    below_arrange (List.getElem?_eq_getElem hk) fun row hrow => hinside row hrow _ (List.getElem_mem hk)
  simp [signals, signal, arrange, hbelow]

theorem signals_perm (horder : order.Perm (List.range first.length))
    (hlength : ∀ row ∈ others, row.length = first.length) :
    (signals (arrange order first) (others.map (arrange order))).Perm (signals first others) := by
  have hinside : ∀ {positions : List Nat}, positions.Perm (List.range first.length) →
      ∀ row ∈ others, ∀ i ∈ positions, i < row.length := by
    intro positions hpositions row hrow i hi
    rw [hlength row hrow]
    exact List.mem_range.mp (hpositions.mem_iff.mp hi)
  have hothers : others.map (arrange (List.range first.length)) = others := by
    conv => rhs; rw [← List.map_id others]
    refine List.map_congr_left fun row hrow => ?_
    rw [← hlength row hrow, arrange_range, id]
  -- with the positions in their own order nothing moves
  have hstay : signals first others = (List.range first.length).map fun i => signal others i (first.getD i "") := by
    have hmoved := @signals_arrange (List.range first.length) first others (hinside (List.Perm.refl _))
    rwa [arrange_range, hothers] at hmoved
  rw [hstay, signals_arrange (hinside horder)]
  exact horder.map _

end

/-! ## The decision -/

theorem infersHeader_congr {first first' : List String} {others others' : List (List String)}
    (hcells : first'.Perm first) (hsignals : (signals first' others').Perm (signals first others))
    (hempty : others'.isEmpty = others.isEmpty) : infersHeader first' others' = infersHeader first others := by
  simp only [infersHeader, hcells.countP_eq, hsignals.count_eq, hempty]

theorem infersHeader_of_same {first : List String} {others others' : List (List String)}
    (h : ∀ row, row ∈ others' ↔ row ∈ others) : infersHeader first others' = infersHeader first others :=
  infersHeader_congr (List.Perm.refl _) (by rw [signals_of_same h]) (isEmpty_of_same h)

theorem infersHeader_arrange {order : List Nat} {first : List String} {others : List (List String)}
    (horder : order.Perm (List.range first.length)) (hlength : ∀ row ∈ others, row.length = first.length) :
    infersHeader (arrange order first) (others.map (arrange order)) = infersHeader first others :=
  infersHeader_congr (arrange_perm horder) (signals_perm horder hlength) List.isEmpty_map

/-- Other rows that are the same rows, in another order or more than once, change nothing about the first row being a
    header. Nor do columns that change places in all rows, if these are of one length. So the layout of a table has a
    header or none whatever the order of its columns and of the rows below the first. -/
theorem header_of_any_order (first : List String) (others : List (List String)) :
    (∀ others', (∀ row, row ∈ others' ↔ row ∈ others) → infersHeader first others' = infersHeader first others) ∧
    (∀ order, order.Perm (List.range first.length) → (∀ row ∈ others, row.length = first.length) →
      infersHeader (arrange order first) (others.map (arrange order)) = infersHeader first others) ∧
    ∀ order others' header, order.Perm (List.range first.length) → (∀ row ∈ others, row.length = first.length) →
      (∀ row, row ∈ others' ↔ row ∈ others.map (arrange order)) →
      (layoutOf header (arrange order first :: others')).hasHeader =
        (layoutOf header (first :: others)).hasHeader := by
  refine ⟨fun others' => infersHeader_of_same, fun order => infersHeader_arrange, ?_⟩
  intro order others' header horder hlength hsame
  rw [layoutOf, layoutOf, infersHeader_of_same hsame, infersHeader_arrange horder hlength]

def townHeads : List String := ["town", "2024", "open"]

def bern : List String := ["Bern", "1191", "yes"]

def chur : List String := ["Chur", "", "no"]

/-- One of the heads is a number over numbers; two others speak for a header. -/
theorem header_of_towns :
    infersHeader townHeads [bern, chur] = true ∧
    (∀ row, row ∈ [chur, bern, chur] ↔ row ∈ [bern, chur]) ∧ infersHeader townHeads [chur, bern, chur] = true ∧
    [2, 0, 1].Perm (List.range townHeads.length) ∧ (∀ row ∈ [bern, chur], row.length = townHeads.length) ∧
    arrange [2, 0, 1] townHeads = ["open", "town", "2024"] ∧
    infersHeader ["open", "town", "2024"] [["yes", "Bern", "1191"], ["no", "Chur", ""]] = true ∧
    (∀ row, row ∈ [arrange [2, 0, 1] chur, arrange [2, 0, 1] bern, arrange [2, 0, 1] chur] ↔
      row ∈ [bern, chur].map (arrange [2, 0, 1])) ∧
    (layoutOf none [["open", "town", "2024"], ["no", "Chur", ""], ["yes", "Bern", "1191"], ["no", "Chur", ""]]).hasHeader =
      (layoutOf none [townHeads, bern, chur]).hasHeader := by
  have hheader : infersHeader townHeads [bern, chur] = true := by decide +kernel
  have hsame : ∀ {α : Type} {x y : α} (z : α), z ∈ [y, x, y] ↔ z ∈ [x, y] := by
    intro α x y z
    simp only [List.mem_cons, List.not_mem_nil, or_false]
    tauto
  have horder : [2, 0, 1].Perm (List.range townHeads.length) := by decide
  have hlength : ∀ row ∈ [bern, chur], row.length = townHeads.length := by decide
  have hheads : arrange [2, 0, 1] townHeads = ["open", "town", "2024"] := rfl
  obtain ⟨hrows, hcolumns, hboth⟩ := header_of_any_order townHeads [bern, chur]
  refine ⟨hheader, hsame, (hrows _ hsame).trans hheader, horder, hlength, hheads, ?_, hsame, ?_⟩
  · exact (hcolumns _ horder hlength).trans hheader
  · exact hboth _ _ none horder hlength hsame

end Intake.Delimited
