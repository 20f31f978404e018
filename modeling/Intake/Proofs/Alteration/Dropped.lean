/-
  Intake.Proofs.Alteration.Dropped — which columns are dropped.

  An item marks its column to be dropped if it names one at all and its `delete` is true. Whatever else it is or holds
  does not matter. What a marked item names may be no column, and a dropped column does not come back, so nothing is
  asked of the database before every marked item is known to name a column that there can be.

  Proved:
  - `dropTarget?_eq_some_iff`, `columnNumber_ok_iff`: what an item marks, and which values are numbers of columns.
  - `dropTargets_ok_iff`: items come to the numbers that the marked ones name, in their order.
  - `dropTargets_error`: or the first marked item that names no column says what fails.
  - `marked_columns_dropped`: so all marked columns go into one call, or there is none.
-/

import Intake.Proofs.Alteration.Batch

namespace Intake.Alteration

open Database (Runs runs_noted runs_pure)

variable {σ : Type}

/-! ## Marked items -/

/-- An item that names a column, or what stands in its place, and says that it is to be dropped. -/
def Marked (v : Json) : Prop :=
  (∃ w, v.get? "attnum" = some w ∧ w ≠ .null) ∧ v.get? "delete" = some (.bool true)

/-- An item names this column, and there can be such a column. -/
def NamesColumn (v : Json) (n : Int) : Prop := v.get? "attnum" = some (.int n) ∧ 1 ≤ n ∧ n ≤ 32767

/-- An item that can be carried out. One that is not marked asks for nothing. -/
def Droppable (v : Json) : Prop := Marked v → ∃ n, NamesColumn v n

/-- The columns that the marked items name, one for each in the order of the items. -/
inductive Drops : List Json → List Int → Prop
  | nil : Drops [] []
  | pass {v : Json} {vs : List Json} {ns : List Int} (h : ¬Marked v) (hrest : Drops vs ns) : Drops (v :: vs) ns
  | drop {v : Json} {n : Int} {vs : List Json} {ns : List Int} (h : Marked v) (hn : NamesColumn v n)
      (hrest : Drops vs ns) : Drops (v :: vs) (n :: ns)

/-- A marked item that names no column, told with what it names. -/
def DropFault (_index : Nat) (v : Json) (e : Invalid) : Prop :=
  ¬Droppable v ∧ ∃ w, v.get? "attnum" = some w ∧ e = .notColumnNumberValue w

section

variable {v w : Json} {n : Int} {e : Invalid}

theorem dropTarget?_eq_some_iff :
    dropTarget? v = some w ↔ v.get? "attnum" = some w ∧ w ≠ .null ∧ v.get? "delete" = some (.bool true) := by
  unfold dropTarget?
  split
  · rename_i attnum hattnum hdelete
    rw [hattnum, hdelete]
    cases attnum with
    | null =>
      constructor
      · intro h
        cases h
      · intro h
        obtain ⟨hattnum, hnull, -⟩ := h
        exact absurd (Option.some.inj hattnum).symm hnull
    | _ =>
      constructor
      · intro h
        cases h
        exact ⟨rfl, nofun, rfl⟩
      · intro h
        obtain ⟨hattnum, -, -⟩ := h
        exact hattnum
  · rename_i hother
    constructor
    · intro h
      cases h
    · intro h
      obtain ⟨hattnum, -, hdelete⟩ := h
      exact absurd hdelete (hother w hattnum)

theorem marked_iff : Marked v ↔ ∃ w, dropTarget? v = some w := by
  simp only [dropTarget?_eq_some_iff]
  constructor
  · intro h
    obtain ⟨⟨w, hattnum, hnull⟩, hdelete⟩ := h
    exact ⟨w, hattnum, hnull, hdelete⟩
  · intro h
    obtain ⟨w, hattnum, hnull, hdelete⟩ := h
    exact ⟨⟨w, hattnum, hnull⟩, hdelete⟩

theorem columnNumber_ok_iff : columnNumber w = .ok n ↔ w = .int n ∧ 1 ≤ n ∧ n ≤ 32767 := by
  unfold columnNumber
  split
  · rename_i m
    have hrange : isColumnNumber m = true ↔ 1 ≤ m ∧ m ≤ 32767 := by simp [isColumnNumber]
    split
    · rename_i hm
      constructor
      · intro h
        cases h
        exact ⟨rfl, hrange.mp hm⟩
      · intro h
        cases h.1
        rfl
    · rename_i hm
      constructor
      · intro h
        cases h
      · intro h
        cases h.1
        exact absurd (hrange.mpr h.2) hm
  · rename_i hother
    constructor
    · intro h
      cases h
    · intro h
      exact absurd h.1 (hother n)

theorem columnNumber_error (h : columnNumber w = .error e) : e = .notColumnNumberValue w := by
  unfold columnNumber at h
  split at h
  · split at h
    · cases h
    · cases h
      rfl
  · cases h
    rfl

theorem namesColumn_iff (h : dropTarget? v = some w) : NamesColumn v n ↔ columnNumber w = .ok n := by
  obtain ⟨hattnum, -, -⟩ := dropTarget?_eq_some_iff.mp h
  rw [NamesColumn, hattnum, columnNumber_ok_iff, Option.some.injEq]

theorem dropFault_of_error (h : dropTarget? v = some w) (he : columnNumber w = .error e) (index : Nat) :
    DropFault index v e := by
  refine ⟨fun hdroppable => ?_, w, (dropTarget?_eq_some_iff.mp h).1, columnNumber_error he⟩
  obtain ⟨n, hn⟩ := hdroppable (marked_iff.mpr ⟨w, h⟩)
  rw [namesColumn_iff h, he] at hn
  cases hn

end

/-! ## Items -/

section

variable {v w : Json} {vs : List Json}

theorem dropTargets_pass (h : dropTarget? v = none) : dropTargets (v :: vs) = dropTargets vs := by
  rw [dropTargets, List.filterMap_cons_none h, ← dropTargets]

theorem dropTargets_marked (h : dropTarget? v = some w) :
    dropTargets (v :: vs) = do return (← columnNumber w) :: (← dropTargets vs) := by
  rw [dropTargets, List.filterMap_cons_some h, List.mapM_cons, ← dropTargets]

theorem not_marked (h : dropTarget? v = none) : ¬Marked v := by
  intro hv
  obtain ⟨w, hw⟩ := marked_iff.mp hv
  rw [h] at hw
  cases hw

end

theorem dropTargets_ok_iff {items : List Json} {ns : List Int} : dropTargets items = .ok ns ↔ Drops items ns := by
  induction items generalizing ns with
  | nil =>
    constructor
    · intro h
      cases h
      exact .nil
    · intro h
      cases h
      rfl
  | cons v vs ih =>
    cases hv : dropTarget? v with
    | none =>
      rw [dropTargets_pass hv, ih]
      constructor
      · exact .pass (not_marked hv)
      · intro h
        cases h with
        | pass _ hrest => exact hrest
        | drop h _ _ => exact absurd h (not_marked hv)
    | some w =>
      have hmarked : Marked v := marked_iff.mpr ⟨w, hv⟩
      rw [dropTargets_marked hv, bind_ok_iff]
      constructor
      · intro h
        obtain ⟨n, hn, hrest⟩ := h
        obtain ⟨ns', hns, hpure⟩ := bind_ok_iff.mp hrest
        obtain rfl := pure_ok_iff.mp hpure
        exact .drop hmarked ((namesColumn_iff hv).mpr hn) (ih.mp hns)
      · intro h
        cases h with
        | pass h _ => exact absurd hmarked h
        | drop _ hn hrest => exact ⟨_, (namesColumn_iff hv).mp hn, bind_ok_iff.mpr ⟨_, ih.mpr hrest, rfl⟩⟩

theorem dropTargets_error {items : List Json} {index : Nat} {e : Invalid} (h : dropTargets items = .error e) :
    FirstFault Droppable DropFault index items e := by
  induction items generalizing index with
  | nil => cases h
  | cons v vs ih =>
    rw [firstFault_cons]
    cases hv : dropTarget? v with
    | none =>
      rw [dropTargets_pass hv] at h
      exact .inr ⟨fun hmarked => absurd hmarked (not_marked hv), ih h⟩
    | some w =>
      rw [dropTargets_marked hv] at h
      rcases bind_error_iff.mp h with hw | ⟨n, hn, hrest⟩
      · exact .inl (dropFault_of_error hv hw index)
      · rcases bind_error_iff.mp hrest with hvs | ⟨ns, -, hpure⟩
        · exact .inr ⟨fun _ => ⟨n, (namesColumn_iff hv).mpr hn⟩, ih hvs⟩
        · cases hpure

theorem Drops.droppable {items : List Json} {ns : List Int} (h : Drops items ns) : ∀ v ∈ items, Droppable v := by
  induction h with
  | nil => simp
  | pass h _ ih => exact List.forall_mem_cons.mpr ⟨fun hv => absurd hv h, ih⟩
  | drop _ hn _ ih => exact List.forall_mem_cons.mpr ⟨fun _ => ⟨_, hn⟩, ih⟩

/-! ## One call or none -/

/-- The columns go into one call. If there are none there is no call, and a failure of the call is passed on. -/
def DroppedBy (table : Nat) (ns : List Int) (r : Except Failure (List Int)) (log : List Database.Exchange) : Prop :=
  if ns = [] then r = .ok [] ∧ log = []
  else ∃ answer, log = [.call "drop_columns" (.oid table :: ns.map .integer) answer] ∧
    match answer with
    | .ok _ => r = .ok ns
    | .error e => r = .error (.database e)

theorem DroppedBy.valid {table : Nat} {ns : List Int} {r : Except Failure (List Int)} {log : List Database.Exchange}
    (h : DroppedBy table ns r log) : ¬∃ e, r = .error (.invalid e) := by
  intro hinvalid
  obtain ⟨e, rfl⟩ := hinvalid
  unfold DroppedBy at h
  split at h
  · cases h.1
  · obtain ⟨answer, -, hanswer⟩ := h
    cases answer with
    | ok _ => cases hanswer
    | error _ => cases hanswer

theorem dropped_runs (db : Database σ) (table : Nat) (ns : List Int) :
    Runs (db.call dropProcedure (.oid table :: ns.map .integer))
      (db.traced.call dropProcedure (.oid table :: ns.map .integer))
      fun answer log => log = [.call "drop_columns" (.oid table :: ns.map .integer) answer] :=
  runs_noted fun _ => rfl

theorem dropColumns_runs (db : Database σ) {table : Nat} {items : List Json} {ns : List Int}
    (h : dropTargets items = .ok ns) :
    Runs (dropColumns db table items).run (dropColumns db.traced table items).run (DroppedBy table ns) := by
  refine Database.runs_settled ?_ ?_
  · intro f hf
    rw [h] at hf
    cases hf
  · intro ns' hns
    rw [h] at hns
    cases hns
    cases ns with
    | nil => exact runs_pure (by rw [DroppedBy, if_pos rfl]; exact ⟨rfl, rfl⟩)
    | cons n ns =>
      have hasked := dropped_runs db table (n :: ns)
      refine hasked.bindState fun answer log hlog => ?_
      have hsome : n :: ns ≠ [] := nofun
      cases answer with
      | ok v =>
        refine runs_pure ?_
        rw [DroppedBy, if_neg hsome, List.append_nil]
        exact ⟨.ok v, hlog, rfl⟩
      | error e =>
        refine runs_pure ?_
        rw [DroppedBy, if_neg hsome, List.append_nil]
        exact ⟨.error e, hlog, rfl⟩

/-- Whatever the items are and whatever the database answers, dropping fails as invalid exactly if some marked item
    names no column that there can be. Then nothing is asked for, and the first such item says what fails. Otherwise
    the columns of all marked items, in the order of the items and each as often as it is named, go into one call, and
    are the answer if it succeeds. If it fails, its failure is passed on. Without a marked item there is no call. -/
theorem marked_columns_dropped (db : Database σ) (table : Nat) (items : List Json) :
    Runs (dropColumns db table items).run (dropColumns db.traced table items).run fun r log =>
      ((∃ e, r = .error (.invalid e)) ↔ ∃ v ∈ items, Marked v ∧ ∀ n, ¬NamesColumn v n) ∧
      (∀ e, r = .error (.invalid e) → log = [] ∧ FirstFault Droppable DropFault 0 items e) ∧
      ((∀ v ∈ items, Marked v → ∃ n, NamesColumn v n) → ∃ ns, Drops items ns ∧ DroppedBy table ns r log) := by
  have hblocked : (∃ v ∈ items, Marked v ∧ ∀ n, ¬NamesColumn v n) ↔ ¬∀ v ∈ items, Droppable v := by
    simp [Droppable]
  cases hx : dropTargets items with
  | ok ns =>
    have hdrops : Drops items ns := dropTargets_ok_iff.mp hx
    refine (dropColumns_runs db hx).mono fun r log h => ⟨?_, ?_, fun _ => ⟨ns, hdrops, h⟩⟩
    · rw [hblocked]
      exact iff_of_false h.valid fun hnot => hnot hdrops.droppable
    · intro e he
      exact absurd ⟨e, he⟩ h.valid
  | error e =>
    have hfault : FirstFault Droppable DropFault 0 items e := dropTargets_error hx
    have hnot : ¬∀ v ∈ items, Droppable v := hfault.not_all fun _ _ h => h.1
    refine (runs_refused hx).mono fun r log h => ?_
    obtain ⟨rfl, rfl⟩ := h
    refine ⟨?_, ?_, fun hall => absurd hall hnot⟩
    · rw [hblocked]
      exact iff_of_true ⟨e, rfl⟩ hnot
    · intro e' he
      cases he
      exact ⟨rfl, hfault⟩

def dropRun (items : List Json) : Except Failure (List Int) × Database.Traced Unit :=
  (dropColumns willing.traced 7 items).run.run ⟨(), []⟩

/-- Two items that mark the same column, with one between them that marks another, and items that mark none. -/
def mixedItems : List Json :=
  [.object [("attnum", .int 3), ("delete", .bool true)], .object [("attnum", .null), ("delete", .bool true)],
    .string "attnum", .object [("attnum", .int 32767), ("delete", .bool true)],
    .object [("attnum", .int 0), ("delete", .int 1)], .object [("attnum", .int 3), ("delete", .bool true)]]

def blockedItems : List Json :=
  [.object [("attnum", .int 3), ("delete", .bool true)], .object [("attnum", .int 32768), ("delete", .bool true)]]

theorem dropped_of_mixed :
    (∃ ns, Drops mixedItems ns ∧ DroppedBy 7 ns (dropRun mixedItems).1 (dropRun mixedItems).2.log) ∧
    (dropRun mixedItems).1 = .ok [3, 32767, 3] ∧
    (∃ v ∈ blockedItems, Marked v ∧ ∀ n, ¬NamesColumn v n) ∧ (dropRun blockedItems).2.log = [] ∧
    (dropRun blockedItems).1 = .error (.invalid (.notColumnNumberValue (.int 32768))) ∧
    FirstFault Droppable DropFault 0 blockedItems (.notColumnNumberValue (.int 32768)) := by
  obtain ⟨log, hrun, -, -, hall⟩ := marked_columns_dropped willing 7 mixedItems () []
  obtain ⟨log', hrun', hiff, hnone, -⟩ := marked_columns_dropped willing 7 blockedItems () []
  rw [List.nil_append] at hrun hrun'
  have hblocked : (dropRun blockedItems).1 = .error (.invalid (.notColumnNumberValue (.int 32768))) := rfl
  have hsame : ((dropColumns willing 7 blockedItems).run.run ()).1 = (dropRun blockedItems).1 := rfl
  refine ⟨?_, rfl, hiff.mp ⟨_, hsame.trans hblocked⟩, rfl, hblocked, (hnone _ (hsame.trans hblocked)).2⟩
  rw [dropRun, hrun]
  have hdrops : Drops mixedItems [3, 32767, 3] := dropTargets_ok_iff.mp rfl
  exact hall hdrops.droppable

end Intake.Alteration
