/-
  Intake.Proofs.Json.Members — the members of an object, by key and in order.

  Adding a member changes what its key finds and nothing else (`get?_insert`). Of members put
  together one after the other, the last one with a key is the one that is found
  (`get?_ofList_cons`, `get?_ofList_append`). They stand in ascending order of their keys
  (`ascending_ofList`), and members that do so already stay as they are (`ofList_of_ascending`).
-/

import Intake.Json.Value

namespace Intake.Json.Members

/-! ## By key -/

@[simp] theorem get?_nil (key : String) : get? [] key = none := rfl

@[simp] theorem ofList_nil : ofList [] = [] := rfl

theorem get?_cons (m : String × Json) (ms : Members) (key : String) :
    get? (m :: ms) key = if m.1 = key then some m.2 else get? ms key := by
  rw [get?, List.find?_cons]
  by_cases h : m.1 = key
  · simp [h]
  · simp [h, get?]

theorem get?_insert (k : String) (v : Json) (ms : Members) (key : String) :
    get? (insert k v ms) key = if k = key then some v else get? ms key := by
  induction ms with
  | nil => rw [insert, get?_cons]
  | cons m ms ih =>
    rw [insert]
    split
    · rw [get?_cons]
    split
    · rename_i he
      rw [get?_cons, get?_cons, ← he]
      split <;> rfl
    · rename_i hne
      rw [get?_cons, get?_cons, ih]
      by_cases h : m.1 = key
      · rw [if_pos h, if_pos h, if_neg fun e => hne (e.trans h.symm)]
      · rw [if_neg h, if_neg h]

theorem get?_foldl_insert (ms done : Members) (key : String) :
    get? (ms.foldl (fun done m => insert m.1 m.2 done) done) key =
      (get? (ofList ms) key).or (get? done key) := by
  induction ms generalizing done with
  | nil => simp
  | cons m ms ih =>
    rw [ofList, List.foldl_cons, List.foldl_cons, ih, ih, get?_insert, get?_insert, Option.or_assoc]
    congr 1
    split <;> simp

theorem get?_ofList_cons (m : String × Json) (ms : List (String × Json)) (key : String) :
    get? (ofList (m :: ms)) key = (get? (ofList ms) key).or (if m.1 = key then some m.2 else none) := by
  rw [ofList, List.foldl_cons, get?_foldl_insert, get?_insert, get?_nil]

theorem get?_ofList_append (ms ns : List (String × Json)) (key : String) :
    get? (ofList (ms ++ ns)) key = (get? (ofList ns) key).or (get? (ofList ms) key) := by
  rw [ofList, List.foldl_append, get?_foldl_insert, ← ofList]

theorem get?_eq_none {ms : Members} {key : String} (h : ∀ m ∈ ms, m.1 ≠ key) : get? ms key = none := by
  unfold get?
  rw [Option.map_eq_none_iff, List.find?_eq_none]
  intro m hm
  simpa using h m hm

/-! ## In order -/

/-- Each key is greater than the keys before it. -/
def Ascending (ms : Members) : Prop := ms.Pairwise fun m n => m.1 < n.1

theorem mem_insert {k : String} {v : Json} {ms : Members} {m : String × Json} (h : m ∈ insert k v ms) :
    m = (k, v) ∨ m ∈ ms := by
  induction ms with
  | nil => exact .inl (List.mem_singleton.mp h)
  | cons n ms ih =>
    rw [insert] at h
    split at h
    · exact List.mem_cons.mp h
    split at h
    · rcases List.mem_cons.mp h with h | h
      · exact .inl h
      · exact .inr (List.mem_cons_of_mem _ h)
    · rcases List.mem_cons.mp h with rfl | h
      · exact .inr List.mem_cons_self
      · rcases ih h with h | h
        · exact .inl h
        · exact .inr (List.mem_cons_of_mem _ h)

theorem key_lt {k n : String} (hlt : ¬k < n) (hne : k ≠ n) : n < k := by
  by_cases h : n < k
  · exact h
  · exact absurd (String.le_antisymm (String.not_lt.mp h) (String.not_lt.mp hlt)) hne

theorem ascending_insert {ms : Members} (h : Ascending ms) (k : String) (v : Json) : Ascending (insert k v ms) := by
  induction ms with
  | nil => exact List.pairwise_singleton _ _
  | cons n ms ih =>
    obtain ⟨hfirst, hrest⟩ := List.pairwise_cons.mp h
    rw [insert]
    split
    · rename_i hlt
      refine List.pairwise_cons.mpr ⟨?_, h⟩
      intro m hm
      rcases List.mem_cons.mp hm with rfl | hm
      · exact hlt
      · exact String.lt_trans hlt (hfirst m hm)
    split
    · rename_i heq
      refine List.pairwise_cons.mpr ⟨?_, hrest⟩
      intro m hm
      rw [heq]
      exact hfirst m hm
    · rename_i hlt hne
      refine List.pairwise_cons.mpr ⟨?_, ih hrest⟩
      intro m hm
      rcases mem_insert hm with rfl | hm
      · exact key_lt hlt hne
      · exact hfirst m hm

theorem ascending_foldl {done : Members} (h : Ascending done) (ms : List (String × Json)) :
    Ascending (ms.foldl (fun done m => insert m.1 m.2 done) done) := by
  induction ms generalizing done with
  | nil => exact h
  | cons m ms ih => exact ih (ascending_insert h m.1 m.2)

theorem ascending_ofList (ms : List (String × Json)) : Ascending (ofList ms) := ascending_foldl .nil ms

theorem mem_of_mem_foldl {done : Members} {ms : List (String × Json)} {m : String × Json}
    (h : m ∈ ms.foldl (fun done m => insert m.1 m.2 done) done) : m ∈ ms ∨ m ∈ done := by
  induction ms generalizing done with
  | nil => exact .inr h
  | cons n ms ih =>
    rcases ih h with h | h
    · exact .inl (List.mem_cons_of_mem _ h)
    · rcases mem_insert h with rfl | h
      · exact .inl List.mem_cons_self
      · exact .inr h

theorem mem_of_mem_ofList {ms : List (String × Json)} {m : String × Json} (h : m ∈ ofList ms) : m ∈ ms := by
  rcases mem_of_mem_foldl h with h | h
  · exact h
  · cases h

theorem get?_ofList_none {ms : List (String × Json)} {key : String} (h : ∀ m ∈ ms, m.1 ≠ key) :
    get? (ofList ms) key = none :=
  get?_eq_none fun m hm => h m (mem_of_mem_ofList hm)

/-- A key greater than all others is put behind them. -/
theorem insert_last {ms : Members} {k : String} (h : ∀ m ∈ ms, m.1 < k) (v : Json) :
    insert k v ms = ms ++ [(k, v)] := by
  induction ms with
  | nil => rfl
  | cons n ms ih =>
    obtain ⟨hn, hms⟩ := List.forall_mem_cons.mp h
    have hne : k ≠ n.1 := fun e => String.lt_irrefl k (e ▸ hn)
    rw [insert, if_neg (String.lt_asymm hn), if_neg hne, ih hms, List.cons_append]

theorem foldl_of_ascending {done ms : Members} (h : Ascending (done ++ ms)) :
    ms.foldl (fun done m => insert m.1 m.2 done) done = done ++ ms := by
  induction ms generalizing done with
  | nil => exact (List.append_nil _).symm
  | cons m ms ih =>
    have hbefore : ∀ n ∈ done, n.1 < m.1 := fun n hn =>
      (List.pairwise_append.mp h).2.2 n hn m List.mem_cons_self
    have hshift : done ++ m :: ms = (done ++ [m]) ++ ms := by rw [List.append_assoc, List.singleton_append]
    rw [hshift] at h ⊢
    rw [List.foldl_cons, insert_last hbefore, ih h]

theorem ofList_of_ascending {ms : Members} (h : Ascending ms) : ofList ms = ms := @foldl_of_ascending [] ms h

theorem map_insert (f : Json → Json) (k : String) (v : Json) (ms : Members) :
    (insert k v ms).map (fun m => (m.1, f m.2)) = insert k (f v) (ms.map fun m => (m.1, f m.2)) := by
  induction ms with
  | nil => rfl
  | cons n ms ih =>
    rw [insert, List.map_cons, insert]
    split
    · rfl
    split
    · rfl
    · rw [List.map_cons, ih]

theorem map_foldl (f : Json → Json) (ms : List (String × Json)) (done : Members) :
    (ms.foldl (fun done m => insert m.1 m.2 done) done).map (fun m => (m.1, f m.2)) =
      (ms.map fun m => (m.1, f m.2)).foldl (fun done m => insert m.1 m.2 done)
        (done.map fun m => (m.1, f m.2)) := by
  induction ms generalizing done with
  | nil => rfl
  | cons m ms ih => rw [List.foldl_cons, ih, map_insert, List.map_cons, List.foldl_cons]

theorem map_ofList (f : Json → Json) (ms : List (String × Json)) :
    (ofList ms).map (fun m => (m.1, f m.2)) = ofList (ms.map fun m => (m.1, f m.2)) :=
  map_foldl f ms []

end Intake.Json.Members
