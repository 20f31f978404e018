/-
  Intake.Proofs.Json.Data — values as data.

  The members of an object that is data stand in ascending order of their keys, each key once. So two values whose
  objects were put together in different orders are compared as data.

  Proved:
  - `asData_of_isData`, `isData_ofMembers`: a value that is data stays as it is, and an object of such values is data.
  - `asData_ofMembers`: putting the members of an object together does not change it as data.
-/

import Intake.Proofs.Json.Members

namespace Intake.Json

mutual

/-- The value as data: the members of each object in ascending order; of several with one key the last counts. -/
def asData : Json → Json
  | null => null
  | bool b => bool b
  | number n => number n
  | string s => string s
  | array items => array (itemsAsData items)
  | object members => ofMembers (membersAsData members)

def itemsAsData : List Json → List Json
  | [] => []
  | v :: vs => asData v :: itemsAsData vs

def membersAsData : List (String × Json) → List (String × Json)
  | [] => []
  | (k, v) :: ms => (k, asData v) :: membersAsData ms

end

/-- A value all of whose objects have their members in order. -/
inductive IsData : Json → Prop
  | null : IsData .null
  | bool (b : Bool) : IsData (.bool b)
  | number (n : Number) : IsData (.number n)
  | string (s : String) : IsData (.string s)
  | array {items : List Json} (h : ∀ v ∈ items, IsData v) : IsData (.array items)
  | object {ms : Members} (h : ∀ m ∈ ms, IsData m.2) (hascending : ms.Ascending) : IsData (.object ms)

theorem itemsAsData_eq (items : List Json) : itemsAsData items = items.map asData := by
  induction items with
  | nil => rfl
  | cons v vs ih => rw [itemsAsData, List.map_cons, ih]

theorem membersAsData_eq (ms : List (String × Json)) : membersAsData ms = ms.map fun m => (m.1, asData m.2) := by
  induction ms with
  | nil => rfl
  | cons m ms ih => rw [membersAsData, List.map_cons, ih]

theorem asData_object (ms : Members) : asData (.object ms) = ofMembers (ms.map fun m => (m.1, asData m.2)) := by
  rw [asData, membersAsData_eq]

theorem asData_of_isData {v : Json} (h : IsData v) : v.asData = v := by
  induction h with
  | null => rw [asData]
  | bool b => rw [asData]
  | number n => rw [asData]
  | string s => rw [asData]
  | array _ ih =>
    rw [asData, itemsAsData_eq, List.map_congr_left ih, List.map_id']
  | @object ms _ hascending ih =>
    have hsame : ms.map (fun m => (m.1, asData m.2)) = ms := by
      conv => rhs; rw [← List.map_id' ms]
      exact List.map_congr_left fun m hm => by rw [ih m hm]
    rw [asData_object, hsame, ofMembers, Members.ofList_of_ascending hascending]

theorem isData_ofMembers {ms : List (String × Json)} (h : ∀ m ∈ ms, IsData m.2) : IsData (ofMembers ms) :=
  .object (fun m hm => h m (Members.mem_of_mem_ofList hm)) (Members.ascending_ofList ms)

theorem asData_ofMembers (ms : List (String × Json)) : (ofMembers ms).asData = (object ms).asData := by
  have hascending := Members.ascending_ofList (ms.map fun m => (m.1, asData m.2))
  rw [ofMembers, asData_object, asData_object, Members.map_ofList, ofMembers, ofMembers,
    Members.ofList_of_ascending hascending]

end Intake.Json
