/-
  Intake.Proofs.Alteration.Reported — a change as the database gets it and as it is shown.

  The database gets the members of a change put together one by one, so they stand in the order of their keys. Shown
  they stand in the order of the parts of a change. As data the two are one value.

  Proved:
  - `says_of_mem`: a member that is shown is one that the change says.
  - `payload_put_together`: what the database gets is what is shown, put together.
  - `payload_reported`: so both are the same as data, whatever the change, and what the database gets is data if what
    the change holds is.
-/

import Intake.Proofs.Alteration.Kept
import Intake.Proofs.Json.Data

namespace Intake.Alteration

open Json (Members)

/-! ## What a change says -/

/-- A change says something under a key: what it does not leave alone, and null for what it clears. -/
inductive Says (c : Change) : String → Json → Prop
  | attnum : Says c "attnum" (.int c.attnum)
  | type {t : TypeChange} (h : c.typeChange = some t) : Says c "type" t.report
  | notNull {b : Bool} (h : c.notNull = some b) : Says c "not_null" (.bool b)
  | name {s : String} (h : c.name = some s) : Says c "name" (.string s)
  | default {v : Json} (h : c.defaultValue.member id = some v) : Says c "default" v
  | delete {b : Bool} (h : c.delete = some b) : Says c "delete" (.bool b)
  | description {v : Json} (h : c.description.member .string = some v) : Says c "description" v

section

variable {α : Type} {key : String} {f : α → Json}

theorem mem_shown {value : Option α} {m : String × Json} (h : m ∈ shown key f value) :
    ∃ a, value = some a ∧ m = (key, f a) := by
  cases value with
  | none => cases h
  | some a => exact ⟨a, rfl, List.mem_singleton.mp h⟩

theorem mem_shownPatch {p : Patch α} {m : String × Json} (h : m ∈ shownPatch key f p) :
    ∃ v, p.member f = some v ∧ m = (key, v) := by
  cases p with
  | unset => cases h
  | clear => exact ⟨.null, rfl, List.mem_singleton.mp h⟩
  | set a => exact ⟨f a, rfl, List.mem_singleton.mp h⟩

/-! ## Put together -/

theorem ofList_shown (value : Option α) (ms : List (String × Json)) :
    Members.ofList (ms ++ shown key f value) = withMember key f value (Members.ofList ms) := by
  rw [Members.ofList, List.foldl_append]
  cases value <;> rfl

theorem ofList_shownPatch (p : Patch α) (ms : List (String × Json)) :
    Members.ofList (ms ++ shownPatch key f p) = withPatch key f p (Members.ofList ms) := by
  rw [Members.ofList, List.foldl_append]
  cases p <;> rfl

end

theorem says_of_mem {c : Change} {ms : Members} (hreport : c.report = .object ms) {m : String × Json} (hm : m ∈ ms) :
    Says c m.1 m.2 := by
  obtain rfl := Json.object.inj hreport
  simp only [List.mem_append, List.mem_cons] at hm
  rcases hm with (((((rfl | hm) | hm) | hm) | hm) | hm) | hm
  · exact .attnum
  · obtain ⟨t, ht, rfl⟩ := mem_shown hm
    exact .type ht
  · obtain ⟨b, hb, rfl⟩ := mem_shown hm
    exact .notNull hb
  · obtain ⟨s, hs, rfl⟩ := mem_shown hm
    exact .name hs
  · obtain ⟨v, hv, rfl⟩ := mem_shownPatch hm
    exact .default hv
  · obtain ⟨b, hb, rfl⟩ := mem_shown hm
    exact .delete hb
  · obtain ⟨v, hv, rfl⟩ := mem_shownPatch hm
    exact .description hv

theorem ascending_type (t : TypeChange) :
    Members.Ascending (shown "name" .string t.name ++ shown "options" id t.options) := by
  refine List.pairwise_append.mpr ⟨?_, ?_, ?_⟩
  · cases t.name with
    | none => exact .nil
    | some s => exact List.pairwise_singleton _ _
  · cases t.options with
    | none => exact .nil
    | some v => exact List.pairwise_singleton _ _
  · intro m hm n hn
    obtain ⟨s, -, rfl⟩ := mem_shown hm
    obtain ⟨v, -, rfl⟩ := mem_shown hn
    show "name" < "options"
    decide

theorem type_payload (t : TypeChange) : t.payload = t.report := by
  have hpayload : t.payload = .ofMembers (shown "name" .string t.name ++ shown "options" id t.options) := by
    rw [Json.ofMembers, ofList_shown, ← List.nil_append (shown "name" .string t.name), ofList_shown]
    rfl
  rw [hpayload, Json.ofMembers, Members.ofList_of_ascending (ascending_type t)]
  rfl

/-- What the database gets of a change is what is shown of it, put together. -/
theorem payload_put_together (c : Change) : ∃ ms, c.report = .object ms ∧ c.payload = .ofMembers ms := by
  refine ⟨_, rfl, ?_⟩
  have htype : TypeChange.payload = TypeChange.report := funext type_payload
  rw [Json.ofMembers, ofList_shownPatch, ofList_shown, ofList_shownPatch, ofList_shown, ofList_shown,
    ← List.singleton_append, ofList_shown, ← htype]
  rfl

/-! ## As data -/

structure Change.OfData (c : Change) : Prop where
  options : ∀ t, c.typeChange = some t → ∀ v, t.options = some v → v.IsData
  defaultValue : ∀ v, c.defaultValue = .set v → v.IsData

theorem TypeChange.isData_report {t : TypeChange} (h : ∀ v, t.options = some v → v.IsData) : t.report.IsData := by
  refine .object ?_ (ascending_type t)
  intro m hm
  rcases List.mem_append.mp hm with hm | hm
  · obtain ⟨s, -, rfl⟩ := mem_shown hm
    exact .string s
  · obtain ⟨v, hv, rfl⟩ := mem_shown hm
    exact h v hv

theorem Patch.isData_member {α : Type} {f : α → Json} {p : Patch α} {v : Json} (hv : p.member f = some v)
    (h : ∀ a, p = .set a → (f a).IsData) : v.IsData := by
  cases p with
  | unset => cases hv
  | clear => cases hv; exact .null
  | set a => cases hv; exact h a rfl

theorem Says.isData {c : Change} (h : c.OfData) {key : String} {v : Json} (hsaid : Says c key v) : v.IsData := by
  cases hsaid with
  | attnum => exact .number _
  | type ht => exact TypeChange.isData_report (h.options _ ht)
  | notNull => exact .bool _
  | name => exact .string _
  | default hv => exact Patch.isData_member hv h.defaultValue
  | delete => exact .bool _
  | description hv => exact Patch.isData_member hv fun s _ => .string s

/-- What the database gets of a change and what is shown of it are the same as data, whatever the change leaves alone,
    clears or sets. If the values that the change holds are data, then what the database gets is just that. -/
theorem payload_reported (c : Change) :
    c.payload.asData = c.report.asData ∧ (c.OfData → c.payload = c.report.asData) := by
  obtain ⟨ms, hreport, hpayload⟩ := payload_put_together c
  have hsame : c.payload.asData = c.report.asData := by rw [hpayload, hreport, Json.asData_ofMembers]
  refine ⟨hsame, fun h => ?_⟩
  have hdata : c.payload.IsData := by
    rw [hpayload]
    exact Json.isData_ofMembers fun m hm => (says_of_mem hreport hm).isData h
  rw [← hsame, Json.asData_of_isData hdata]

/-- A change to a type without a name and without options, that sets null. -/
def bareChange : Change := ⟨-3, some ⟨none, none⟩, some false, some "label", .set .null, some false, .clear⟩

theorem payload_reported_bare : bareChange.OfData ∧ bareChange.payload = bareChange.report.asData ∧
    bareChange.payload = .object [("attnum", .int (-3)), ("default", .null), ("delete", .bool false),
      ("description", .null), ("name", .string "label"), ("not_null", .bool false), ("type", .object [])] ∧
    bareChange.report = .object [("attnum", .int (-3)), ("type", .object []), ("not_null", .bool false),
      ("name", .string "label"), ("default", .null), ("delete", .bool false), ("description", .null)] := by
  have hdata : bareChange.OfData := by
    refine ⟨?_, ?_⟩
    · intro t ht v hv
      cases ht
      cases hv
    · intro v hv
      cases hv
      exact .null
  exact ⟨hdata, (payload_reported bareChange).2 hdata, rfl, rfl⟩

end Intake.Alteration
