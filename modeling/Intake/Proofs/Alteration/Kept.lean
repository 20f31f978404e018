/-
  Intake.Proofs.Alteration.Kept — what is left alone, cleared or set stays so on the way from a request
  to the database.

  The database gets the default value that stands in the wrapper of a request, and the description that
  stands in the request itself, as they stand there: nothing where there is nothing, null where there is
  null, and otherwise the value.

  Proved:
  - `payload_default`, `payload_description`: the database gets what the change holds.
  - `shape_read_default`, `readTextPatch_member`: the change holds what the request holds.
  - `three_states_kept`: so the three states arrive as three.
-/

import Intake.Alteration.Payload
import Intake.Proofs.Alteration.Accepted

namespace Intake.Alteration

open Json (Members)

/-! ## What the database gets -/

def Patch.member {α : Type} (f : α → Json) : Patch α → Option Json
  | unset => none
  | clear => some .null
  | set a => some (f a)

theorem get?_withMember {α : Type} (k key : String) (f : α → Json) (v : Option α) (ms : Members) :
    Members.get? (withMember k f v ms) key = if k = key then (v.map f).or (ms.get? key) else ms.get? key := by
  cases v with
  | none => simp [withMember]
  | some a => simp [withMember, Members.get?_insert]

theorem get?_withPatch {α : Type} (k key : String) (f : α → Json) (p : Patch α) (ms : Members) :
    Members.get? (withPatch k f p ms) key = if k = key then (p.member f).or (ms.get? key) else ms.get? key := by
  cases p with
  | unset => simp [withPatch, Patch.member]
  | clear => simp [withPatch, Patch.member, Members.get?_insert]
  | set a => simp [withPatch, Patch.member, Members.get?_insert]

theorem payload_default (c : Change) : c.payload.get? "default" = c.defaultValue.member id := by
  simp [Change.payload, Json.get?, get?_withPatch, get?_withMember, Members.get?_insert]

theorem payload_description (c : Change) : c.payload.get? "description" = c.description.member .string := by
  simp [Change.payload, Json.get?, get?_withPatch, get?_withMember, Members.get?_insert]

/-! ## What a change holds -/

theorem member_ofMember (v : Option Json) : (Patch.ofMember v).member id = v := by
  rcases v with _ | v
  · rfl
  · cases v <;> rfl

theorem isSet_ofMember {v : Option Json} : (Patch.ofMember v).isSet = true ↔ v ≠ none ∧ v ≠ some .null := by
  rcases v with _ | v
  · simp [Patch.ofMember, Patch.isSet]
  · cases v <;> simp [Patch.ofMember, Patch.ofOption, Patch.isSet, readAny, Json.isNull]

section

variable {ms : Members} {shape : Shape}

theorem shape_read_wrapper {s : Specific} (hshape : Shape.detect ms = shape) (hs : shape.read ms = .ok s) :
    readDefault ms shape.wrapperKey = .ok s.defaultValue := by
  cases shape with
  | wrappedDefault => exact (readFlat_ok_iff.mp hs).1
  | current => exact (readFlat_ok_iff.mp hs).1
  | nestedType =>
    obtain ⟨spec, htype⟩ := detect_nestedType hshape
    exact ((readNested_ok_iff htype).mp hs).1

theorem shape_read_default {s : Specific} (hshape : Shape.detect ms = shape)
    (hwrapper : Allows IsObject (ms.get? shape.wrapperKey)) (hs : shape.read ms = .ok s) :
    s.defaultValue = .ofMember (wrapped? (ms.get? shape.wrapperKey)) := by
  have hsame := shape_read_wrapper hshape hs
  rw [readDefault_eq hwrapper] at hsame
  exact (Except.ok.inj hsame).symm

theorem readTextPatch_member {key : String} {p : Patch String} (h : readTextPatch ms key = .ok p) :
    p.member .string = ms.get? key := by
  unfold readTextPatch at h
  rcases hget : ms.get? key with _ | v
  · rw [hget] at h
    cases h
    rfl
  · rw [hget] at h
    obtain ⟨t, ht, hp⟩ := bind_ok_iff.mp h
    obtain rfl := pure_ok_iff.mp hp
    cases v with
    | null => cases ht; rfl
    | string s => cases ht; rfl
    | bool b => cases ht
    | number n => cases ht
    | array items => cases ht
    | object fields => cases ht

/-- A change takes its default value and its description from the request as they are. -/
theorem request_keeps {r : Request} {fallback : Option Int} {c : Change} (h : r.normalize fallback = .ok c) :
    c.defaultValue = r.defaultValue ∧ c.description = r.description := by
  unfold Request.normalize at h
  obtain ⟨n, -, hc⟩ := bind_ok_iff.mp h
  obtain rfl := pure_ok_iff.mp hc
  exact ⟨rfl, rfl⟩

theorem normalize_keeps {fallback : Option Int} {c : Change}
    (hwrapper : Allows IsObject (ms.get? (Shape.detect ms).wrapperKey))
    (hc : normalize (.object ms) fallback = .ok c) :
    c.defaultValue = .ofMember (wrapped? (ms.get? (Shape.detect ms).wrapperKey)) ∧
      c.description.member .string = ms.get? "description" := by
  obtain ⟨ms', r, hms, hr, hn⟩ := normalize_ok_iff.mp hc
  cases hms
  obtain ⟨hdefault, hdescription⟩ := request_keeps hn
  rw [hdefault, hdescription]
  exact ⟨shape_read_default rfl hwrapper hr.specific, readTextPatch_member hr.description⟩

end

/-! ## Three states -/

/-- Where the value that a wrapper holds comes from: from inside, or the wrapper itself is missing or
    null. -/
theorem wrapped?_eq_iff {wrapper v : Option Json} (h : Allows IsObject wrapper) :
    wrapped? wrapper = v ↔ (wrapper = v ∧ (v = none ∨ v = some .null)) ∨
      ∃ fields, wrapper = some (.object fields) ∧ Members.get? fields "value" = v := by
  rcases wrapper with _ | w
  · cases v <;> simp [wrapped?]
  · cases w with
    | null =>
      constructor
      · rintro rfl
        exact .inl ⟨rfl, .inr rfl⟩
      · rintro (⟨h, -⟩ | ⟨fields, hfields, -⟩)
        · exact h
        · cases hfields
    | object fields =>
      constructor
      · intro hv
        exact .inr ⟨fields, rfl, hv⟩
      · rintro (⟨rfl, hv⟩ | ⟨fields', hfields, hv⟩)
        · simp at hv
        · cases hfields
          exact hv
    | bool b => exact absurd h id
    | number n => exact absurd h id
    | string s => exact absurd h id
    | array items => exact absurd h id

/-- Of a request that is accepted, with a wrapper that is missing, null or an object, the database gets
    no default value if there is no wrapper or no value in it, null if either of them is null, and
    otherwise the value, whatever it is; and only then the change sets a default value. It gets a
    description exactly as the request has it. -/
theorem three_states_kept {ms : Members} {fallback : Option Int} {c : Change} {wrapper : Option Json}
    (hfound : ms.get? (Shape.detect ms).wrapperKey = wrapper) (hwrapper : Allows IsObject wrapper)
    (hc : normalize (.object ms) fallback = .ok c) :
    (c.payload.get? "default" = none ↔
      wrapper = none ∨ ∃ fields, wrapper = some (.object fields) ∧ Members.get? fields "value" = none) ∧
    (c.payload.get? "default" = some .null ↔
      wrapper = some .null ∨ ∃ fields, wrapper = some (.object fields) ∧ Members.get? fields "value" = some .null) ∧
    (∀ v, v ≠ .null → (c.payload.get? "default" = some v ↔
      ∃ fields, wrapper = some (.object fields) ∧ Members.get? fields "value" = some v)) ∧
    (c.setsDefault = true ↔
      ∃ fields v, wrapper = some (.object fields) ∧ Members.get? fields "value" = some v ∧ v ≠ .null) ∧
    (c.payload.get? "description" = none ↔ ms.get? "description" = none) ∧
    (c.payload.get? "description" = some .null ↔ ms.get? "description" = some .null) ∧
    ∀ s, c.payload.get? "description" = some (.string s) ↔ ms.get? "description" = some (.string s) := by
  subst hfound
  obtain ⟨hdefault, hdescription⟩ := normalize_keeps hwrapper hc
  have hsent : c.payload.get? "default" = wrapped? (ms.get? (Shape.detect ms).wrapperKey) := by
    rw [payload_default, hdefault, member_ofMember]
  have hsets : c.setsDefault = true ↔ ∃ v, wrapped? (ms.get? (Shape.detect ms).wrapperKey) = some v ∧ v ≠ .null := by
    unfold Change.setsDefault
    rw [hdefault, isSet_ofMember]
    cases wrapped? (ms.get? (Shape.detect ms).wrapperKey) <;> simp
  rw [payload_description, hdescription, hsent, hsets]
  refine ⟨?_, ?_, ?_, ?_, Iff.rfl, Iff.rfl, fun _ => Iff.rfl⟩
  all_goals simp only [wrapped?_eq_iff hwrapper]
  · simp
  · simp
  · intro v hv
    simp [hv]
  · constructor
    · rintro ⟨v, ⟨-, hnone | hnull⟩ | ⟨fields, hfields, hvalue⟩, hv⟩
      · cases hnone
      · exact absurd (Option.some.inj hnull) hv
      · exact ⟨fields, v, hfields, hvalue, hv⟩
    · rintro ⟨fields, v, hfields, hvalue, hv⟩
      exact ⟨v, .inr ⟨fields, hfields, hvalue⟩, hv⟩

/-- A request in the current shape with this wrapper. -/
def wrappedIn (wrapper : Json) : Members :=
  [("attnum", .int 3), ("default", wrapper), ("description", .null)]

def wrappedChange (d : Patch Json) : Change := ⟨3, none, none, none, d, none, .clear⟩

theorem three_states_of_wrapped :
    (normalize (.object (wrappedIn (.object [("value", .bool false)]))) none = .ok (wrappedChange (.set (.bool false))) ∧
      (wrappedChange (.set (.bool false))).payload.get? "default" = some (.bool false) ∧
      (wrappedChange (.set (.bool false))).setsDefault = true) ∧
    (normalize (.object (wrappedIn .null)) none = .ok (wrappedChange .clear) ∧
      (wrappedChange .clear).payload.get? "default" = some .null ∧
      (wrappedChange .clear).payload.get? "description" = some .null) ∧
    normalize (.object (wrappedIn (.object [("is_dynamic", .bool true)]))) none = .ok (wrappedChange .unset) ∧
      (wrappedChange .unset).payload.get? "default" = none := by
  have hset : normalize (.object (wrappedIn (.object [("value", .bool false)]))) none =
      .ok (wrappedChange (.set (.bool false))) := rfl
  have hclear : normalize (.object (wrappedIn .null)) none = .ok (wrappedChange .clear) := rfl
  have hunset : normalize (.object (wrappedIn (.object [("is_dynamic", .bool true)]))) none =
      .ok (wrappedChange .unset) := rfl
  obtain ⟨-, -, hvalue, hsets, -⟩ := three_states_kept (by rfl) (by trivial) hset
  obtain ⟨-, hnull, -, -, -, hdescription, -⟩ := three_states_kept (by rfl) (by trivial) hclear
  obtain ⟨hnone, -⟩ := three_states_kept (by rfl) (by trivial) hunset
  refine ⟨⟨hset, (hvalue _ (by simp)).mpr ⟨_, rfl, rfl⟩, hsets.mpr ⟨_, _, rfl, rfl, by simp⟩⟩,
    ⟨hclear, hnull.mpr (.inl rfl), hdescription.mpr rfl⟩, hunset, hnone.mpr (.inr ⟨_, rfl, rfl⟩)⟩

end Intake.Alteration
