/-
  Intake.Proofs.Alteration.Wrapper — a default value that is not wrapped.

  The default value of a request stands in a wrapper, an object with the member `value`. A text, a number
  or a truth value in its place is refused, and so is a longer array. But an array of at most one item is
  taken for a wrapper: its item is the value, and without one the default value is left alone.

  Proved:
  - `readWrapper_bare`: what is read of such a value.
  - `read_fault`: a wrapper that is refused is what the request is refused for.
  - `normalize_insert`: for the wrapper it counts what is read of it, and nothing else.
  - `wrapper_by_kind`: what becomes of a request whose wrapper is neither null nor an object.
  - `array_taken_for_wrapper`: a default value set, cleared and left alone by an array, in each shape.
-/

import Intake.Alteration.Failure
import Intake.Proofs.Alteration.Kept

namespace Intake.Alteration

open Json (Members)

/-! ## What is read in place of a wrapper -/

inductive NoWrapper (w : Json) : Mismatch → Prop
  | kind (h : ∀ items, w ≠ .array items) : NoWrapper w (.kind w .wrapper)
  | length (items : List Json) (hw : w = .array items) (h : 1 < items.length) : NoWrapper w (.length items.length)

/-- The wrapper that an array is taken for. -/
def wrapperOf (items : List Json) : Json := .object (items.map fun v => ("value", v))

theorem readWrapper_wrapperOf {items : List Json} (h : items.length ≤ 1) :
    readWrapper (wrapperOf items) = readWrapper (.array items) ∧
      readWrapper (.array items) = .ok (.ofMember items.head?) := by
  match items, h with
  | [], _ => exact ⟨rfl, rfl⟩
  | [v], _ => exact ⟨rfl, rfl⟩
  | v :: w :: rest, h => exact absurd h (by simp)

theorem readWrapper_bare {w : Json} (hnull : w ≠ .null) (hobject : ∀ fields, w ≠ .object fields) :
    (∃ m, readWrapper w = .error m ∧ NoWrapper w m) ∨ ∃ items, w = .array items ∧ items.length ≤ 1 := by
  cases w with
  | null => exact absurd rfl hnull
  | object fields => exact absurd rfl (hobject fields)
  | bool b => exact .inl ⟨_, rfl, .kind nofun⟩
  | number n => exact .inl ⟨_, rfl, .kind nofun⟩
  | string s => exact .inl ⟨_, rfl, .kind nofun⟩
  | array items =>
    match items with
    | [] => exact .inr ⟨[], rfl, by simp⟩
    | [v] => exact .inr ⟨[v], rfl, by simp⟩
    | v :: w :: rest => exact .inl ⟨_, rfl, .length _ rfl (by simp)⟩

/-! ## Requests -/

section

variable {ms : Members} {shape : Shape}

theorem read_fault {m : Mismatch} (h : readDefault ms shape.wrapperKey = .error m) :
    Request.read shape ms = .error m := by
  have hspecific : shape.read ms = .error m := by
    cases shape with
    | wrappedDefault => exact bind_error_iff.mpr (.inl h)
    | nestedType => exact bind_error_iff.mpr (.inl h)
    | current => exact bind_error_iff.mpr (.inl h)
  exact bind_error_iff.mpr (.inl hspecific)

theorem wrapperKey_ne_type (shape : Shape) : shape.wrapperKey ≠ "type" := by
  cases shape <;> decide

theorem wrapperKey_not_plain (shape : Shape) : shape.wrapperKey ∉ shape.plainKeys := by
  cases shape <;> decide

/-- Another value under the key of the wrapper leaves the shape as it is. -/
theorem detect_insert (w : Json) :
    Shape.detect (Members.insert (Shape.detect ms).wrapperKey w ms) = Shape.detect ms := by
  have hother : ∀ key, "default" ≠ key → (Members.insert "default" w ms).get? key = ms.get? key := by
    intro key hkey
    rw [Members.get?_insert, if_neg hkey]
  have hkept : Shape.detect (Members.insert "default" w ms) = Shape.detect ms := by
    rw [Shape.detect, Shape.detect, Members.has, Members.has, hother _ (by decide), hother _ (by decide)]
  cases hshape : Shape.detect ms with
  | wrappedDefault =>
    have hdict : (Members.insert "column_default_dict" w ms).has "column_default_dict" = true := by
      rw [Members.has, Members.get?_insert, if_pos rfl]
      rfl
    exact if_pos hdict
  | nestedType => exact hkept.trans hshape
  | current => exact hkept.trans hshape

theorem normalize_fault {m : Mismatch} {fallback : Option Int}
    (h : readDefault ms (Shape.detect ms).wrapperKey = .error m) :
    normalize (.object ms) fallback = .error (.mismatch (Shape.detect ms) m) := by
  have hread : Request.ofJson (.object ms) = .error (.mismatch (Shape.detect ms) m) :=
    mapError_error_iff.mpr ⟨m, read_fault h, rfl⟩
  exact bind_error_iff.mpr (.inl hread)

theorem normalize_insert {w w' : Json} (hfound : ms.get? (Shape.detect ms).wrapperKey = some w)
    (h : readWrapper w' = readWrapper w) (fallback : Option Int) :
    normalize (.object (Members.insert (Shape.detect ms).wrapperKey w' ms)) fallback =
      normalize (.object ms) fallback := by
  have hdefault : readDefault (Members.insert (Shape.detect ms).wrapperKey w' ms) (Shape.detect ms).wrapperKey =
      readDefault ms (Shape.detect ms).wrapperKey := by
    rw [readDefault, readDefault, Members.get?_insert, if_pos rfl, hfound]
    exact h
  have hother : ∀ key, (Shape.detect ms).wrapperKey ≠ key →
      Members.get? (Members.insert (Shape.detect ms).wrapperKey w' ms) key = ms.get? key := by
    intro key hkey
    rw [Members.get?_insert, if_neg hkey]
  have hplain : AgreeOn (Shape.detect ms).plainKeys (Members.insert (Shape.detect ms).wrapperKey w' ms) ms := by
    intro key hkey
    refine hother key fun hwrapper => ?_
    rw [← hwrapper] at hkey
    exact wrapperKey_not_plain _ hkey
  have htype : SameIn ["name", "options"]
      (Members.get? (Members.insert (Shape.detect ms).wrapperKey w' ms) "type") (ms.get? "type") := by
    rw [hother "type" (wrapperKey_ne_type _)]
    exact sameIn_refl _ _
  simp only [normalize, Request.ofJson, detect_insert, read_same hdefault hplain fun _ => htype]

/-- A change takes its default value from what is read of the wrapper. -/
theorem normalize_default {p : Patch Json} {fallback : Option Int} {c : Change}
    (hdefault : readDefault ms (Shape.detect ms).wrapperKey = .ok p)
    (hc : normalize (.object ms) fallback = .ok c) : c.defaultValue = p := by
  obtain ⟨ms', r, hms, hr, hn⟩ := normalize_ok_iff.mp hc
  cases hms
  have hread := shape_read_wrapper rfl hr.specific
  rw [hdefault] at hread
  rw [(request_keeps hn).1]
  exact (Except.ok.inj hread).symm

end

/-- A request whose wrapper is neither null nor an object fails as invalid, with what is wrong with the wrapper,
    unless the wrapper is an array of at most one item. Then the request comes to what it would with the item
    in an object: a change that it makes sets the default value to the item, clears it if the item is null,
    and leaves it alone if there is none. -/
theorem wrapper_by_kind {ms : Members} {w : Json} (hfound : ms.get? (Shape.detect ms).wrapperKey = some w)
    (hnull : w ≠ .null) (hobject : ∀ fields, w ≠ .object fields) (fallback : Option Int) :
    ((∀ items, w = .array items → 1 < items.length) →
      ∃ m, NoWrapper w m ∧ normalize (.object ms) fallback = .error (.mismatch (Shape.detect ms) m) ∧
        (Failure.invalid (.mismatch (Shape.detect ms) m)).code = "validation_error") ∧
    ∀ items, w = .array items → items.length ≤ 1 →
      normalize (.object ms) fallback =
        normalize (.object (Members.insert (Shape.detect ms).wrapperKey (wrapperOf items) ms)) fallback ∧
      ∀ c, normalize (.object ms) fallback = .ok c → c.defaultValue = .ofMember items.head? := by
  have hdefault : readDefault ms (Shape.detect ms).wrapperKey = readWrapper w := by
    rw [readDefault, hfound]
  constructor
  · intro hlong
    rcases readWrapper_bare hnull hobject with ⟨m, hm, hno⟩ | ⟨items, rfl, hshort⟩
    · exact ⟨m, hno, normalize_fault (hdefault.trans hm), rfl⟩
    · exact absurd (hlong items rfl) (Nat.not_lt.mpr hshort)
  · rintro items rfl hshort
    obtain ⟨hsame, hread⟩ := readWrapper_wrapperOf hshort
    exact ⟨(normalize_insert hfound hsame fallback).symm, fun c hc => normalize_default (hdefault.trans hread) hc⟩

theorem wrapper_of_bare :
    (∃ m, NoWrapper (.string "5") m ∧
      normalize (.object (wrappedIn (.string "5"))) none = .error (.mismatch .current m)) ∧
    (∃ m, NoWrapper (.array [.null, .int 5]) m ∧
      normalize (.object (wrappedIn (.array [.null, .int 5]))) none = .error (.mismatch .current m)) ∧
    normalize (.object (wrappedIn (.array [.int 5]))) none = .ok (wrappedChange (.set (.int 5))) ∧
    (wrappedChange (.set (.int 5))).defaultValue = .ofMember (some (.int 5)) := by
  have hfound : ∀ w, Members.get? (wrappedIn w) (Shape.detect (wrappedIn w)).wrapperKey = some w := fun _ => rfl
  have htext := wrapper_by_kind (hfound (.string "5")) nofun nofun none
  have hpair := wrapper_by_kind (hfound (.array [.null, .int 5])) nofun nofun none
  have hsingle := wrapper_by_kind (hfound (.array [.int 5])) nofun nofun none
  obtain ⟨m, hm, hrefused, -⟩ := htext.1 nofun
  obtain ⟨m', hm', hrefused', -⟩ := hpair.1 (by rintro _ ⟨⟩; decide)
  obtain ⟨hsame, hkept⟩ := hsingle.2 _ rfl (by decide)
  have hset : normalize (.object (wrappedIn (.array [.int 5]))) none = .ok (wrappedChange (.set (.int 5))) :=
    hsame.trans rfl
  exact ⟨⟨m, hm, hrefused⟩, ⟨m', hm', hrefused'⟩, hset, hkept _ hset⟩

theorem array_taken_for_wrapper :
    normalize (.object [("attnum", .int 3), ("column_default_dict", .array [.int 5])]) none =
      .ok ⟨3, none, none, none, .set (.int 5), none, .unset⟩ ∧
    normalize (.object [("attnum", .int 3), ("default", .array [.null]), ("type", .object [])]) none =
      .ok ⟨3, none, none, none, .clear, none, .unset⟩ ∧
    normalize (.object [("attnum", .int 3), ("default", .array [])]) none =
      .ok ⟨3, none, none, none, .unset, none, .unset⟩ := ⟨rfl, rfl, rfl⟩

end Intake.Alteration
