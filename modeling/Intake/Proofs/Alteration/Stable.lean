/-
  Intake.Proofs.Alteration.Stable — a change that came out of a request, asked for again.

  A request can ask for one thing in many ways, and for some things that come to nothing: a blank name, a type
  without a name, options that are empty, a default value that is null. A change asks for each thing in one way
  only. So it can be written down as a request again, in each of the three shapes, and is what that request comes to.

  Proved:
  - `normal_of_normalize`: what a request comes to is a normal change.
  - `asked_wish`: a normal change that is asked for is the change that comes out.
  - `exists_normalize_iff`: the normal changes are those that come out of some request.
  - `normalize_stable`: so every change that came out of a request comes out again.
-/

import Intake.Proofs.Alteration.Kept
import Intake.Proofs.Alteration.Shapes
import Intake.Proofs.Text.Trim

namespace Intake.Alteration

open Json (Members)

/-! ## Normal changes -/

/-- A type change that asks for something, and for nothing that is empty. -/
structure TypeChange.Normal (t : TypeChange) : Prop where
  name : ∀ s ∈ t.name, s ≠ ""
  options : ∀ v ∈ t.options, v.isTruthy = true
  asks : t.name.isSome = true ∨ t.options.isSome = true

structure Change.Normal (c : Change) : Prop where
  attnum : 1 ≤ c.attnum ∧ c.attnum ≤ 32767
  typeChange : ∀ t ∈ c.typeChange, t.Normal
  name : ∀ s ∈ c.name, s ≠ "" ∧ Text.trim s = s
  defaultValue : c.defaultValue ≠ .set .null

/-- A type change has the parts that ask for something, and at least one of them. -/
theorem typeChangeOf_eq_some_iff {name : Option String} {options : Option Json} {t : TypeChange} :
    typeChangeOf name options = some t ↔
      (t.name.isSome = true ∨ t.options.isSome = true) ∧ t.name = name.filter (fun s => s ≠ "") ∧
        t.options = options.filter Json.isTruthy := by
  simp only [typeChangeOf, Option.ite_none_right_eq_some, Option.some.injEq, Bool.or_eq_true]
  constructor
  · rintro ⟨hasks, rfl⟩
    exact ⟨hasks, rfl, rfl⟩
  · rintro ⟨hasks, hname, hoptions⟩
    rw [hname, hoptions] at hasks
    refine ⟨hasks, ?_⟩
    rw [← hname, ← hoptions]

theorem typeChangeOf_normal {name : Option String} {options : Option Json} {t : TypeChange}
    (h : typeChangeOf name options = some t) : t.Normal := by
  obtain ⟨hasks, hname, hoptions⟩ := typeChangeOf_eq_some_iff.mp h
  refine ⟨?_, ?_, hasks⟩
  · intro s hs
    rw [hname] at hs
    simpa using (Option.mem_filter_iff.mp hs).2
  · intro v hv
    rw [hoptions] at hv
    exact (Option.mem_filter_iff.mp hv).2

/-- No wrapper sets a default value to null. -/
theorem readWrapper_not_null {w : Json} {p : Patch Json} (h : readWrapper w = .ok p) : p ≠ .set .null := by
  have hvalue : ∀ v, Patch.ofOption (readAny v) ≠ .set .null := by
    intro v
    cases v <;> simp [readAny, Json.isNull, Patch.ofOption]
  cases w with
  | null => cases h; simp
  | object fields =>
    rw [readWrapper] at h
    split at h
    · cases h; simp
    · cases h; exact hvalue _
  | array items =>
    cases items with
    | nil => cases h; simp
    | cons v rest =>
      cases rest with
      | nil => cases h; exact hvalue v
      | cons w rest => cases h
  | bool b => cases h
  | number n => cases h
  | string s => cases h

theorem readDefault_not_null {ms : Members} {key : String} {p : Patch Json} (h : readDefault ms key = .ok p) :
    p ≠ .set .null := by
  rw [readDefault] at h
  split at h
  · cases h; simp
  · exact readWrapper_not_null h

theorem normal_of_normalize {v : Json} {fallback : Option Int} {c : Change} (h : normalize v fallback = .ok c) :
    c.Normal := by
  obtain ⟨ms, r, rfl, hr, hc⟩ := normalize_ok_iff.mp h
  obtain ⟨n, hn, hc⟩ := bind_ok_iff.mp hc
  obtain rfl := pure_ok_iff.mp hc
  refine ⟨(resolveAttnum_ok_iff.mp hn).2, fun t ht => typeChangeOf_normal ht, ?_, ?_⟩
  · intro s hs
    obtain ⟨hs, hne⟩ := Option.mem_filter_iff.mp hs
    obtain ⟨s', -, rfl⟩ := Option.map_eq_some_iff.mp hs
    exact ⟨by simpa using hne, Text.trim_trim s'⟩
  · exact readDefault_not_null (shape_read_wrapper rfl hr.specific)

/-! ## A change as it is asked for -/

/-- What has to be asked for so that this change comes out. -/
def Change.wish (c : Change) : Wish where
  attnum := .int c.attnum
  typeName := c.typeChange.bind TypeChange.name
  typeOptions := c.typeChange.bind TypeChange.options
  nullable := c.notNull.map fun b => !b
  name := c.name
  defaultValue := c.defaultValue
  delete := c.delete
  description := c.description

theorem readAny_of_truthy {v : Json} (h : v.isTruthy = true) : readAny v = some v := by
  cases v with
  | null => cases h
  | bool b => rfl
  | number n => rfl
  | string s => rfl
  | array items => rfl
  | object fields => rfl

theorem filter_kept {α : Type} {p : α → Bool} {o : Option α} (h : ∀ a ∈ o, p a = true) : o.filter p = o := by
  cases o with
  | none => rfl
  | some a => rw [Option.filter_some, if_pos (h a rfl)]

theorem typeChangeOf_wish {t : Option TypeChange} (h : ∀ t' ∈ t, t'.Normal) :
    typeChangeOf (t.bind TypeChange.name) ((t.bind TypeChange.options).bind readAny) = t := by
  cases t with
  | none => rfl
  | some t =>
    obtain ⟨hname, hoptions, hasks⟩ := h t rfl
    have hread : t.options.bind readAny = t.options := by
      cases ho : t.options with
      | none => rfl
      | some v => exact readAny_of_truthy (hoptions v ho)
    have hnames : t.name.filter (fun s => s ≠ "") = t.name := filter_kept fun s hs => by simpa using hname s hs
    have hvalues : t.options.filter Json.isTruthy = t.options := filter_kept hoptions
    show typeChangeOf t.name (t.options.bind readAny) = some t
    rw [hread]
    exact typeChangeOf_eq_some_iff.mpr ⟨hasks, hnames.symm, hvalues.symm⟩

/-- Asked for, a normal change comes out, and the number that a caller gives is not looked at. -/
theorem asked_wish {c : Change} (h : c.Normal) (fallback : Option Int) :
    (c.wish.asked (some c.attnum)).normalize fallback = .ok c := by
  obtain ⟨hattnum, htype, hname, hdefault⟩ := h
  have hnumber : resolveAttnum (some c.attnum) fallback none = .ok c.attnum :=
    resolveAttnum_ok_iff.mpr ⟨by simp, hattnum⟩
  have hnull : (c.notNull.map fun b => !b).map (fun b => !b) = c.notNull := by
    cases c.notNull <;> simp
  have htrimmed : (c.name.map Text.trim).filter (fun s => s ≠ "") = c.name := by
    cases hn : c.name with
    | none => rfl
    | some s =>
      obtain ⟨hne, htrim⟩ := hname s hn
      rw [Option.map_some, htrim, Option.filter_some, if_pos (by simpa using hne)]
  have hvalue : c.wish.askedDefault = c.defaultValue := by
    show c.defaultValue.bind (fun v => .ofOption (readAny v)) = c.defaultValue
    cases hd : c.defaultValue with
    | unset => rfl
    | clear => rfl
    | set v =>
      cases v with
      | null => exact absurd hd hdefault
      | bool b => rfl
      | number n => rfl
      | string s => rfl
      | array items => rfl
      | object fields => rfl
  refine bind_ok_iff.mpr ⟨c.attnum, hnumber, pure_ok_iff.mpr ?_⟩
  show (⟨c.attnum,
    typeChangeOf (c.typeChange.bind TypeChange.name) ((c.typeChange.bind TypeChange.options).bind readAny),
    (c.notNull.map fun b => !b).map fun b => !b, (c.name.map Text.trim).filter fun s => s ≠ "",
    c.wish.askedDefault, c.delete, c.description⟩ : Change) = c
  rw [typeChangeOf_wish htype, hnull, htrimmed, hvalue]

theorem normalize_wish {c : Change} (h : c.Normal) (style : Style) (shape : Shape) (fallback : Option Int) :
    normalize (c.wish.request style shape) fallback = .ok c := by
  have hinteger : readInteger c.wish.attnum = .ok (some c.attnum) := by
    obtain ⟨hlow, hhigh⟩ := h.attnum
    exact if_pos (by omega)
  rw [normalize, Wish.ofJson_request, hinteger]
  exact asked_wish h fallback

theorem exists_normalize_iff {c : Change} : (∃ v fallback, normalize v fallback = .ok c) ↔ c.Normal := by
  constructor
  · intro h
    obtain ⟨v, fallback, hv⟩ := h
    exact normal_of_normalize hv
  · intro h
    exact ⟨_, none, normalize_wish h ⟨fun _ => false, []⟩ .current none⟩

/-- A change that came out of a request can be asked for again in each of the three shapes, with what it leaves
    alone left out or written as null and with anything beside the value in a wrapper. What is written is taken for
    the shape that is meant, and the change comes out again, whatever number the caller gives. -/
theorem normalize_stable {v : Json} {fallback : Option Int} {c : Change} (h : normalize v fallback = .ok c)
    (style : Style) (shape : Shape) (fallback' : Option Int) :
    Shape.detect (c.wish.members style shape) = shape ∧
      normalize (c.wish.request style shape) fallback' = .ok c :=
  ⟨c.wish.detect_members style shape, normalize_wish (normal_of_normalize h) style shape fallback'⟩

/-- A request with a name in blanks, a type without a name, and a default value that is false. -/
def wordyRequest : Json :=
  .object [("column_default_dict", .object [("is_dynamic", .bool true), ("value", .bool false)]),
    ("description", .null), ("id", .int 2), ("name", .string " total "), ("nullable", .bool true),
    ("type", .string ""), ("type_options", .object [("length", .int 12)])]

def wordyChange : Change :=
  ⟨2, some ⟨none, some (.object [("length", .int 12)])⟩, some false, some "total", .set (.bool false), none, .clear⟩

def plain : Style := ⟨fun _ => false, []⟩

/-- All that is left alone is written as null, and a wrapper says more than its value. -/
def ample : Style := ⟨fun _ => true, [("is_dynamic", .null)]⟩

theorem normalize_stable_wordy :
    normalize wordyRequest none = .ok wordyChange ∧
    wordyChange.wish.request plain .nestedType =
      .object [("attnum", .int 2), ("default", .object [("value", .bool false)]), ("description", .null),
        ("name", .string "total"), ("nullable", .bool true),
        ("type", .object [("options", .object [("length", .int 12)])])] ∧
    normalize (wordyChange.wish.request plain .nestedType) (some 9) = .ok wordyChange ∧
    normalize (wordyChange.wish.request ample .wrappedDefault) none = .ok wordyChange := by
  have hwordy : normalize wordyRequest none = .ok wordyChange := rfl
  refine ⟨hwordy, rfl, ?_, ?_⟩
  · exact (normalize_stable hwordy plain .nestedType (some 9)).2
  · exact (normalize_stable hwordy ample .wrappedDefault none).2

end Intake.Alteration
