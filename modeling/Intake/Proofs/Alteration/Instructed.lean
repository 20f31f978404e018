/-
  Intake.Proofs.Alteration.Instructed — a change holds what is to be done, and nothing else.

  A request may hold much that asks for nothing: a blank name, a type without a name, options that are zero or empty,
  a null. None of it gets into the change. What does get in is there as the request has it, the name without the white
  space around it and the nullability the other way round.

  Proved:
  - `isTruthy_iff`: which options ask for nothing.
  - `typePart_read`: what is read of a type stands inside it or beside it, as the shape has it.
  - `typeChangeOf_isSome_iff`: there is a type change if either part of it asks for something.
  - `normalize_instructs`: so each part of a change is there exactly if the request asks for it, and in what the
    database gets null stands for something cleared only.
-/

import Intake.Proofs.Alteration.Reported
import Intake.Proofs.Alteration.Stable

namespace Intake

/-! ## Values that ask for nothing -/

namespace Json

/-- A value that stands for nothing: null, false, a zero, or what is empty. -/
inductive Hollow : Json → Prop
  | null : Hollow .null
  | no : Hollow (.bool false)
  | zero : Hollow (.number (.int 0))
  | realZero : Hollow (.number (.real ⟨0⟩))
  | negativeZero : Hollow (.number (.real ⟨0x8000000000000000⟩))
  | text : Hollow (.string "")
  | array : Hollow (.array [])
  | object : Hollow (.object [])

theorem isZero_iff {x : Numeric.Binary64} : x.isZero = true ↔ x = ⟨0⟩ ∨ x = ⟨0x8000000000000000⟩ := by
  obtain ⟨bits⟩ := x
  have hpow : Nat.pow 2 63 = 0x8000000000000000 := by decide
  have hbits : bits.toNat < 0x10000000000000000 := bits.toNat_lt
  have hzero : bits = 0 ↔ bits.toNat = 0 := by rw [← UInt64.toNat_inj]; rfl
  have hnegative : bits = 0x8000000000000000 ↔ bits.toNat = 0x8000000000000000 := by rw [← UInt64.toNat_inj]; rfl
  simp only [Numeric.Binary64.isZero, Numeric.Binary64.magnitude, hpow, decide_eq_true_eq,
    Numeric.Binary64.mk.injEq, hzero, hnegative]
  omega

theorem isTruthy_iff {v : Json} : v.isTruthy = true ↔ ¬v.Hollow := by
  cases v with
  | null => exact ⟨nofun, fun h => absurd .null h⟩
  | bool b =>
    cases b with
    | false => exact ⟨nofun, fun h => absurd .no h⟩
    | true => exact ⟨fun _ => nofun, fun _ => rfl⟩
  | number n =>
    cases n with
    | int n =>
      simp only [isTruthy, decide_eq_true_eq]
      constructor
      · intro hn h
        cases h
        exact hn rfl
      · intro h hn
        rw [hn] at h
        exact h .zero
    | real x =>
      simp only [isTruthy, Bool.not_eq_true', ← Bool.not_eq_true, isZero_iff]
      constructor
      · intro hx h
        cases h with
        | realZero => exact hx (.inl rfl)
        | negativeZero => exact hx (.inr rfl)
      · intro h hx
        rcases hx with rfl | rfl
        · exact h .realZero
        · exact h .negativeZero
  | string s =>
    simp only [isTruthy, decide_eq_true_eq]
    constructor
    · intro hs h
      cases h
      exact hs rfl
    · intro h hs
      rw [hs] at h
      exact h .text
  | array items =>
    cases items with
    | nil => exact ⟨nofun, fun h => absurd .array h⟩
    | cons v vs => exact ⟨fun _ => nofun, fun _ => rfl⟩
  | object ms =>
    cases ms with
    | nil => exact ⟨nofun, fun h => absurd .object h⟩
    | cons m ms => exact ⟨fun _ => nofun, fun _ => rfl⟩

end Json

namespace Alteration

open Json (Members)
open Text (isBlank)

/-! ## What is read is what stands there -/

section

variable {ms : Members} {key : String}

theorem readText_some_iff {r : Option String} (h : readText (value ms key) = .ok r) (s : String) :
    r = some s ↔ ms.get? key = some (.string s) := by
  unfold value at h
  cases hget : ms.get? key with
  | none =>
    rw [hget] at h
    cases h
    simp
  | some v =>
    rw [hget] at h
    cases v with
    | null => cases h; simp
    | string t => cases h; simp
    | bool b => cases h
    | number n => cases h
    | array items => cases h
    | object fields => cases h

theorem readBoolean_some_iff {r : Option Bool} (h : readBoolean (value ms key) = .ok r) (b : Bool) :
    r = some b ↔ ms.get? key = some (.bool b) := by
  unfold value at h
  cases hget : ms.get? key with
  | none =>
    rw [hget] at h
    cases h
    simp
  | some v =>
    rw [hget] at h
    cases v with
    | null => cases h; simp
    | bool b' => cases h; simp
    | string s => cases h
    | number n => cases h
    | array items => cases h
    | object fields => cases h

theorem readAny_truthy (ms : Members) (key : String) :
    (readAny (value ms key)).filter Json.isTruthy = (ms.get? key).filter Json.isTruthy := by
  unfold value
  rcases ms.get? key with _ | v
  · rfl
  · cases v <;> rfl

end

/-! ## The type -/

/-- A part of the type that a request asks for: in the shape where the type is an object it stands inside, else
    beside the name. -/
def typePart (ms : Members) (inside beside : String) : Option Json :=
  match Shape.detect ms, ms.get? "type" with
  | .nestedType, some (.object spec) => Members.get? spec inside
  | _, _ => ms.get? beside

def NamesType (ms : Members) (s : String) : Prop := typePart ms "name" "type" = some (.string s) ∧ s ≠ ""

def GivesOptions (ms : Members) (v : Json) : Prop := typePart ms "options" "type_options" = some v ∧ ¬v.Hollow

section

variable {ms : Members} {s : Specific}

theorem typePart_read (h : (Shape.detect ms).read ms = .ok s) :
    (∀ t, s.typeName = some t ↔ typePart ms "name" "type" = some (.string t)) ∧
      s.typeOptions.filter Json.isTruthy = (typePart ms "options" "type_options").filter Json.isTruthy := by
  have hflat : ∀ key, readFlat key ms = .ok s →
      (∀ t, s.typeName = some t ↔ ms.get? "type" = some (.string t)) ∧
        s.typeOptions.filter Json.isTruthy = (ms.get? "type_options").filter Json.isTruthy := by
    intro key hread
    obtain ⟨-, hname, hoptions⟩ := readFlat_ok_iff.mp hread
    exact ⟨readText_some_iff hname, by rw [← hoptions, readAny_truthy]⟩
  unfold typePart
  cases hshape : Shape.detect ms with
  | wrappedDefault =>
    rw [hshape] at h
    exact hflat _ h
  | current =>
    rw [hshape] at h
    exact hflat _ h
  | nestedType =>
    rw [hshape] at h
    obtain ⟨spec, htype⟩ := detect_nestedType hshape
    obtain ⟨-, hname, hoptions⟩ := (readNested_ok_iff htype).mp h
    rw [htype]
    exact ⟨readText_some_iff hname, by rw [← hoptions, readAny_truthy]⟩

end

theorem typeChangeOf_isSome_iff {name : Option String} {options : Option Json} :
    (∃ t, typeChangeOf name options = some t) ↔
      (∃ s, name.filter (fun s => s ≠ "") = some s) ∨ ∃ v, options.filter Json.isTruthy = some v := by
  simp only [typeChangeOf_eq_some_iff, ← Option.isSome_iff_exists]
  constructor
  · intro h
    obtain ⟨t, hasks, hname, hoptions⟩ := h
    rw [← hname, ← hoptions]
    exact hasks
  · intro hasks
    exact ⟨⟨_, _⟩, hasks, rfl, rfl⟩

/-! ## The change -/

/-- What a request with these members asks for, part by part. -/
structure Instructs (ms : Members) (fallback : Option Int) (c : Change) : Prop where
  /-- The first number there is, and one that a column can have. -/
  attnum : numberOf ms fallback = some c.attnum ∧ 1 ≤ c.attnum ∧ c.attnum ≤ 32767
  type : (∃ t, c.typeChange = some t) ↔ (∃ s, NamesType ms s) ∨ ∃ v, GivesOptions ms v
  typeName : ∀ t, c.typeChange = some t → ∀ s, t.name = some s ↔ NamesType ms s
  typeOptions : ∀ t, c.typeChange = some t → ∀ v, t.options = some v ↔ GivesOptions ms v
  notNull : ∀ b, c.notNull = some b ↔ ms.get? "nullable" = some (.bool !b)
  name : ∀ s, c.name = some s ↔
    ∃ t, ms.get? "name" = some (.string t) ∧ (∃ ch ∈ t.toList, isBlank ch = false) ∧ s = Text.trim t
  delete : ∀ b, c.delete = some b ↔ ms.get? "delete" = some (.bool b)
  defaultValue : c.defaultValue ≠ .set .null

theorem trim_ne_empty_iff {s : String} : Text.trim s ≠ "" ↔ ∃ c ∈ s.toList, isBlank c = false := by
  have hempty : Text.trim s = "" ↔ Text.trimChars s.toList = [] := by
    rw [← String.toList_eq_nil_iff, Text.trim, String.toList_ofList]
  rw [ne_eq, hempty, Text.trimChars_eq_nil_iff]
  simp

theorem instructs_of_reads {ms : Members} {r : Request} {fallback : Option Int} {c : Change}
    (hr : Reads (Shape.detect ms) ms r) (hc : r.normalize fallback = .ok c) : Instructs ms fallback c := by
  obtain ⟨-, hexplicit⟩ := readInteger_ok_iff.mp hr.attnum
  obtain ⟨-, halternate⟩ := readInteger_ok_iff.mp hr.id
  obtain ⟨htypeName, htypeOptions⟩ := typePart_read hr.specific
  have hnames : ∀ s, r.typeName.filter (fun s => s ≠ "") = some s ↔ NamesType ms s := by
    intro s
    rw [Option.filter_eq_some_iff, htypeName, decide_eq_true_eq, NamesType]
  have hgives : ∀ v, r.typeOptions.filter Json.isTruthy = some v ↔ GivesOptions ms v := by
    intro v
    rw [htypeOptions, Option.filter_eq_some_iff, Json.isTruthy_iff, GivesOptions]
  obtain ⟨n, hn, hpure⟩ := bind_ok_iff.mp hc
  obtain rfl := pure_ok_iff.mp hpure
  obtain ⟨hnumber, hrange⟩ := resolveAttnum_ok_iff.mp hn
  rw [hexplicit, halternate] at hnumber
  refine ⟨⟨hnumber, hrange⟩, ?_, ?_, ?_, ?_, ?_, ?_, ?_⟩
  · rw [typeChangeOf_isSome_iff]
    simp only [hnames, hgives]
  · intro t ht s
    rw [(typeChangeOf_eq_some_iff.mp ht).2.1, hnames]
  · intro t ht v
    rw [(typeChangeOf_eq_some_iff.mp ht).2.2, hgives]
  · intro b
    rw [← readBoolean_some_iff hr.nullable, Option.map_eq_some_iff]
    simp
  · intro s
    simp only [Option.filter_eq_some_iff, Option.map_eq_some_iff, decide_eq_true_eq, readText_some_iff hr.name]
    constructor
    · intro h
      obtain ⟨⟨t, ht, rfl⟩, hsome⟩ := h
      exact ⟨t, ht, trim_ne_empty_iff.mp hsome, rfl⟩
    · intro h
      obtain ⟨t, ht, hsome, rfl⟩ := h
      exact ⟨⟨t, ht, rfl⟩, trim_ne_empty_iff.mpr hsome⟩
  · exact readBoolean_some_iff hr.delete
  · exact readDefault_not_null (shape_read_wrapper rfl hr.specific)

/-- Null stands only for what can be cleared. -/
theorem Says.null {c : Change} {key : String} {v : Json} (h : Says c key v) (hv : v = .null) :
    key = "default" ∨ key = "description" := by
  cases h with
  | default => exact .inl rfl
  | description => exact .inr rfl
  | attnum => cases hv
  | type => cases hv
  | notNull => cases hv
  | name => cases hv
  | delete => cases hv

/-- A request that is accepted comes to a change that holds what the request asks for, part by part, and nothing else.
    The database gets what the change says, and null only for a default value or a description. -/
theorem normalize_instructs {v : Json} {fallback : Option Int} {c : Change} (h : normalize v fallback = .ok c) :
    ∃ ms payload, v = .object ms ∧ Instructs ms fallback c ∧ c.payload = .object payload ∧
      ∀ m ∈ payload, Says c m.1 m.2 ∧ (m.2 = .null → m.1 = "default" ∨ m.1 = "description") := by
  obtain ⟨ms, r, rfl, hr, hc⟩ := normalize_ok_iff.mp h
  obtain ⟨shown, hreport, hpayload⟩ := payload_put_together c
  refine ⟨ms, _, rfl, instructs_of_reads hr hc, hpayload, fun m hm => ?_⟩
  have hsaid : Says c m.1 m.2 := says_of_mem hreport (Members.mem_of_mem_ofList hm)
  exact ⟨hsaid, hsaid.null⟩

/-- A request much of which asks for nothing, in the shape where the type is an object. -/
def hollowRequest : Json :=
  .object [("attnum", .null), ("default", .object [("value", .null)]), ("delete", .bool false), ("id", .int 9),
    ("name", .string " \t"), ("nullable", .bool false),
    ("type", .object [("name", .string ""), ("options", .number (.real ⟨0x8000000000000000⟩))])]

def hollowChange : Change := ⟨4, none, some true, none, .clear, some false, .unset⟩

theorem normalize_instructs_hollow :
    normalize hollowRequest (some 4) = .ok hollowChange ∧
    hollowChange.payload = .object [("attnum", .int 4), ("default", .null), ("delete", .bool false),
      ("not_null", .bool true)] ∧
    ∃ ms payload, hollowRequest = .object ms ∧ Instructs ms (some 4) hollowChange ∧
      hollowChange.payload = .object payload ∧
      ∀ m ∈ payload, Says hollowChange m.1 m.2 ∧ (m.2 = .null → m.1 = "default" ∨ m.1 = "description") := by
  have hchange : normalize hollowRequest (some 4) = .ok hollowChange := rfl
  exact ⟨hchange, rfl, normalize_instructs hchange⟩

end Alteration

end Intake
