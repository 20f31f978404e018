/-
  Intake.Proofs.Alteration.Accepted — which requests are accepted.

  A request is accepted for what stands under the keys that its shape reads: each value there is
  missing, null or of its kind, and the column has a number that a column can have. The wrapper of a
  default value is taken here to be an object if it is a value at all.

  Proved:
  - `readInteger_ok_iff` and its likes: a reader takes a value that is missing, null or of its kind.
  - `read_ok_iff`, `normalize_ok_iff`: what has been read, once there is a request or a change.
  - `normalize_accepts`, `normalize_refuses`: which requests are accepted, and why others are not.
  - `normalize_alike`: nothing else in a request has a part in what it comes to.
  - `accepted_by_its_keys`: all of this for any value.
-/

import Intake.Alteration.Failure
import Intake.Proofs.Json.Members
import Intake.Proofs.Outcome

namespace Intake.Alteration

open Json (Members)

/-! ## Kinds of values -/

/-- An integer of 64 bits with its sign. -/
def IsInteger : Json → Prop
  | .number (.int n) => -0x8000000000000000 ≤ n ∧ n < 0x8000000000000000
  | _ => False

def IsBoolean : Json → Prop
  | .bool _ => True
  | _ => False

def IsText : Json → Prop
  | .string _ => True
  | _ => False

def IsObject : Json → Prop
  | .object _ => True
  | _ => False

/-- There is no value, or null, or a value of this kind. -/
def Allows (kind : Json → Prop) : Option Json → Prop
  | none => True
  | some .null => True
  | some v => kind v

def integerAt (ms : Members) (key : String) : Option Int :=
  match ms.get? key with
  | some (.number (.int n)) => some n
  | _ => none

/-! ## Keys -/

/-- The keys that every shape reads. -/
def sharedKeys : List String := ["attnum", "delete", "description", "id", "name", "nullable"]

namespace Shape

def wrapperKey : Shape → String
  | wrappedDefault => "column_default_dict"
  | nestedType | current => "default"

/-- The keys whose values are read as they are. -/
def plainKeys : Shape → List String
  | nestedType => sharedKeys
  | wrappedDefault | current => "type" :: "type_options" :: sharedKeys

def AllowsType (shape : Shape) (type : Option Json) : Prop :=
  match shape with
  | nestedType => ∃ spec, type = some (.object spec) ∧ Allows IsText (Members.get? spec "name")
  | wrappedDefault | current => Allows IsText type

end Shape

/-! ## Readers -/

section

variable {ms : Members} {key : String}

theorem readInteger_ok_iff {r : Option Int} :
    readInteger (value ms key) = .ok r ↔ Allows IsInteger (ms.get? key) ∧ r = integerAt ms key := by
  unfold value integerAt
  rcases ms.get? key with _ | v
  · simp [readInteger, Allows, eq_comm]
  · cases v with
    | number n =>
      cases n with
      | int n =>
        by_cases h : -0x8000000000000000 ≤ n ∧ n < 0x8000000000000000
        · simp [readInteger, Allows, IsInteger, h, eq_comm]
        · simp [readInteger, Allows, IsInteger, h]
      | real x => simp [readInteger, Allows, IsInteger]
    | null => simp [readInteger, Allows, eq_comm]
    | bool b => simp [readInteger, Allows, IsInteger]
    | string s => simp [readInteger, Allows, IsInteger]
    | array items => simp [readInteger, Allows, IsInteger]
    | object fields => simp [readInteger, Allows, IsInteger]

theorem readBoolean_accepts : (∃ r, readBoolean (value ms key) = .ok r) ↔ Allows IsBoolean (ms.get? key) := by
  unfold value
  rcases ms.get? key with _ | v
  · simp [readBoolean, Allows]
  · cases v <;> simp [readBoolean, Allows, IsBoolean]

theorem readText_accepts : (∃ r, readText (value ms key) = .ok r) ↔ Allows IsText (ms.get? key) := by
  unfold value
  rcases ms.get? key with _ | v
  · simp [readText, Allows]
  · cases v <;> simp [readText, Allows, IsText]

theorem readTextPatch_accepts : (∃ r, readTextPatch ms key = .ok r) ↔ Allows IsText (ms.get? key) := by
  unfold readTextPatch
  rcases ms.get? key with _ | v
  · simp [Allows]
  · cases v <;> simp [readText, Allows, IsText, bind, Except.bind, pure, Except.pure]

/-- A wrapper holds the default value in its member `value`. One that is null is itself the value. -/
def wrapped? : Option Json → Option Json
  | some (.object fields) => Members.get? fields "value"
  | other => other

/-- A value that is missing is left alone, and null clears it. -/
def Patch.ofMember : Option Json → Patch Json
  | none => .unset
  | some v => .ofOption (readAny v)

theorem readDefault_eq (h : Allows IsObject (ms.get? key)) :
    readDefault ms key = .ok (.ofMember (wrapped? (ms.get? key))) := by
  unfold readDefault
  rcases hget : ms.get? key with _ | v
  · rfl
  · rw [hget] at h
    cases v with
    | null => rfl
    | object fields =>
      simp only [readWrapper, wrapped?]
      cases Members.get? fields "value" with
      | none => rfl
      | some v => rfl
    | bool b => exact absurd h id
    | number n => exact absurd h id
    | string s => exact absurd h id
    | array items => exact absurd h id

end

/-! ## What is read of a request -/

section

variable {ms : Members} {shape : Shape}

theorem readFlat_ok_iff {key : String} {s : Specific} :
    readFlat key ms = .ok s ↔ readDefault ms key = .ok s.defaultValue ∧
      readText (value ms "type") = .ok s.typeName ∧ readAny (value ms "type_options") = s.typeOptions := by
  simp only [readFlat, bind_ok_iff, pure_ok_iff]
  constructor
  · rintro ⟨d, hd, t, ht, rfl⟩
    exact ⟨hd, ht, rfl⟩
  · rintro ⟨hd, ht, ho⟩
    exact ⟨_, hd, _, ht, by rw [ho]⟩

theorem readNested_ok_iff {spec : Members} {s : Specific} (htype : ms.get? "type" = some (.object spec)) :
    readNested ms = .ok s ↔ readDefault ms "default" = .ok s.defaultValue ∧
      readText (value spec "name") = .ok s.typeName ∧ readAny (value spec "options") = s.typeOptions := by
  have hvalue : value ms "type" = .object spec := by simp [value, htype]
  simp only [readNested, hvalue, bind_ok_iff, pure_ok_iff]
  constructor
  · rintro ⟨d, hd, t, ht, rfl⟩
    exact ⟨hd, ht, rfl⟩
  · rintro ⟨hd, ht, ho⟩
    exact ⟨_, hd, _, ht, by rw [ho]⟩

theorem detect_nestedType (h : Shape.detect ms = .nestedType) : ∃ spec, ms.get? "type" = some (.object spec) := by
  unfold Shape.detect at h
  split at h
  · cases h
  · split at h
    · rename_i spec htype
      exact ⟨spec, htype⟩
    · cases h

theorem shape_read_accepts (hshape : Shape.detect ms = shape)
    (hwrapper : Allows IsObject (ms.get? shape.wrapperKey)) :
    (∃ s, shape.read ms = .ok s) ↔ shape.AllowsType (ms.get? "type") := by
  have hdefault := readDefault_eq hwrapper
  have hflat : ∀ key, readDefault ms key = .ok (.ofMember (wrapped? (ms.get? shape.wrapperKey))) →
      ((∃ s, readFlat key ms = .ok s) ↔ Allows IsText (ms.get? "type")) := by
    intro key hd
    rw [← readText_accepts]
    constructor
    · rintro ⟨s, hs⟩
      exact ⟨_, (readFlat_ok_iff.mp hs).2.1⟩
    · rintro ⟨t, ht⟩
      exact ⟨⟨_, t, _⟩, readFlat_ok_iff.mpr ⟨hd, ht, rfl⟩⟩
  cases shape with
  | wrappedDefault => exact hflat _ hdefault
  | current => exact hflat _ hdefault
  | nestedType =>
    obtain ⟨spec, htype⟩ := detect_nestedType hshape
    simp only [Shape.read, Shape.AllowsType, htype]
    constructor
    · rintro ⟨s, hs⟩
      exact ⟨spec, rfl, readText_accepts.mp ⟨_, ((readNested_ok_iff htype).mp hs).2.1⟩⟩
    · rintro ⟨spec', hspec, hname⟩
      cases hspec
      obtain ⟨t, ht⟩ := readText_accepts.mpr hname
      exact ⟨⟨_, t, _⟩, (readNested_ok_iff htype).mpr ⟨hdefault, ht, rfl⟩⟩

/-- A request as its members say it. -/
structure Reads (shape : Shape) (ms : Members) (r : Request) : Prop where
  specific : shape.read ms = .ok ⟨r.defaultValue, r.typeName, r.typeOptions⟩
  attnum : readInteger (value ms "attnum") = .ok r.attnum
  delete : readBoolean (value ms "delete") = .ok r.delete
  description : readTextPatch ms "description" = .ok r.description
  id : readInteger (value ms "id") = .ok r.id
  name : readText (value ms "name") = .ok r.name
  nullable : readBoolean (value ms "nullable") = .ok r.nullable

theorem read_ok_iff {r : Request} : Request.read shape ms = .ok r ↔ Reads shape ms r := by
  simp only [Request.read, bind_ok_iff, pure_ok_iff]
  constructor
  · rintro ⟨s, hs, a, ha, d, hd, p, hp, i, hi, n, hn, b, hb, rfl⟩
    exact ⟨hs, ha, hd, hp, hi, hn, hb⟩
  · intro h
    exact ⟨_, h.specific, _, h.attnum, _, h.delete, _, h.description, _, h.id, _, h.name, _, h.nullable, rfl⟩

end

/-! ## Requests that are accepted -/

theorem resolveAttnum_ok_iff {explicit fallback alternate : Option Int} {n : Int} :
    resolveAttnum explicit fallback alternate = .ok n ↔
      (explicit.or fallback).or alternate = some n ∧ 1 ≤ n ∧ n ≤ 32767 := by
  unfold resolveAttnum
  rcases (explicit.or fallback).or alternate with _ | m
  · simp
  · by_cases h : isColumnNumber m = true
    · have hm : 1 ≤ m ∧ m ≤ 32767 := by simpa [isColumnNumber] using h
      simp only [h, if_true, Except.ok.injEq, Option.some.injEq]
      constructor
      · rintro rfl
        exact ⟨rfl, hm⟩
      · exact fun h => h.1
    · simp only [h]
      constructor
      · intro hno
        cases hno
      · rintro ⟨hmn, hn⟩
        cases hmn
        exact absurd (by simpa [isColumnNumber] using hn) h

theorem normalize_ok_iff {v : Json} {fallback : Option Int} {c : Change} :
    normalize v fallback = .ok c ↔
      ∃ ms r, v = .object ms ∧ Reads (Shape.detect ms) ms r ∧ r.normalize fallback = .ok c := by
  unfold normalize
  rw [bind_ok_iff]
  constructor
  · rintro ⟨r, hr, hc⟩
    cases v with
    | object ms => exact ⟨ms, r, rfl, read_ok_iff.mp (mapError_ok_iff.mp hr), hc⟩
    | null => cases hr
    | bool b => cases hr
    | number n => cases hr
    | string s => cases hr
    | array items => cases hr
  · rintro ⟨ms, r, rfl, hr, hc⟩
    exact ⟨r, mapError_ok_iff.mpr (read_ok_iff.mpr hr), hc⟩

theorem request_accepts {r : Request} {fallback : Option Int} :
    (∃ c, r.normalize fallback = .ok c) ↔
      ∃ n, (r.attnum.or fallback).or r.id = some n ∧ 1 ≤ n ∧ n ≤ 32767 := by
  simp only [Request.normalize, bind_ok_iff, pure_ok_iff, resolveAttnum_ok_iff]
  constructor
  · rintro ⟨-, n, hn, -⟩
    exact ⟨n, hn⟩
  · rintro ⟨n, hn⟩
    exact ⟨_, n, hn, rfl⟩

/-- Under every key that its shape reads there is something that can be read. -/
structure Readable (ms : Members) : Prop where
  attnum : Allows IsInteger (ms.get? "attnum")
  id : Allows IsInteger (ms.get? "id")
  nullable : Allows IsBoolean (ms.get? "nullable")
  delete : Allows IsBoolean (ms.get? "delete")
  name : Allows IsText (ms.get? "name")
  description : Allows IsText (ms.get? "description")
  type : (Shape.detect ms).AllowsType (ms.get? "type")

/-- The number that a request gives, else the one its caller gives, else its `id`. -/
def numberOf (ms : Members) (fallback : Option Int) : Option Int :=
  ((integerAt ms "attnum").or fallback).or (integerAt ms "id")

/-- A request that can be read, for a column that there can be. -/
structure Acceptable (ms : Members) (fallback : Option Int) : Prop where
  readable : Readable ms
  number : ∃ n, numberOf ms fallback = some n ∧ 1 ≤ n ∧ n ≤ 32767

inductive Refused (v : Json) (fallback : Option Int) : Invalid → Prop
  | notObject (h : ∀ ms, v ≠ .object ms) : Refused v fallback (.notObject v)
  | unreadable (ms : Members) (m : Mismatch) (hv : v = .object ms) (h : ¬Readable ms) :
      Refused v fallback (.mismatch (Shape.detect ms) m)
  | unnumbered (ms : Members) (hv : v = .object ms) (h : Readable ms) (hnone : numberOf ms fallback = none) :
      Refused v fallback .attnumMissing
  /-- A number that no column has is not made good by another one that comes after it. -/
  | misnumbered (ms : Members) (n : Int) (hv : v = .object ms) (h : Readable ms)
      (hn : numberOf ms fallback = some n) (hout : n < 1 ∨ 32767 < n) :
      Refused v fallback (.notColumnNumber n)

section

variable {ms : Members} {fallback : Option Int}

/-- What has been read could be read, and the numbers are the ones that stand there. -/
theorem reads_readable {r : Request} (hwrapper : Allows IsObject (ms.get? (Shape.detect ms).wrapperKey))
    (hr : Reads (Shape.detect ms) ms r) :
    Readable ms ∧ r.attnum = integerAt ms "attnum" ∧ r.id = integerAt ms "id" := by
  obtain ⟨hattnum, hexplicit⟩ := readInteger_ok_iff.mp hr.attnum
  obtain ⟨hid, halternate⟩ := readInteger_ok_iff.mp hr.id
  exact ⟨⟨hattnum, hid, readBoolean_accepts.mp ⟨_, hr.nullable⟩, readBoolean_accepts.mp ⟨_, hr.delete⟩,
    readText_accepts.mp ⟨_, hr.name⟩, readTextPatch_accepts.mp ⟨_, hr.description⟩,
    (shape_read_accepts rfl hwrapper).mp ⟨_, hr.specific⟩⟩, hexplicit, halternate⟩

theorem readable_reads (hwrapper : Allows IsObject (ms.get? (Shape.detect ms).wrapperKey)) (h : Readable ms) :
    ∃ r, Reads (Shape.detect ms) ms r := by
  obtain ⟨s, hspecific⟩ := (shape_read_accepts rfl hwrapper).mpr h.type
  obtain ⟨nullable, hnullable⟩ := readBoolean_accepts.mpr h.nullable
  obtain ⟨delete, hdelete⟩ := readBoolean_accepts.mpr h.delete
  obtain ⟨name, hname⟩ := readText_accepts.mpr h.name
  obtain ⟨description, hdescription⟩ := readTextPatch_accepts.mpr h.description
  exact ⟨⟨_, _, _, _, nullable, name, _, delete, description⟩, hspecific, readInteger_ok_iff.mpr ⟨h.attnum, rfl⟩,
    hdelete, hdescription, readInteger_ok_iff.mpr ⟨h.id, rfl⟩, hname, hnullable⟩

theorem normalize_accepts (hwrapper : Allows IsObject (ms.get? (Shape.detect ms).wrapperKey)) :
    (∃ c, normalize (.object ms) fallback = .ok c) ↔ Acceptable ms fallback := by
  simp only [normalize_ok_iff]
  constructor
  · rintro ⟨c, ms', r, hms, hr, hc⟩
    cases hms
    obtain ⟨hreadable, hexplicit, halternate⟩ := reads_readable hwrapper hr
    have hnumber := request_accepts.mp ⟨c, hc⟩
    rw [hexplicit, halternate] at hnumber
    exact ⟨hreadable, hnumber⟩
  · intro h
    obtain ⟨r, hr⟩ := readable_reads hwrapper h.readable
    obtain ⟨-, hexplicit, halternate⟩ := reads_readable hwrapper hr
    have hnumber := h.number
    unfold numberOf at hnumber
    rw [← hexplicit, ← halternate] at hnumber
    obtain ⟨c, hc⟩ := request_accepts.mpr hnumber
    exact ⟨c, ms, r, rfl, hr, hc⟩

theorem normalize_refuses {e : Invalid} (hwrapper : Allows IsObject (ms.get? (Shape.detect ms).wrapperKey))
    (he : normalize (.object ms) fallback = .error e) : Refused (.object ms) fallback e := by
  unfold normalize at he
  rcases bind_error_iff.mp he with hread | ⟨r, hread, hn⟩
  · obtain ⟨m, hm, rfl⟩ := mapError_error_iff.mp hread
    refine .unreadable ms m rfl fun hreadable => ?_
    obtain ⟨r, hr⟩ := readable_reads hwrapper hreadable
    rw [read_ok_iff.mpr hr] at hm
    cases hm
  · have hr := read_ok_iff.mp (mapError_ok_iff.mp hread)
    obtain ⟨hreadable, hexplicit, halternate⟩ := reads_readable hwrapper hr
    have hresolve : resolveAttnum r.attnum fallback r.id = .error e := by
      unfold Request.normalize at hn
      rcases bind_error_iff.mp hn with hres | ⟨n, -, hpure⟩
      · exact hres
      · cases hpure
    unfold resolveAttnum at hresolve
    rw [hexplicit, halternate] at hresolve
    rcases hnumber : numberOf ms fallback with _ | n
    · unfold numberOf at hnumber
      rw [hnumber] at hresolve
      cases hresolve
      exact .unnumbered ms rfl hreadable hnumber
    · have hsome := hnumber
      unfold numberOf at hsome
      simp only [hsome] at hresolve
      split at hresolve
      · cases hresolve
      · rename_i hout
        cases hresolve
        refine .misnumbered ms n rfl hreadable hnumber ?_
        simp only [isColumnNumber, Bool.and_eq_true, decide_eq_true_eq] at hout
        omega

end

/-! ## What is not read -/

def AgreeOn (keys : List String) (ms ns : Members) : Prop := ∀ key ∈ keys, ms.get? key = ns.get? key

/-- The same values, or objects that agree on these keys. -/
def SameIn (keys : List String) : Option Json → Option Json → Prop
  | some (.object ms), some (.object ns) => AgreeOn keys ms ns
  | v, w => v = w

theorem sameIn_refl (keys : List String) (v : Option Json) : SameIn keys v v := by
  unfold SameIn
  split
  · exact fun _ _ => rfl
  · rfl

/-- Requests of one shape that differ at most in what the shape does not read: in other keys, in what
    else stands in a wrapper, and in what else stands in a type that is an object. -/
structure Alike (shape : Shape) (ms ns : Members) : Prop where
  left : Shape.detect ms = shape
  right : Shape.detect ns = shape
  plain : AgreeOn shape.plainKeys ms ns
  wrapper : SameIn ["value"] (ms.get? shape.wrapperKey) (ns.get? shape.wrapperKey)
  type : shape = .nestedType → SameIn ["name", "options"] (ms.get? "type") (ns.get? "type")

section

variable {shape : Shape} {ms ns : Members}

theorem readDefault_same {key : String} (h : SameIn ["value"] (ms.get? key) (ns.get? key)) :
    readDefault ms key = readDefault ns key := by
  unfold readDefault
  unfold SameIn at h
  split at h
  · rename_i fields fields' hms hns
    simp only [hms, hns, readWrapper, h "value" (by simp)]
  · rw [h]

theorem value_same {keys : List String} (h : AgreeOn keys ms ns) (key : String) (hkey : key ∈ keys) :
    value ms key = value ns key := by
  unfold value
  rw [h key hkey]

theorem shape_read_same (hdefault : readDefault ms shape.wrapperKey = readDefault ns shape.wrapperKey)
    (hplain : AgreeOn shape.plainKeys ms ns)
    (htype : shape = .nestedType → SameIn ["name", "options"] (ms.get? "type") (ns.get? "type")) :
    shape.read ms = shape.read ns := by
  cases shape with
  | wrappedDefault =>
    simp only [Shape.wrapperKey] at hdefault
    simp only [Shape.read, readFlat, hdefault, value_same hplain "type" (by decide),
      value_same hplain "type_options" (by decide)]
  | current =>
    simp only [Shape.wrapperKey] at hdefault
    simp only [Shape.read, readFlat, hdefault, value_same hplain "type" (by decide),
      value_same hplain "type_options" (by decide)]
  | nestedType =>
    simp only [Shape.wrapperKey] at hdefault
    have hsame := htype rfl
    unfold SameIn at hsame
    split at hsame
    · rename_i spec spec' hspec hspec'
      have hvalue : value ms "type" = .object spec := by simp [value, hspec]
      have hvalue' : value ns "type" = .object spec' := by simp [value, hspec']
      simp only [Shape.read, readNested, hdefault, hvalue, hvalue', value_same hsame "name" (by simp),
        value_same hsame "options" (by simp)]
    · have hvalue : value ms "type" = value ns "type" := by rw [value, value, hsame]
      simp only [Shape.read, readNested, hdefault, hvalue]

theorem read_same (hdefault : readDefault ms shape.wrapperKey = readDefault ns shape.wrapperKey)
    (hplain : AgreeOn shape.plainKeys ms ns)
    (htype : shape = .nestedType → SameIn ["name", "options"] (ms.get? "type") (ns.get? "type")) :
    Request.read shape ms = Request.read shape ns := by
  have hshared : AgreeOn sharedKeys ms ns := by
    intro key hkey
    refine hplain key ?_
    cases shape <;> simp [Shape.plainKeys, hkey]
  have hdescription : readTextPatch ms "description" = readTextPatch ns "description" := by
    unfold readTextPatch
    rw [hshared "description" (by decide)]
  simp only [Request.read, shape_read_same hdefault hplain htype, hdescription, value_same hshared "attnum" (by decide),
    value_same hshared "delete" (by decide), value_same hshared "id" (by decide),
    value_same hshared "name" (by decide), value_same hshared "nullable" (by decide)]

theorem normalize_alike (h : Alike shape ms ns) (fallback : Option Int) :
    normalize (.object ms) fallback = normalize (.object ns) fallback := by
  have hread := read_same (readDefault_same h.wrapper) h.plain h.type
  simp only [normalize, Request.ofJson, h.left, h.right, hread]

end

/-- A value whose wrapper of a default value, if it has one, is null or an object is accepted exactly
    if it is an acceptable request, and otherwise refused for what is wrong with it. What is not accepted
    fails as invalid. Requests of one shape that differ only in what the shape does not read come to the
    same change or to the same failure. -/
theorem accepted_by_its_keys (v : Json) (fallback : Option Int) :
    ((∀ ms : Members, v = .object ms → Allows IsObject (ms.get? (Shape.detect ms).wrapperKey)) →
      ((∃ c, normalize v fallback = .ok c) ↔ ∃ ms, v = .object ms ∧ Acceptable ms fallback) ∧
      ∀ e, normalize v fallback = .error e → Refused v fallback e) ∧
    ((¬∃ c, normalize v fallback = .ok c) →
      ∃ e, normalize v fallback = .error e ∧ (Failure.invalid e).code = "validation_error") ∧
    ∀ shape ms ns, v = .object ms → Alike shape ms ns → normalize v fallback = normalize (.object ns) fallback := by
  refine ⟨fun hwrapper => ⟨?_, ?_⟩, fun hnone => ?_, ?_⟩
  · constructor
    · intro haccepted
      obtain ⟨c, hc⟩ := haccepted
      obtain ⟨ms, r, rfl, hr, hn⟩ := normalize_ok_iff.mp hc
      exact ⟨ms, rfl, (normalize_accepts (hwrapper ms rfl)).mp ⟨c, hc⟩⟩
    · rintro ⟨ms, rfl, h⟩
      exact (normalize_accepts (hwrapper ms rfl)).mpr h
  · intro e he
    by_cases hobject : ∃ ms, v = .object ms
    · obtain ⟨ms, rfl⟩ := hobject
      exact normalize_refuses (hwrapper ms rfl) he
    · have hnot : ∀ ms, v ≠ .object ms := fun ms hv => hobject ⟨ms, hv⟩
      have hfound : normalize v fallback = .error (.notObject v) := by
        cases v with
        | object ms => exact absurd rfl (hnot ms)
        | null => rfl
        | bool b => rfl
        | number n => rfl
        | string s => rfl
        | array items => rfl
      rw [hfound] at he
      cases he
      exact .notObject hnot
  · cases hn : normalize v fallback with
    | ok c => exact absurd ⟨c, hn⟩ hnone
    | error e => exact ⟨e, rfl, rfl⟩
  · rintro shape ms ns rfl halike
    exact normalize_alike halike fallback

/-- A request that has the mark of the first shape, and a default value as the other shapes have it. -/
def dictRequest (default : Json) : Members :=
  [("attnum", .int 3), ("column_default_dict", .object [("value", .null)]), ("default", default),
    ("type", .string "text")]

def misnumbered : Members := [("attnum", .int 40000), ("id", .int 3)]

theorem accepted_of_dict :
    Allows IsObject (Members.get? (dictRequest .null) "column_default_dict") ∧
    Acceptable (dictRequest .null) none ∧ (∃ c, normalize (.object (dictRequest .null)) none = .ok c) ∧
    Alike .wrappedDefault (dictRequest .null) (dictRequest (.array [])) ∧
    normalize (.object (dictRequest .null)) none = normalize (.object (dictRequest (.array []))) none ∧
    (¬∃ c, normalize (.object misnumbered) (some 2) = .ok c) ∧
    ∃ e, normalize (.object misnumbered) (some 2) = .error e ∧ Refused (.object misnumbered) (some 2) e ∧
      (Failure.invalid e).code = "validation_error" := by
  have hdict := accepted_by_its_keys (.object (dictRequest .null)) none
  have hmis := accepted_by_its_keys (.object misnumbered) (some 2)
  have hwrapper : ∀ ms : Members, Json.object (dictRequest .null) = .object ms →
      Allows IsObject (ms.get? (Shape.detect ms).wrapperKey) := by
    rintro ms ⟨⟩
    exact trivial
  have hacceptable : Acceptable (dictRequest .null) none := by
    refine ⟨⟨?_, trivial, trivial, trivial, trivial, trivial, trivial⟩, 3, rfl, by decide, by decide⟩
    show -0x8000000000000000 ≤ (3 : Int) ∧ (3 : Int) < 0x8000000000000000
    omega
  have halike : Alike .wrappedDefault (dictRequest .null) (dictRequest (.array [])) := by
    refine ⟨rfl, rfl, ?_, ?_, nofun⟩
    · intro key hkey
      simp only [Shape.plainKeys, sharedKeys, List.mem_cons, List.not_mem_nil, or_false] at hkey
      rcases hkey with rfl | rfl | rfl | rfl | rfl | rfl | rfl | rfl <;> rfl
    · intro key hkey
      rfl
  have hnone : ¬∃ c, normalize (.object misnumbered) (some 2) = .ok c := by
    rintro ⟨c, hc⟩
    cases hc
  obtain ⟨e, he, hcode⟩ := hmis.2.1 hnone
  have hrefused : Refused (.object misnumbered) (some 2) e := by
    refine (hmis.1 ?_).2 e he
    rintro ms ⟨⟩
    exact trivial
  exact ⟨trivial, hacceptable, (hdict.1 hwrapper).1.mpr ⟨_, rfl, hacceptable⟩, halike,
    hdict.2.2 _ _ _ rfl halike, hnone, e, he, hrefused, hcode⟩

end Intake.Alteration
