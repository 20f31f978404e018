/-
  Intake.Proofs.Alteration.Shapes — one change of a column, written in each of the three shapes of
  requests.

  What a shape leaves open when a change is written down is its style: whether a part that asks for
  nothing is left out or written as null, and what else stands in the wrapper of a default value.

  Proved:
  - `detect_members`: what is written in a shape is taken for that shape.
  - `read_members`: whatever the shape and the style, the same request is read.
  - `shapes_agree`: so the outcome is the same, and only the name of the shape in a message tells
    the shapes apart.
-/

import Intake.Alteration.Normalize
import Intake.Proofs.Json.Members

namespace Intake.Alteration

open Json (Members)

/-- A change of a column as it is meant. The number of the column is whatever stands for it. -/
structure Wish where
  attnum : Json
  typeName : Option String
  typeOptions : Option Json
  nullable : Option Bool
  name : Option String
  defaultValue : Patch Json
  delete : Option Bool
  description : Patch String

structure Style where
  /-- Whether a part that asks for nothing is written as null. -/
  writesNull : String → Bool
  /-- What else stands in a wrapper. -/
  beside : List (String × Json)

namespace Style

variable (style : Style)

def part (name key : String) : Option Json → List (String × Json)
  | some v => [(key, v)]
  | none => if style.writesNull name then [(key, .null)] else []

/-- A wrapper around a default value, or around none. -/
def wrapper (value : Option Json) : Json :=
  .ofMembers (style.beside.filter (·.1 ≠ "value") ++ (value.map fun v => ("value", v)).toList)

/-- The member for a default value, where leaving it alone takes no member. -/
def wrapped (key : String) : Patch Json → List (String × Json)
  | .unset => []
  | .clear => [(key, .null)]
  | .set v => [(key, style.wrapper (some v))]

end Style

namespace Wish

variable (w : Wish) (style : Style)

def described : List (String × Json) :=
  match w.description with
  | .unset => []
  | .clear => [("description", .null)]
  | .set s => [("description", .string s)]

def common : List (String × Json) :=
  ("attnum", w.attnum) :: (style.part "nullable" "nullable" (w.nullable.map .bool) ++
    style.part "name" "name" (w.name.map .string) ++ style.part "delete" "delete" (w.delete.map .bool) ++
    w.described)

/-- A type by name and its options beside it. -/
def flatType : List (String × Json) :=
  style.part "type" "type" (w.typeName.map .string) ++ style.part "type_options" "type_options" w.typeOptions

def nestedType : Json :=
  .ofMembers (style.part "type" "name" (w.typeName.map .string) ++
    style.part "type_options" "options" w.typeOptions)

/-- The member that tells the first shape; it is there even if the default value is left alone. -/
def wrapped : Json :=
  match w.defaultValue with
  | .unset => style.wrapper none
  | .clear => .null
  | .set v => style.wrapper (some v)

def specific : Shape → List (String × Json)
  | .wrappedDefault => w.flatType style ++ [("column_default_dict", w.wrapped style)]
  | .nestedType => ("type", w.nestedType style) :: style.wrapped "default" w.defaultValue
  | .current => w.flatType style ++ style.wrapped "default" w.defaultValue

def members (shape : Shape) : Members := Members.ofList (w.common style ++ w.specific style shape)

def request (shape : Shape) : Json := .object (w.members style shape)

/-- A default value that is to be null is cleared. -/
def askedDefault : Patch Json := w.defaultValue.bind fun v => .ofOption (readAny v)

def asked (attnum : Option Int) : Request where
  attnum
  id := none
  typeName := w.typeName
  typeOptions := w.typeOptions.bind readAny
  nullable := w.nullable
  name := w.name
  defaultValue := w.askedDefault
  delete := w.delete
  description := w.description

end Wish

/-! ## What a key finds -/

theorem get?_part (style : Style) (name k key : String) (v : Option Json) :
    Members.get? (Members.ofList (style.part name k v)) key =
      if k = key then v.or (if style.writesNull name then some .null else none) else none := by
  cases v with
  | some v => simp [Style.part, Members.get?_ofList_cons]
  | none =>
    rw [Style.part]
    split <;> simp [Members.get?_ofList_cons]

theorem getD_null_or_none (b : Bool) : (if b then some Json.null else none).getD .null = .null := by
  cases b <;> rfl

theorem get?_wrapper (style : Style) (value : Option Json) :
    (style.wrapper value).get? "value" = value := by
  have hbeside : Members.get? (Members.ofList (style.beside.filter (·.1 ≠ "value"))) "value" = none :=
    Members.get?_ofList_none (by simp)
  rw [Style.wrapper, Json.ofMembers, Json.get?, Members.get?_ofList_append, hbeside]
  cases value <;> simp [Members.get?_ofList_cons]

theorem get?_wrapped (style : Style) (k key : String) (p : Patch Json) :
    Members.get? (Members.ofList (style.wrapped k p)) key =
      if k = key then
        match p with
        | .unset => none
        | .clear => some .null
        | .set v => some (style.wrapper (some v))
      else none := by
  cases p <;> simp [Style.wrapped, Members.get?_ofList_cons]

namespace Wish

variable (w : Wish) (style : Style) (shape : Shape)

theorem get?_described (key : String) :
    Members.get? (Members.ofList w.described) key =
      if "description" = key then
        match w.description with
        | .unset => none
        | .clear => some .null
        | .set s => some (.string s)
      else none := by
  rw [described]
  cases w.description <;> simp [Members.get?_ofList_cons]

theorem key_part (name k : String) (v : Option Json) : ∀ m ∈ style.part name k v, m.1 = k := by
  cases v with
  | some v => simp [Style.part]
  | none =>
    rw [Style.part]
    split <;> simp

theorem key_wrapped (k : String) (p : Patch Json) : ∀ m ∈ style.wrapped k p, m.1 = k := by
  cases p <;> simp [Style.wrapped]

theorem key_described : ∀ m ∈ w.described, m.1 = "description" := by
  rw [described]
  cases w.description <;> simp

def commonKeys : List String := ["attnum", "nullable", "name", "delete", "description"]

theorem key_common : ∀ m ∈ w.common style, m.1 ∈ commonKeys := by
  intro m hm
  simp only [common, List.mem_cons, List.mem_append] at hm
  rcases hm with rfl | ((hm | hm) | hm) | hm
  · simp [commonKeys]
  · simp [commonKeys, key_part style _ _ _ m hm]
  · simp [commonKeys, key_part style _ _ _ m hm]
  · simp [commonKeys, key_part style _ _ _ m hm]
  · simp [commonKeys, w.key_described m hm]

def specificKeys : List String := ["type", "type_options", "column_default_dict", "default"]

theorem key_flatType : ∀ m ∈ w.flatType style, m.1 ∈ specificKeys := by
  intro m hm
  rcases List.mem_append.mp hm with hm | hm
  · simp [specificKeys, key_part style _ _ _ m hm]
  · simp [specificKeys, key_part style _ _ _ m hm]

theorem key_specific : ∀ m ∈ w.specific style shape, m.1 ∈ specificKeys := by
  intro m hm
  cases shape with
  | wrappedDefault =>
    rcases List.mem_append.mp hm with hm | hm
    · exact w.key_flatType style m hm
    · simp [specificKeys, List.mem_singleton.mp hm]
  | nestedType =>
    rcases List.mem_cons.mp hm with rfl | hm
    · simp [specificKeys]
    · simp [specificKeys, key_wrapped style _ _ m hm]
  | current =>
    rcases List.mem_append.mp hm with hm | hm
    · exact w.key_flatType style m hm
    · simp [specificKeys, key_wrapped style _ _ m hm]

theorem get?_common {key : String} (h : key ∉ specificKeys) :
    (w.members style shape).get? key = Members.get? (Members.ofList (w.common style)) key := by
  have hnone : Members.get? (Members.ofList (w.specific style shape)) key = none :=
    Members.get?_ofList_none fun m hm he => h (he ▸ w.key_specific style shape m hm)
  rw [members, Members.get?_ofList_append, hnone, Option.none_or]

theorem get?_specific {key : String} (h : key ∉ commonKeys) :
    (w.members style shape).get? key = Members.get? (Members.ofList (w.specific style shape)) key := by
  have hnone : Members.get? (Members.ofList (w.common style)) key = none :=
    Members.get?_ofList_none fun m hm he => h (he ▸ w.key_common style m hm)
  rw [members, Members.get?_ofList_append, hnone, Option.or_none]

/-! ## What all shapes share -/

theorem value_attnum : value (w.members style shape) "attnum" = w.attnum := by
  rw [value, get?_common _ _ _ (by decide), common, Members.get?_ofList_cons]
  simp only [Members.get?_ofList_append, get?_part, get?_described]
  rfl

theorem value_id : value (w.members style shape) "id" = .null := by
  rw [value, get?_common _ _ _ (by decide), Members.get?_ofList_none]
  · rfl
  · intro m hm he
    exact absurd (he ▸ w.key_common style m hm) (by decide)

theorem value_nullable :
    value (w.members style shape) "nullable" = (w.nullable.map Json.bool).getD .null := by
  rw [value, get?_common _ _ _ (by decide), common, Members.get?_ofList_cons]
  simp [Members.get?_ofList_append, get?_part, get?_described, getD_null_or_none]

theorem value_name : value (w.members style shape) "name" = (w.name.map Json.string).getD .null := by
  rw [value, get?_common _ _ _ (by decide), common, Members.get?_ofList_cons]
  simp [Members.get?_ofList_append, get?_part, get?_described, getD_null_or_none]

theorem value_delete : value (w.members style shape) "delete" = (w.delete.map Json.bool).getD .null := by
  rw [value, get?_common _ _ _ (by decide), common, Members.get?_ofList_cons]
  simp [Members.get?_ofList_append, get?_part, get?_described, getD_null_or_none]

theorem get?_description :
    (w.members style shape).get? "description" =
      match w.description with
      | .unset => none
      | .clear => some .null
      | .set s => some (.string s) := by
  rw [get?_common _ _ _ (by decide), common, Members.get?_ofList_cons]
  simp only [Members.get?_ofList_append, get?_part, get?_described]
  cases w.description <;> rfl

/-! ## What depends on the shape -/

theorem value_flatType_type :
    (Members.get? (Members.ofList (w.flatType style)) "type").getD .null =
      (w.typeName.map Json.string).getD .null := by
  simp [flatType, Members.get?_ofList_append, get?_part, getD_null_or_none]

theorem value_flatType_options :
    (Members.get? (Members.ofList (w.flatType style)) "type_options").getD .null = w.typeOptions.getD .null := by
  simp [flatType, Members.get?_ofList_append, get?_part, getD_null_or_none]

theorem flatType_none {key : String} (ht : "type" ≠ key) (ho : "type_options" ≠ key) :
    Members.get? (Members.ofList (w.flatType style)) key = none := by
  rw [flatType, Members.get?_ofList_append, get?_part, get?_part, if_neg ht, if_neg ho]
  rfl

theorem detect_members : Shape.detect (w.members style shape) = shape := by
  have hdict : (w.members style shape).has "column_default_dict" = decide (shape = .wrappedDefault) := by
    rw [Members.has, get?_specific _ _ _ (by decide)]
    cases shape with
    | wrappedDefault => simp [specific, Members.get?_ofList_append, Members.get?_ofList_cons]
    | nestedType => simp [specific, Members.get?_ofList_cons, get?_wrapped]
    | current =>
      rw [specific, Members.get?_ofList_append, get?_wrapped, flatType_none _ _ (by decide) (by decide)]
      rfl
  have htype : (w.members style shape).get? "type" =
      Members.get? (Members.ofList (w.specific style shape)) "type" := get?_specific _ _ _ (by decide)
  rw [Shape.detect, hdict]
  cases shape with
  | wrappedDefault => simp
  | nestedType =>
    rw [htype, specific, Members.get?_ofList_cons, get?_wrapped]
    simp [nestedType, Json.ofMembers]
  | current =>
    rw [htype, specific, Members.get?_ofList_append, get?_wrapped]
    simp only [flatType, Members.get?_ofList_append, get?_part]
    cases w.typeName with
    | some s => simp
    | none => cases style.writesNull "type" <;> simp

end Wish

/-! ## What is read -/

theorem readBoolean_getD (v : Option Bool) : readBoolean ((v.map Json.bool).getD .null) = .ok v := by
  cases v <;> rfl

theorem readText_getD (v : Option String) : readText ((v.map Json.string).getD .null) = .ok v := by
  cases v <;> rfl

theorem readAny_getD (v : Option Json) : readAny (v.getD .null) = v.bind readAny := by
  cases v <;> rfl

theorem readWrapper_wrapper (style : Style) (v : Option Json) :
    readWrapper (style.wrapper v) =
      .ok (match v with
        | some v => .ofOption (readAny v)
        | none => .unset) := by
  have hvalue := get?_wrapper style v
  rw [Style.wrapper, Json.ofMembers, Json.get?] at hvalue
  rw [Style.wrapper, Json.ofMembers, readWrapper, hvalue]
  cases v <;> rfl

namespace Wish

variable (w : Wish) (style : Style) (shape : Shape)

theorem readDefault_wrapped {ms : Members} {key : String}
    (h : ms.get? key = Members.get? (Members.ofList (style.wrapped key w.defaultValue)) key) :
    readDefault ms key = .ok w.askedDefault := by
  rw [readDefault, h, get?_wrapped, if_pos rfl, askedDefault]
  cases w.defaultValue with
  | unset => rfl
  | clear => rfl
  | set v => exact readWrapper_wrapper style (some v)

theorem readDefault_dict : readDefault (w.members style .wrappedDefault) "column_default_dict" =
    .ok w.askedDefault := by
  rw [readDefault, get?_specific _ _ _ (by decide), specific, Members.get?_ofList_append,
    Members.get?_ofList_cons, if_pos rfl, askedDefault, wrapped]
  cases w.defaultValue with
  | unset => exact readWrapper_wrapper style none
  | clear => rfl
  | set v => exact readWrapper_wrapper style (some v)

theorem readDefault_default (h : shape ≠ .wrappedDefault) :
    readDefault (w.members style shape) "default" = .ok w.askedDefault := by
  apply w.readDefault_wrapped style
  rw [get?_specific _ _ _ (by decide)]
  cases shape with
  | wrappedDefault => exact absurd rfl h
  | nestedType =>
    rw [specific, Members.get?_ofList_cons, if_neg (by simp), Option.or_none]
  | current =>
    rw [specific, Members.get?_ofList_append, flatType_none _ _ (by decide) (by decide), Option.or_none]

theorem value_flat (h : shape ≠ .nestedType) :
    value (w.members style shape) "type" = (w.typeName.map Json.string).getD .null ∧
    value (w.members style shape) "type_options" = w.typeOptions.getD .null := by
  have hflat : ∀ key, key ∈ ["type", "type_options"] → (w.members style shape).get? key =
      Members.get? (Members.ofList (w.flatType style)) key := by
    intro key hkey
    simp only [List.mem_cons, List.not_mem_nil, or_false] at hkey
    rw [get?_specific _ _ _ (by rcases hkey with rfl | rfl <;> decide)]
    cases shape with
    | nestedType => exact absurd rfl h
    | wrappedDefault =>
      rw [specific, Members.get?_ofList_append, Members.get?_ofList_none]
      · rfl
      · rcases hkey with rfl | rfl <;> simp
    | current =>
      rw [specific, Members.get?_ofList_append, get?_wrapped,
        if_neg (by rcases hkey with rfl | rfl <;> decide)]
      rfl
  rw [value, value, hflat _ (by simp), hflat _ (by simp)]
  exact ⟨w.value_flatType_type style, w.value_flatType_options style⟩

theorem value_nested : value (w.members style .nestedType) "type" = w.nestedType style := by
  rw [value, get?_specific _ _ _ (by decide), specific, Members.get?_ofList_cons, get?_wrapped]
  rfl

theorem read_specific : shape.read (w.members style shape) =
    .ok ⟨w.askedDefault, w.typeName, w.typeOptions.bind readAny⟩ := by
  cases shape with
  | wrappedDefault =>
    obtain ⟨htype, hoptions⟩ := w.value_flat style .wrappedDefault (by decide)
    rw [Shape.read, readFlat, readDefault_dict, htype, hoptions, readText_getD, readAny_getD]
    rfl
  | nestedType =>
    have hname : value (Members.ofList (style.part "type" "name" (w.typeName.map .string) ++
        style.part "type_options" "options" w.typeOptions)) "name" =
        (w.typeName.map Json.string).getD .null := by
      simp [value, Members.get?_ofList_append, get?_part, getD_null_or_none]
    have hoptions : value (Members.ofList (style.part "type" "name" (w.typeName.map .string) ++
        style.part "type_options" "options" w.typeOptions)) "options" = w.typeOptions.getD .null := by
      simp [value, Members.get?_ofList_append, get?_part, getD_null_or_none]
    rw [Shape.read, readNested, readDefault_default _ _ _ (by decide), value_nested]
    simp only [nestedType, Json.ofMembers]
    rw [hname, hoptions, readText_getD, readAny_getD]
    rfl
  | current =>
    obtain ⟨htype, hoptions⟩ := w.value_flat style .current (by decide)
    rw [Shape.read, readFlat, readDefault_default _ _ _ (by decide), htype, hoptions, readText_getD,
      readAny_getD]
    rfl

theorem read_members :
    Request.read shape (w.members style shape) = (readInteger w.attnum).map w.asked := by
  have hdescription : readTextPatch (w.members style shape) "description" = .ok w.description := by
    rw [readTextPatch, get?_description]
    cases w.description <;> rfl
  rw [Request.read, read_specific, value_attnum, value_id, value_nullable, value_name, value_delete,
    readBoolean_getD, readBoolean_getD, readText_getD, hdescription]
  cases readInteger w.attnum <;> rfl

/-- A change comes out of a request in the same way whatever its shape. -/
theorem ofJson_request :
    Request.ofJson (w.request style shape) =
      ((readInteger w.attnum).mapError (.mismatch shape)).map w.asked := by
  rw [request, Request.ofJson, detect_members, read_members]
  cases readInteger w.attnum <;> rfl

/-- Every request is taken for the shape it is written in. Either all of them come to one change, or
    all fail for one reason, or the number is of the wrong kind and all of them say so. -/
theorem shapes_agree (fallback : Option Int) :
    (∀ style shape, Shape.detect (w.members style shape) = shape) ∧
    ((∃ attnum change, readInteger w.attnum = .ok attnum ∧
        (w.asked attnum).normalize fallback = .ok change ∧
        ∀ style shape, normalize (w.request style shape) fallback = .ok change) ∨
      (∃ attnum e, readInteger w.attnum = .ok attnum ∧
        (w.asked attnum).normalize fallback = .error e ∧
        ∀ style shape, normalize (w.request style shape) fallback = .error e) ∨
      ∃ m, readInteger w.attnum = .error m ∧
        ∀ style shape, normalize (w.request style shape) fallback = .error (.mismatch shape m)) := by
  refine ⟨w.detect_members, ?_⟩
  cases hattnum : readInteger w.attnum with
  | error m =>
    refine .inr (.inr ⟨m, rfl, fun style shape => ?_⟩)
    rw [normalize, ofJson_request, hattnum]
    rfl
  | ok attnum =>
    have hsame : ∀ style shape,
        normalize (w.request style shape) fallback = (w.asked attnum).normalize fallback := by
      intro style shape
      rw [normalize, ofJson_request, hattnum]
      rfl
    cases hn : (w.asked attnum).normalize fallback with
    | ok change => exact .inl ⟨attnum, change, rfl, hn, fun style shape => (hsame style shape).trans hn⟩
    | error e => exact .inr (.inl ⟨attnum, e, rfl, hn, fun style shape => (hsame style shape).trans hn⟩)

end Wish

end Intake.Alteration
