/-
  Intake.Alteration.Request — requests to change a column, as JSON.

  A request comes in one of three shapes. With the key `column_default_dict` that key wraps the
  default value. Without it, a `type` that is an object holds the name of the type and its
  options; in any other request `type` is a name and `type_options` stands beside it. These two
  shapes wrap the default value under `default`. Of a request only the keys of its shape are
  read, and each has to be of the right kind or null; the keys of the shape are checked first, then
  those that all shapes share, both in order.
-/

import Intake.Alteration.Basic
import Intake.Json.Writer
import Intake.Text.Quoted

namespace Intake.Alteration

open Json (Members)

inductive Shape where
  | wrappedDefault
  | nestedType
  | current
  deriving DecidableEq, Repr

namespace Shape

def name : Shape → String
  | wrappedDefault => "column_default_dict"
  | nestedType => "nested type"
  | current => "current"

def detect (ms : Members) : Shape :=
  if ms.has "column_default_dict" then wrappedDefault
  else
    match ms.get? "type" with
    | some (.object _) => nestedType
    | _ => current

end Shape

/-! ## Values of the wrong kind -/

/-- What a value should have been. -/
inductive Expected where
  | integer
  | boolean
  | text
  | wrapper
  deriving DecidableEq, Repr

def Expected.phrase : Expected → String
  | integer => "i64"
  | boolean => "a boolean"
  | text => "a string"
  | wrapper => "struct DefaultWrapper"

inductive Mismatch where
  /-- The value is of another kind. -/
  | kind (found : Json) (expected : Expected)
  /-- The integer takes more than 64 bits. -/
  | range (found : Int)
  /-- The array has more than the one item that can stand in a wrapper. -/
  | length (found : Nat)

/-- A value as messages about its kind show it. -/
def found : Json → String
  | .null => "null"
  | .bool b => "boolean \x60" ++ (if b then "true" else "false") ++ "\x60"
  | .number (.int n) => "integer \x60" ++ toString n ++ "\x60"
  | .number (.real x) => "floating point \x60" ++ x.text ++ "\x60"
  | .string s => "string " ++ Text.Quoted.quote s
  | .array _ => "sequence"
  | .object _ => "map"

def Mismatch.message : Mismatch → String
  | kind v expected => "invalid type: " ++ found v ++ ", expected " ++ expected.phrase
  | range n => "invalid value: " ++ found (.int n) ++ ", expected " ++ Expected.integer.phrase
  | length n => "invalid length " ++ toString n ++ ", expected fewer elements in array"

/-- A key that is missing reads as null. -/
def value (ms : Members) (key : String) : Json := (ms.get? key).getD .null

def readInteger : Json → Except Mismatch (Option Int)
  | .null => .ok none
  | .number (.int n) =>
    if -0x8000000000000000 ≤ n ∧ n < 0x8000000000000000 then .ok (some n) else .error (.range n)
  | v => .error (.kind v .integer)

def readBoolean : Json → Except Mismatch (Option Bool)
  | .null => .ok none
  | .bool b => .ok (some b)
  | v => .error (.kind v .boolean)

def readText : Json → Except Mismatch (Option String)
  | .null => .ok none
  | .string s => .ok (some s)
  | v => .error (.kind v .text)

def readAny (v : Json) : Option Json := if v.isNull then none else some v

def readTextPatch (ms : Members) (key : String) : Except Mismatch (Patch String) :=
  match ms.get? key with
  | none => .ok .unset
  | some v => do return .ofOption (← readText v)

/-- What a wrapper says about the default value: its member `value`, or its only item. -/
def readWrapper : Json → Except Mismatch (Patch Json)
  | .null => .ok .clear
  | .object ms =>
    match Members.get? ms "value" with
    | none => .ok .unset
    | some v => .ok (.ofOption (readAny v))
  | .array [] => .ok .unset
  | .array [v] => .ok (.ofOption (readAny v))
  | .array items => .error (.length items.length)
  | v => .error (.kind v .wrapper)

def readDefault (ms : Members) (key : String) : Except Mismatch (Patch Json) :=
  match ms.get? key with
  | none => .ok .unset
  | some v => readWrapper v

/-! ## Requests -/

/-- What a request asks for, whatever its shape. -/
structure Request where
  attnum : Option Int
  id : Option Int
  typeName : Option String
  typeOptions : Option Json
  nullable : Option Bool
  name : Option String
  defaultValue : Patch Json
  delete : Option Bool
  description : Patch String

/-- The fields that depend on the shape. -/
structure Specific where
  defaultValue : Patch Json
  typeName : Option String
  typeOptions : Option Json

/-- A type by name with its options beside it. -/
def readFlat (key : String) (ms : Members) : Except Mismatch Specific := do
  let defaultValue ← readDefault ms key
  let typeName ← readText (value ms "type")
  return ⟨defaultValue, typeName, readAny (value ms "type_options")⟩

def readNested (ms : Members) : Except Mismatch Specific := do
  let defaultValue ← readDefault ms "default"
  let spec := match value ms "type" with
    | .object spec => spec
    | _ => []
  let typeName ← readText (value spec "name")
  return ⟨defaultValue, typeName, readAny (value spec "options")⟩

def Shape.read : Shape → Members → Except Mismatch Specific
  | wrappedDefault => readFlat "column_default_dict"
  | nestedType => readNested
  | current => readFlat "default"

def Request.read (shape : Shape) (ms : Members) : Except Mismatch Request := do
  let specific ← shape.read ms
  let attnum ← readInteger (value ms "attnum")
  let delete ← readBoolean (value ms "delete")
  let description ← readTextPatch ms "description"
  let id ← readInteger (value ms "id")
  let name ← readText (value ms "name")
  let nullable ← readBoolean (value ms "nullable")
  return ⟨attnum, id, specific.typeName, specific.typeOptions, nullable, name,
    specific.defaultValue, delete, description⟩

/-- Why something is no request that can be carried out. -/
inductive Invalid where
  | notObject (found : Json)
  | mismatch (shape : Shape) (m : Mismatch)
  | attnumMissing
  | notColumnNumber (n : Int)
  /-- What is given as a column number is none. -/
  | notColumnNumberValue (v : Json)
  | itemNotObject (index : Nat) (found : Json)
  | itemWithoutAttnum
  | unknownKey (key : String)
  /-- The fault lies in the item of this number. -/
  | item (index : Nat) (e : Invalid)

def Request.ofJson : Json → Except Invalid Request
  | .object ms =>
    let shape := Shape.detect ms
    (Request.read shape ms).mapError (.mismatch shape)
  | v => .error (.notObject v)

end Intake.Alteration
