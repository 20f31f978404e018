/-
  Intake.Alteration.Normalize — requests brought to one form, whatever their shape.

  The number of the column is the one the request gives, else the one its caller gives, else its
  `id`. A type without a name, options that are empty and a name that is blank ask for nothing.
  In a batch only some keys are allowed, and each item names its column.
-/

import Intake.Alteration.Request
import Intake.Text.Blank

namespace Intake.Alteration

def Invalid.detail : Invalid → String
  | notObject v => "expected a JSON object, got " ++ v.kind
  | mismatch shape m => shape.name ++ " request: " ++ m.message
  | attnumMissing => "a column attnum is required"
  | notColumnNumber n => "attnum " ++ toString n ++ " is not a valid column number"
  | notColumnNumberValue v => "attnum " ++ v.compact ++ " is not a valid column number"
  | itemNotObject index v =>
    "batch item " ++ toString index ++ " must be an object, got " ++ v.kind
  | itemWithoutAttnum => "Key \"attnum\" is required"
  | unknownKey key =>
    "Key \"" ++ key ++
      "\" found in columns. Keys allowed are: attnum, name, type, type_options, delete"
  | item index e => "item " ++ toString index ++ ": " ++ e.detail

def Invalid.message (e : Invalid) : String := "Invalid alteration request: " ++ e.detail

/-- The number of the column: the first there is of three. -/
def resolveAttnum (explicit fallback alternate : Option Int) : Except Invalid Int :=
  match (explicit.or fallback).or alternate with
  | none => .error .attnumMissing
  | some n => if isColumnNumber n then .ok n else .error (.notColumnNumber n)

/-- The type that is asked for, if anything is asked of it. -/
def typeChangeOf (name : Option String) (options : Option Json) : Option TypeChange :=
  let name := name.filter fun s => s ≠ ""
  let options := options.filter Json.isTruthy
  if name.isSome || options.isSome then some ⟨name, options⟩ else none

def Request.normalize (r : Request) (fallback : Option Int) : Except Invalid Change := do
  let attnum ← resolveAttnum r.attnum fallback r.id
  return {
    attnum
    typeChange := typeChangeOf r.typeName r.typeOptions
    notNull := r.nullable.map fun b => !b
    name := (r.name.map Text.trim).filter fun s => s ≠ ""
    defaultValue := r.defaultValue
    delete := r.delete
    description := r.description }

def normalize (v : Json) (fallback : Option Int) : Except Invalid Change := do
  (← Request.ofJson v).normalize fallback

/-! ## Batches -/

def batchKeys : List String := ["attnum", "name", "type", "type_options", "delete"]

def checkItem (index : Nat) : Json → Except Invalid Unit
  | .object ms =>
    if !Json.Members.has ms "attnum" then .error .itemWithoutAttnum
    else
      match ms.find? fun m => !batchKeys.contains m.1 with
      | some m => .error (.unknownKey m.1)
      | none => .ok ()
  | v => .error (.itemNotObject index v)

/-- Checks the keys of items, the first of them being number `index`. -/
def checkFrom (index : Nat) : List Json → Except Invalid Unit
  | [] => .ok ()
  | v :: vs => do
    checkItem index v
    checkFrom (index + 1) vs

def checkBatch (items : List Json) : Except Invalid Unit := checkFrom 0 items

/-- The changes of items, the first of them being number `index`. -/
def normalizeFrom (index : Nat) : List Json → Except Invalid (List Change)
  | [] => .ok []
  | v :: vs => do
    let c ← (normalize v none).mapError (.item index)
    let cs ← normalizeFrom (index + 1) vs
    return c :: cs

def normalizeAll (items : List Json) : Except Invalid (List Change) := normalizeFrom 0 items

end Intake.Alteration
