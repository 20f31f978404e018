/-
  Intake.Alteration.Payload — a change as JSON.

  `payload` is the object the database gets, its members in order of their keys. `report` is the
  object that is shown, its members in the order of the fields of a change. What a change leaves
  alone has no member; what it clears is null.
-/

import Intake.Alteration.Basic

namespace Intake.Alteration

open Json (Members)

/-- Adds a member if there is a value. -/
def withMember {α : Type} (key : String) (f : α → Json) (value : Option α) (ms : Members) :
    Members :=
  match value with
  | some a => Members.insert key (f a) ms
  | none => ms

/-- Adds a member unless it is left alone. -/
def withPatch {α : Type} (key : String) (f : α → Json) (patch : Patch α) (ms : Members) :
    Members :=
  match patch with
  | .unset => ms
  | .clear => Members.insert key .null ms
  | .set a => Members.insert key (f a) ms

def TypeChange.payload (t : TypeChange) : Json :=
  .object (withMember "options" id t.options (withMember "name" .string t.name []))

/-- The change as the database gets it. -/
def Change.payload (c : Change) : Json :=
  .object <|
    withPatch "description" .string c.description <|
    withMember "delete" .bool c.delete <|
    withPatch "default" id c.defaultValue <|
    withMember "name" .string c.name <|
    withMember "not_null" .bool c.notNull <|
    withMember "type" TypeChange.payload c.typeChange <|
    Members.insert "attnum" (.int c.attnum) []

/-! ## The report -/

def shown {α : Type} (key : String) (f : α → Json) (value : Option α) : List (String × Json) :=
  (value.map fun a => (key, f a)).toList

def shownPatch {α : Type} (key : String) (f : α → Json) : Patch α → List (String × Json)
  | .unset => []
  | .clear => [(key, .null)]
  | .set a => [(key, f a)]

def TypeChange.report (t : TypeChange) : Json :=
  .object (shown "name" .string t.name ++ shown "options" id t.options)

/-- The change as it is shown. -/
def Change.report (c : Change) : Json :=
  .object (("attnum", .int c.attnum) :: shown "type" TypeChange.report c.typeChange ++
    shown "not_null" .bool c.notNull ++ shown "name" .string c.name ++
    shownPatch "default" id c.defaultValue ++ shown "delete" .bool c.delete ++
    shownPatch "description" .string c.description)

end Intake.Alteration
