/-
  Intake.Alteration.Failure — what a failure of the database means for a change.

  A failure whose category says that the user asked for something impossible is told in the words
  of the request; any other is passed on. Where the type is at fault the column is named as the
  database names it, if one column was changed and the name can be found out.
-/

import Intake.Alteration.Normalize
import Intake.Database.Basic

namespace Intake.Alteration

inductive Failure where
  | invalid (e : Invalid)
  | invalidType (column : Option String) (typeName : Option String) (e : Database.Error)
  | invalidTypeOption (detail : Option String) (e : Database.Error)
  | invalidDefault (e : Database.Error)
  | database (e : Database.Error)

namespace Failure

/-- The stable name of a kind of failure. -/
def code : Failure → String
  | invalid _ => "validation_error"
  | invalidType .. => "invalid_type"
  | invalidTypeOption .. => "invalid_type_option"
  | invalidDefault _ => "invalid_default"
  | database _ => "database_error"

def columnPhrase : Option String → String
  | some name => "Column \"" ++ name ++ "\""
  | none => "Column"

def typePhrase : Option String → String
  | some name => "type " ++ name
  | none => "the requested type"

def message : Failure → String
  | invalid e => e.message
  | invalidType column typeName _ =>
    columnPhrase column ++ " cannot be converted to " ++ typePhrase typeName
  | invalidTypeOption detail _ =>
    "Invalid type options" ++ (detail.map (": " ++ ·)).getD ""
  | invalidDefault _ => "Default value is not valid for the column type"
  | database e => e.message

def cause? : Failure → Option Database.Error
  | invalid _ => none
  | invalidType _ _ e | invalidTypeOption _ e | invalidDefault e | database e => some e

def column? : Failure → Option String
  | invalidType column _ _ => column
  | _ => none

def typeName? : Failure → Option String
  | invalidType _ typeName _ => typeName
  | _ => none

end Failure

/-- What the database was asked to do when it failed. A batch has no column. -/
structure Context where
  table : Nat
  attnum : Option Int
  requestedType : Option String
  setsDefault : Bool
  deriving DecidableEq, Repr

variable {σ : Type}

/-- The name of the column that was to be changed; a failed look-up finds none. -/
def Context.columnName (db : Database σ) (context : Context) : StateM σ (Option String) := do
  match context.attnum with
  | none => return none
  | some attnum =>
    match ← Database.columnName db context.table attnum with
    | .ok name => return name
    | .error _ => return none

def Context.invalidType (db : Database σ) (context : Context) (e : Database.Error) :
    StateM σ Failure := do
  return .invalidType (← context.columnName db) context.requestedType e

/-- What a failure of the database means. -/
def Context.explain (db : Database σ) (context : Context) (e : Database.Error) :
    StateM σ Failure :=
  match e.category with
  | .invalidParameterValue => return .invalidTypeOption none e
  | .invalidTextRepresentation =>
    if context.setsDefault then return .invalidDefault e else context.invalidType db e
  | .raiseException => context.invalidType db e
  | .syntaxError => return .invalidTypeOption (some e.message) e
  | .other => return .database e

end Intake.Alteration
