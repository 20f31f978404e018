/-
  Intake.Database.Error — failures the database reports.

  A failure is known by its state code; a few of the codes mean that the user asked for something
  impossible, and these make up the categories.
-/

namespace Intake.Database

inductive Category where
  | invalidParameterValue
  | invalidTextRepresentation
  | raiseException
  | syntaxError
  | other
  deriving DecidableEq, Repr

namespace Category

def name : Category → String
  | invalidParameterValue => "InvalidParameterValue"
  | invalidTextRepresentation => "InvalidTextRepresentation"
  | raiseException => "RaiseException"
  | syntaxError => "SyntaxError"
  | other => "Other"

/-- The category of a state code. -/
def ofState (code : String) : Category :=
  match code with
  | "22023" => invalidParameterValue
  | "22P02" => invalidTextRepresentation
  | "P0001" => raiseException
  | "42601" => syntaxError
  | _ => other

end Category

structure Error where
  category : Category
  state : Option String
  message : String
  deriving DecidableEq, Repr

namespace Error

def ofState (code message : String) : Error := ⟨.ofState code, some code, message⟩

def ofMessage (message : String) : Error := ⟨.other, none, message⟩

end Error

end Intake.Database
