/-
  Intake.Sql.Identifier — names of tables, schemas, columns and procedures inside SQL text.

  A name cannot be sent as a parameter, so it is written between double quotes with every quote
  in it doubled. A name is refused when it is empty, holds a NUL, or is longer than the server
  keeps; `check` looks for these in this order.
-/

import Intake.Text.Quoted
import Intake.Text.Utf8

namespace Intake.Sql

/-- The server keeps this many bytes of a name. -/
def maxIdentifierBytes : Nat := 63

inductive IdentifierError where
  | empty
  | nullByte (name : String)
  | tooLong (name : String) (length : Nat)
  deriving DecidableEq, Repr

namespace IdentifierError

def message : IdentifierError → String
  | empty => "Identifier cannot be empty"
  | nullByte name => "Identifier contains a null byte: " ++ Text.Quoted.quote name
  | tooLong name length =>
    "Identifier exceeds " ++ toString maxIdentifierBytes ++ " bytes (got " ++ toString length ++
      "): " ++ Text.Quoted.quote name

end IdentifierError

namespace Identifier

def check (name : String) : Except IdentifierError Unit :=
  let length := Text.Utf8.byteLength name.toList
  if name.toList = [] then .error .empty
  else if '\x00' ∈ name.toList then .error (.nullByte name)
  else if length > maxIdentifierBytes then .error (.tooLong name length)
  else .ok ()

def doubleQuotes (cs : List Char) : List Char :=
  cs.flatMap fun c => if c = '\"' then ['\"', '\"'] else [c]

/-- A checked name between double quotes. -/
def quote (name : String) : Except IdentifierError String := do
  check name
  return String.ofList (['\"'] ++ doubleQuotes name.toList ++ ['\"'])

def qualify (schema name : String) : Except IdentifierError String := do
  return (← quote schema) ++ "." ++ (← quote name)

end Identifier

end Intake.Sql
