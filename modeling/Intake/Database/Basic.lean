/-
  Intake.Database.Basic — what is asked of a database: to call a procedure, to create a table, and
  to take in rows in bulk.

  A bulk load is opened with a command, takes bytes, passes on those it still holds, and is
  finished; one that is not finished loads nothing.
-/

import Intake.Database.Error
import Intake.Json.Value

namespace Intake

namespace Database

inductive Argument where
  | oid (n : Nat)
  | integer (n : Int)
  | text (s : String)
  | jsonb (v : Json)

def Argument.typeName : Argument → String
  | oid _ => "oid"
  | integer _ => "integer"
  | text _ => "text"
  | jsonb _ => "jsonb"

/-- A table to be created. -/
structure NewTable where
  schema : String
  name : String
  columns : List String
  comment : Option String
  deriving DecidableEq, Repr

structure Table where
  oid : Nat
  schema : String
  name : String
  deriving DecidableEq, Repr

/-- The name of a table as messages show it. -/
def Table.display (t : Table) : String := t.schema ++ "." ++ t.name

end Database

/-- A database whose state is a `σ`. -/
structure Database (σ : Type) where
  /-- Calls a procedure; its result as text. -/
  call : String → List Database.Argument → StateM σ (Except Database.Error (Option String))
  createTable : Database.NewTable → StateM σ (Except Database.Error Database.Table)
  /-- Opens a bulk load. -/
  copyIn : String → StateM σ (Except Database.Error Unit)
  /-- Gives bytes to the open load. -/
  write : List UInt8 → StateM σ (Except String Unit)
  /-- Has the open load pass on the bytes it still holds. -/
  flush : StateM σ (Except String Unit)
  /-- Ends the open load; the number of rows. -/
  finish : StateM σ (Except Database.Error Nat)

namespace Database

variable {σ : Type}

def columnNameProcedure : String := "get_column_name"

/-- The name of a column of a table, if it has one. -/
def columnName (db : Database σ) (table : Nat) (attnum : Int) :
    StateM σ (Except Error (Option String)) :=
  db.call columnNameProcedure [.oid table, .integer attnum]

end Database

end Intake
