/-
  Intake.Alteration.Apply — changes carried out by the database.

  A request is brought to its form before anything is asked of the database, so an invalid one
  changes nothing. All changes go to the database in one call.
-/

import Intake.Alteration.Failure
import Intake.Alteration.Payload

namespace Intake.Alteration

variable {σ : Type}

abbrev Action (σ α : Type) := ExceptT Failure (StateM σ) α

def check {α : Type} (x : Except Invalid α) : Action σ α := ExceptT.mk (pure (x.mapError .invalid))

def alterProcedure : String := "alter_columns"

def dropProcedure : String := "drop_columns"

/-- Carries out changes of a table. -/
def send (db : Database σ) (context : Context) (changes : List Change) : Action σ Unit :=
  ExceptT.mk do
    let payload := Json.array (changes.map Change.payload)
    match ← db.call alterProcedure [.oid context.table, .jsonb payload] with
    | .ok _ => return .ok ()
    | .error e => return .error (← context.explain db e)

def Context.single (table : Nat) (c : Change) : Context :=
  ⟨table, some c.attnum, c.requestedType, c.setsDefault⟩

def Context.batch (table : Nat) (cs : List Change) : Context :=
  ⟨table, none, none, cs.any Change.setsDefault⟩

/-- Changes one column; `attnum` is its number unless the request gives one. -/
def alterColumn (db : Database σ) (table : Nat) (attnum : Int) (request : Json) :
    Action σ Change := do
  let c ← check (normalize request (some attnum))
  send db (.single table c) [c]
  return c

def alterType (db : Database σ) (table : Nat) (attnum : Int) (name : String)
    (options : Option Json) : Action σ Change :=
  alterColumn db table attnum
    (.ofMembers [("type", .string name), ("type_options", options.getD .null)])

def renameColumn (db : Database σ) (table : Nat) (attnum : Int) (name : String) :
    Action σ Change :=
  alterColumn db table attnum (.ofMembers [("name", .string name)])

/-- Changes the columns that items with a few allowed keys name. -/
def updateColumns (db : Database σ) (table : Nat) (items : List Json) :
    Action σ (List Change) := do
  check (checkBatch items)
  let cs ← check (normalizeAll items)
  send db (.batch table cs) cs
  return cs

/-- Changes the columns that items name; the number of changes. -/
def alterColumns (db : Database σ) (table : Nat) (items : List Json) : Action σ Nat := do
  let cs ← check (normalizeAll items)
  send db (.batch table cs) cs
  return cs.length

/-! ## Dropping columns -/

/-- What stands for the number of a column that is to be dropped. -/
def dropTarget? (item : Json) : Option Json :=
  match item.get? "attnum", item.get? "delete" with
  | some attnum, some (.bool true) => if attnum.isNull then none else some attnum
  | _, _ => none

def columnNumber : Json → Except Invalid Int
  | .number (.int n) =>
    if isColumnNumber n then .ok n else .error (.notColumnNumberValue (.int n))
  | v => .error (.notColumnNumberValue v)

def dropTargets (items : List Json) : Except Invalid (List Int) :=
  (items.filterMap dropTarget?).mapM columnNumber

/-- Drops the columns that items mark; their numbers. -/
def dropColumns (db : Database σ) (table : Nat) (items : List Json) : Action σ (List Int) := do
  let numbers ← check (dropTargets items)
  if numbers.isEmpty then return numbers
  ExceptT.mk do
    match ← db.call dropProcedure (.oid table :: numbers.map .integer) with
    | .ok _ => return .ok numbers
    | .error e => return .error (.database e)

end Intake.Alteration
