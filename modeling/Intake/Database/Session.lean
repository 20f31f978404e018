/-
  Intake.Database.Session — a database behind a server that takes SQL.

  Every name in a statement is quoted, and values go as parameters where the server allows it. A
  statement with a name that cannot be quoted is not sent, nor any other of the same request.
-/

import Intake.Database.Basic
import Intake.Numeric.Hex
import Intake.Sql.Identifier
import Intake.Sql.Literal

namespace Intake.Database

/-- What a statement is for. -/
inductive Purpose where
  | begin
  | commit
  | rollback
  | create
  | comment
  /-- To find the number of a table. -/
  | tableOid
  | procedure (name : String)
  | copy
  deriving DecidableEq, Repr

/-- A statement, and its parameters if it can have any. -/
structure Statement where
  purpose : Purpose
  text : String
  parameters : Option (List Argument)

namespace Statement

def begin : Statement := ⟨.begin, "START TRANSACTION", none⟩

def commit : Statement := ⟨.commit, "COMMIT", none⟩

def rollback : Statement := ⟨.rollback, "ROLLBACK", none⟩

/-- The parameters of a call, each converted to the type of its argument. -/
def placeholdersFrom (position : Nat) : List Argument → List String
  | [] => []
  | a :: rest =>
    ("$" ++ toString position ++ "::" ++ a.typeName) :: placeholdersFrom (position + 1) rest

def call (schema name : String) (args : List Argument) : Except Sql.IdentifierError Statement := do
  let procedure ← Sql.Identifier.qualify schema name
  return ⟨.procedure name,
    "SELECT " ++ procedure ++ "(" ++ ", ".intercalate (placeholdersFrom 1 args) ++ ")::text",
    some args⟩

/-- The key column that every new table begins with. -/
def keyColumn : String := "\"id\" integer PRIMARY KEY GENERATED ALWAYS AS IDENTITY"

def columnDefinition (name : String) : Except Sql.IdentifierError String := do
  return (← Sql.Identifier.quote name) ++ " text"

def create (t : NewTable) : Except Sql.IdentifierError Statement := do
  let table ← Sql.Identifier.qualify t.schema t.name
  let columns ← t.columns.mapM columnDefinition
  return ⟨.create,
    "CREATE TABLE " ++ table ++ " (" ++ ", ".intercalate (keyColumn :: columns) ++ ")", none⟩

def comment (t : NewTable) (comment : String) : Except Sql.IdentifierError Statement := do
  let table ← Sql.Identifier.qualify t.schema t.name
  return ⟨.comment, "COMMENT ON TABLE " ++ table ++ " IS " ++ Sql.Literal.quote comment, none⟩

def tableOid (t : NewTable) : Except Sql.IdentifierError Statement := do
  let table ← Sql.Identifier.qualify t.schema t.name
  return ⟨.tableOid, "SELECT $1::text::regclass::oid", some [.text table]⟩

def copy (command : String) : Statement := ⟨.copy, command, none⟩

end Statement

/-- A server whose state is a `σ`. -/
structure Server (σ : Type) where
  /-- Carries out a statement; the first column of the rows it gives. -/
  run : Statement → StateM σ (Except Error (List (Option String)))
  /-- Opens a bulk load. -/
  copyIn : Statement → StateM σ (Except Error Unit)
  write : List UInt8 → StateM σ (Except String Unit)
  flush : StateM σ (Except String Unit)
  finish : StateM σ (Except Error Nat)

namespace Session

variable {σ : Type}

abbrev Exchange (σ α : Type) := ExceptT Error (StateM σ) α

/-- A text with a NUL cannot be sent. -/
def sendable (s : Statement) : Bool := !s.text.toList.contains '\x00'

def notSendable : Error := .ofMessage "error encoding message to server"

def notOneRow : Error := .ofMessage "query returned an unexpected number of rows"

def notNumber : Error := .ofMessage "error deserializing column 0"

/-- The number in a column. -/
def number? (text : String) : Option Nat := Numeric.ofDigits? 10 text.toList

def statement (s : Except Sql.IdentifierError Statement) : Exchange σ Statement :=
  ExceptT.mk (pure (s.mapError fun e => .ofMessage e.message))

def run (server : Server σ) (s : Statement) : Exchange σ (List (Option String)) := do
  if sendable s then ExceptT.mk (server.run s) else throw notSendable

def runOne (server : Server σ) (s : Statement) : Exchange σ (Option String) := do
  match ← run server s with
  | [row] => return row
  | _ => throw notOneRow

def createTable (server : Server σ) (t : NewTable) : Exchange σ Table := do
  let create ← statement (Statement.create t)
  let _ ← run server create
  match t.comment with
  | some text =>
    let comment ← statement (Statement.comment t text)
    let _ ← run server comment
  | none => pure ()
  let find ← statement (Statement.tableOid t)
  match (← runOne server find).bind number? with
  | some oid => return ⟨oid, t.schema, t.name⟩
  | none => throw notNumber

/-- The database behind a server, its procedures in a schema. -/
def database (server : Server σ) (procedures : String) : Database σ where
  call := fun name args => (do
    let call ← statement (Statement.call procedures name args)
    runOne server call : Exchange σ (Option String)).run
  createTable := fun t => (createTable server t).run
  copyIn := fun command => (do
    if sendable (.copy command) then ExceptT.mk (server.copyIn (.copy command))
    else throw notSendable : Exchange σ Unit).run
  write := server.write
  flush := server.flush
  finish := server.finish

/-- The schema of the procedures, unless another is named. -/
def defaultProcedures : String := "msar"

/-! ## Transactions -/

inductive TransactionError (ε : Type) where
  | begin (e : Error)
  | body (e : ε)
  | commit (e : Error)

/-- Does something in a transaction, which is taken back when it fails, also when it fails to
    begin. -/
def transaction {ε α : Type} (server : Server σ) (body : StateM σ (Except ε α)) :
    StateM σ (Except (TransactionError ε) α) := do
  match ← server.run .begin with
  | .error e =>
    let _ ← server.run .rollback
    return .error (.begin e)
  | .ok _ =>
    match ← body with
    | .error e =>
      let _ ← server.run .rollback
      return .error (.body e)
    | .ok a =>
      match ← server.run .commit with
      | .error e => return .error (.commit e)
      | .ok _ => return .ok a

end Session

end Intake.Database
