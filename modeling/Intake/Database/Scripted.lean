/-
  Intake.Database.Scripted — a database that follows a script and keeps a log of what it was
  asked.

  Every request is logged before it fails, if the script says that it does. New tables are
  numbered in the order in which they are made. A bulk load is logged when it is finished.
-/

import Intake.Database.Basic

namespace Intake.Database

/-- What a database was asked. -/
inductive Event where
  | call (name : String) (args : List Argument)
  | createTable (table : NewTable)
  | copyIn (command : String)
  | copyFinish (bytes : List UInt8)

/-- The bytes after which an open load takes no more, and what it says then. -/
structure WriteLimit where
  bytes : Nat
  message : String
  deriving DecidableEq, Repr

structure Script where
  /-- The names of columns, by table and number. -/
  columnNames : List ((Nat × Int) × String)
  /-- The requests that fail: procedures by name, and `create_table`, `copy_in` and `finish`. -/
  failures : List (String × Error)
  writeLimit : Option WriteLimit
  deriving DecidableEq, Repr

structure Scripted where
  script : Script
  /-- What was asked, the newest first. -/
  log : List Event
  nextOid : Nat
  /-- What the open load has taken. -/
  received : Array UInt8

def firstOid : Nat := 16384

def lineFeeds (bytes : List UInt8) : Nat := bytes.count 0x0A

namespace Scripted

def ofScript (script : Script) : Scripted := ⟨script, [], firstOid, #[]⟩

def record (s : Scripted) (e : Event) : Scripted := { s with log := e :: s.log }

/-- The failure the script has for a request. -/
def failure? (s : Scripted) (target : String) : Option Error :=
  (s.script.failures.find? fun f => f.1 = target).map (·.2)

/-- Logs a request, and fails if the script says so. -/
def ask {α : Type} (target : String) (e : Event) (answer : StateM Scripted α) :
    StateM Scripted (Except Error α) := do
  modify (·.record e)
  match (← get).failure? target with
  | some failure => return .error failure
  | none => return .ok (← answer)

def answer (s : Scripted) (name : String) (args : List Argument) : Option String :=
  match args with
  | [.oid table, .integer attnum] =>
    if name = columnNameProcedure then
      (s.script.columnNames.find? fun c => c.1 = (table, attnum)).map (·.2)
    else none
  | _ => none

def newTable (t : NewTable) : StateM Scripted Table := do
  let s ← get
  set { s with nextOid := s.nextOid + 1 }
  return ⟨s.nextOid, t.schema, t.name⟩

def take (bytes : List UInt8) : StateM Scripted (Except String Unit) := do
  let s ← get
  match s.script.writeLimit with
  | some limit =>
    if s.received.size + bytes.length > limit.bytes then return .error limit.message
    else
      set { s with received := s.received ++ bytes.toArray }
      return .ok ()
  | none =>
    set { s with received := s.received ++ bytes.toArray }
    return .ok ()

def database : Database Scripted where
  call := fun name args => do
    let s ← get
    ask name (.call name args) (return s.answer name args)
  createTable := fun t => ask "create_table" (.createTable t) (newTable t)
  copyIn := fun command =>
    ask "copy_in" (.copyIn command) (modify fun s => { s with received := #[] })
  write := take
  flush := return .ok ()
  finish := do
    let bytes := (← get).received.toList
    ask "finish" (.copyFinish bytes) (return lineFeeds bytes)

end Scripted

end Intake.Database
