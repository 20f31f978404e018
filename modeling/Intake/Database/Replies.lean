/-
  Intake.Database.Replies — a server that answers from a list of replies and keeps a log of the
  statements it got.

  Every statement is logged before it fails, and the bytes of a bulk load when the load ends.
-/

import Intake.Database.Scripted
import Intake.Database.Session

namespace Intake.Database

/-- What a server logs. -/
inductive Trace where
  | sql (text : String) (parameters : Option (List Argument))
  | copyData (bytes : List UInt8)

inductive Reply where
  /-- A number of rows, each with the same value. -/
  | rows (count : Nat) (value : Option String)
  | failure (e : Error)
  deriving DecidableEq, Repr

structure Replies where
  /-- The replies, procedures by name and other statements by a word for their purpose. -/
  replies : List (String × Reply)
  /-- What the server got, the newest first. -/
  log : List Trace
  received : Array UInt8

def Purpose.key : Purpose → String
  | begin => "begin"
  | commit => "commit"
  | rollback => "rollback"
  | create => "create"
  | comment => "comment"
  | tableOid => "oid"
  | procedure name => name
  | copy => "copy_start"

namespace Replies

def ofList (replies : List (String × Reply)) : Replies := ⟨replies, [], #[]⟩

def reply? (s : Replies) (key : String) : Option Reply :=
  (s.replies.find? fun r => r.1 = key).map (·.2)

def failure? (s : Replies) (key : String) : Option Error :=
  match s.reply? key with
  | some (.failure e) => some e
  | _ => none

def record (s : Replies) (t : Trace) : Replies := { s with log := t :: s.log }

/-- The rows a statement gives when it does not fail. -/
def rows (s : Replies) : Purpose → List (Option String)
  | .procedure name =>
    match s.reply? name with
    | some (.rows count value) => List.replicate count value
    | _ => [none]
  | .tableOid => [some (toString firstOid)]
  | _ => []

def server : Server Replies where
  run := fun statement => do
    modify (·.record (.sql statement.text statement.parameters))
    let s ← get
    match s.failure? statement.purpose.key with
    | some e => return .error e
    | none => return .ok (s.rows statement.purpose)
  copyIn := fun statement => do
    modify fun s => { s.record (.sql statement.text none) with received := #[] }
    match (← get).failure? statement.purpose.key with
    | some e => return .error e
    | none => return .ok ()
  write := fun bytes => do
    modify fun s => { s with received := s.received ++ bytes.toArray }
    return .ok ()
  flush := return .ok ()
  finish := do
    let bytes := (← get).received.toList
    modify (·.record (.copyData bytes))
    match (← get).failure? "copy_finish" with
    | some e => return .error e
    | none => return .ok (lineFeeds bytes)

end Replies

end Intake.Database
