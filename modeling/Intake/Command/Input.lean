/-
  Intake.Command.Input — requests read from a file or from standard input.
-/

import Intake.Json.Reader
import Intake.Storage.Files
import Intake.Text.Quoted

namespace Intake.Command

/-- The path that stands for standard input. -/
def standardInput : String := "-"

inductive InputError where
  | opening (path : String)
  /-- The input cannot be read or is not JSON. -/
  | parsing (path : String)
  | notArray (found : Json)

namespace InputError

def kindOf : Json → String
  | .object _ => "an object"
  | .null => "null"
  | _ => "a scalar value"

def message : InputError → String
  | opening path => "Opening request file " ++ Text.Quoted.quote path
  | parsing path =>
    "Parsing JSON from " ++
      (if path = standardInput then "standard input" else Text.Quoted.quote path)
  | notArray v => "Expected a JSON array of column requests, found " ++ kindOf v

end InputError

def inputBytes (files : Storage.Files) (stdin : List UInt8) (path : String) :
    Except InputError (List UInt8) := do
  if path = standardInput then return stdin
  let entry ← (files.openEntry path).mapError fun _ => .opening path
  entry.read.mapError fun _ => .parsing path

def readJson (files : Storage.Files) (stdin : List UInt8) (path : String) :
    Except InputError Json := do
  match Json.parseBytes? (← inputBytes files stdin path) with
  | some v => .ok v
  | none => .error (.parsing path)

def readArray (files : Storage.Files) (stdin : List UInt8) (path : String) :
    Except InputError (List Json) := do
  match ← readJson files stdin path with
  | .array items => .ok items
  | v => .error (.notArray v)

end Intake.Command
