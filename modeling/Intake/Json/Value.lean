/-
  Intake.Json.Value — JSON values as data.

  Numbers are integers or floating point numbers, and stay what they were written as. An object
  that is data has its members in ascending order of their keys, each key once; in a report they
  stand in the order in which the report is made.
-/

import Intake.Numeric.Binary64

namespace Intake

inductive Json.Number where
  | int (value : Int)
  | real (value : Numeric.Binary64)
  deriving DecidableEq, Repr

inductive Json where
  | null
  | bool (value : Bool)
  | number (value : Json.Number)
  | string (value : String)
  | array (items : List Json)
  | object (members : List (String × Json))
  deriving Inhabited

namespace Json

abbrev Members := List (String × Json)

namespace Members

/-- Adds a member at its place; one of the same key is replaced. -/
def insert (key : String) (value : Json) : Members → Members
  | [] => [(key, value)]
  | m :: ms =>
    if key < m.1 then (key, value) :: m :: ms
    else if key = m.1 then (key, value) :: ms
    else m :: insert key value ms

/-- The members in order; of several with one key the last counts. -/
def ofList (ms : List (String × Json)) : Members :=
  ms.foldl (fun done m => insert m.1 m.2 done) []

def get? (members : Members) (key : String) : Option Json :=
  (members.find? fun m => m.1 = key).map (·.2)

def has (members : Members) (key : String) : Bool := (get? members key).isSome

end Members

def int (n : Int) : Json := .number (.int n)

def nat (n : Nat) : Json := .int n

def ofMembers (ms : List (String × Json)) : Json := .object (Members.ofList ms)

def ofText? : Option String → Json
  | some s => .string s
  | none => .null

def get? : Json → String → Option Json
  | object members, key => Members.get? members key
  | _, _ => none

def isNull : Json → Bool
  | null => true
  | _ => false

/-- The kind of value in words, as messages name it. -/
def kind : Json → String
  | null => "null"
  | bool _ => "a boolean"
  | number _ => "a number"
  | string _ => "a string"
  | array _ => "an array"
  | object _ => "an object"

/-- Whether a value counts as given: not null, false, zero or empty. -/
def isTruthy : Json → Bool
  | null => false
  | bool b => b
  | number (.int n) => n ≠ 0
  | number (.real x) => !x.isZero
  | string s => s ≠ ""
  | array items => !items.isEmpty
  | object members => !members.isEmpty

end Json

end Intake
