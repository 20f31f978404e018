/-
  Intake.Column.Name — column names from header cells.

  A header cell becomes a name the server accepts: NUL is dropped, other control characters
  become spaces, and what is left is trimmed and cut to the length the server keeps. An empty
  cell is named after its position. A name already taken, or reserved for the key column, gets
  its position as a suffix, and a counter after it while that is taken too; the cut then leaves
  room for the suffix.
-/

import Intake.Sql.Identifier
import Intake.Text.Blank

namespace Intake.Column

/-- Names the created table holds already: its key column. -/
def reservedNames : List String := ["id"]

def placeholder (position : Nat) : String := "Column " ++ toString position

def placeholders (count : Nat) : List String := (List.range count).map placeholder

/-- The longest beginning of a name that fits into `limit` bytes. -/
def truncate (name : String) (limit : Nat) : String :=
  String.ofList (Text.Utf8.takeBytes limit name.toList)

def clean (cell : String) : String :=
  let spaced := (cell.toList.filter (· ≠ '\x00')).map fun c => if Text.isControl c then ' ' else c
  String.ofList
    (Text.trimEnd (Text.Utf8.takeBytes Sql.maxIdentifierBytes (Text.trimChars spaced)))

/-- The name a cell asks for. -/
def wanted (position : Nat) (cell : String) : String :=
  let name := clean cell
  if name.toList = [] then placeholder position else name

def suffix (position attempt : Nat) : String :=
  if attempt = 0 then "_" ++ toString position
  else "_" ++ toString position ++ "_" ++ toString attempt

/-- The name with the suffix of an attempt, cut so that both fit. -/
def candidate (name : String) (position attempt : Nat) : String :=
  let tail := suffix position attempt
  truncate name (Sql.maxIdentifierBytes - tail.utf8ByteSize) ++ tail

/-- The first candidate not taken among `tries` attempts, the last one if all are. -/
def firstFree (name : String) (position : Nat) (taken : List String) : Nat → Nat → String
  | attempt, 0 => candidate name position attempt
  | attempt, tries + 1 =>
    let c := candidate name position attempt
    if c ∈ taken then firstFree name position taken (attempt + 1) tries else c

/-- Two attempts can give one name, so a free one is among the first `taken.length + 2`. -/
def disambiguate (name : String) (position : Nat) (taken : List String) : String :=
  firstFree name position taken 0 (taken.length + 1)

def unique (taken : List String) (position : Nat) (cell : String) : String :=
  let name := wanted position cell
  if name ∈ taken then disambiguate name position taken else name

/-- Names for the cells from `position` on; `taken` are the names so far, newest first. -/
def nameFrom (taken : List String) (position : Nat) : List String → List String
  | [] => []
  | cell :: cells =>
    let name := unique taken position cell
    name :: nameFrom (name :: taken) (position + 1) cells

def names (cells : List String) : List String := nameFrom reservedNames 0 cells

end Intake.Column
