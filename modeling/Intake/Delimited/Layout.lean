/-
  Intake.Delimited.Layout — the columns of a table, and whether its first row names them.

  When nobody says so, the first row is taken for a header if it has headings, no more data than
  headings, and if more columns speak for a header than against it: a heading over data, or over
  values that differ from it, speaks for one; data over data speaks against it.
-/

import Intake.Column.Name
import Intake.Delimited.Cell
import Intake.Delimited.Record

namespace Intake.Delimited

structure Layout where
  headers : List String
  hasHeader : Bool
  deriving DecidableEq, Repr

/-- How many rows are looked at to see whether the first is a header. -/
def sampleRows : Nat := 6

/-- The cells of other rows below a cell. -/
def below (column : Nat) (rows : List (List String)) : List String :=
  rows.filterMap fun row => row[column]?

/-- What a column says about the first row. -/
inductive Signal where
  | header
  | data
  | silent
  deriving DecidableEq, Repr

def signal (others : List (List String)) (column : Nat) (cell : String) : Signal :=
  let cells := below column others
  let overData := cells.any Cell.looksLikeData
  let repeated := cells.any fun other => Text.trim other = Text.trim cell
  if Cell.looksLikeHeading cell ∧ (overData ∨ !repeated) then .header
  else if Cell.looksLikeData cell ∧ overData then .data
  else .silent

def signals (first : List String) (others : List (List String)) : List Signal :=
  first.mapIdx fun column cell => signal others column cell

/-- Whether the first row is a header, as far as the rows tell. -/
def infersHeader (first : List String) (others : List (List String)) : Bool :=
  let headings := first.countP Cell.looksLikeHeading
  let data := first.countP Cell.looksLikeData
  if headings = 0 then false
  else if data > headings then false
  else if others.isEmpty then data = 0
  else (signals first others).count .header > (signals first others).count .data

def layoutOf (header : Option Bool) : List (List String) → Layout
  | [] => ⟨[], header.getD true⟩
  | first :: others =>
    let hasHeader := header.getD (infersHeader first others)
    ⟨if hasHeader then first else Column.placeholders first.length, hasHeader⟩

def rowsWanted (header : Option Bool) : Nat := if header.isSome then 1 else sampleRows

/-- The rows that a layout is read from, if there are as many. -/
def firstRows (header : Option Bool) (records : List (Except RecordError (List String))) :
    Except RecordError (List (List String)) :=
  (records.take (rowsWanted header)).mapM id

def layout (d : Dialect) (header : Option Bool) (bytes : List UInt8) :
    Except RecordError Layout := do
  return layoutOf header (← firstRows header (records d bytes))

end Intake.Delimited
