/-
  Intake.Delimited.Record — the records of a delimited text.

  A record ends at a carriage return, a line feed, or both, or at the end of the text; empty lines
  are no records. A field that begins with a quote runs to the quote that closes it, over
  delimiters and line ends; what follows the closing quote belongs to the field as it is. Records
  may differ in length. The text is read byte by byte, and each record remembers where reading had
  come to when it was asked for.
-/

import Intake.Charset.Mark
import Intake.Delimited.Dialect
import Intake.Text.Utf8

namespace Intake.Delimited

/-- How far reading has come: records and bytes read, and the number of the line. -/
structure Cursor where
  record : Nat
  line : Nat
  byte : Nat
  deriving DecidableEq, Repr

/-- A record as bytes, and where it starts. -/
structure RawRecord where
  start : Cursor
  fields : List (List UInt8)
  deriving DecidableEq, Repr

namespace RawRecord

/-- Where the reader stands. -/
inductive Place where
  | recordStart
  /-- After the carriage return that ended a record. -/
  | afterReturn
  | fieldStart
  | inField
  | inQuotes
  /-- Inside quotes, after the escape. -/
  | escaped
  /-- After a quote inside quotes. -/
  | afterQuote
  deriving DecidableEq

structure ReaderState where
  place : Place
  /-- Where the current record starts. -/
  start : Cursor
  here : Cursor
  /-- The fields of the current record, last first. -/
  fields : List (List UInt8)
  /-- The bytes of the current field, last first. -/
  cell : List UInt8

namespace ReaderState

/-- The byte belongs to the field. -/
def keep (s : ReaderState) (place : Place) (b : UInt8) : ReaderState × List RawRecord :=
  ({ s with place, cell := b :: s.cell }, [])

/-- The byte only moves the reader. -/
def move (s : ReaderState) (place : Place) : ReaderState × List RawRecord := ({ s with place }, [])

def endField (s : ReaderState) : ReaderState × List RawRecord :=
  ({ s with place := .fieldStart, fields := s.cell.reverse :: s.fields, cell := [] }, [])

def record (s : ReaderState) : RawRecord := ⟨s.start, (s.cell.reverse :: s.fields).reverse⟩

def endRecord (s : ReaderState) (b : UInt8) : ReaderState × List RawRecord :=
  let next : Cursor := { s.here with record := s.here.record + 1 }
  (⟨if b = 0x0D then .afterReturn else .recordStart, next, next, [], []⟩, [s.record])

def count (s : ReaderState) (b : UInt8) : ReaderState :=
  let here := s.here
  { s with here :=
    { here with line := if b = 0x0A then here.line + 1 else here.line, byte := here.byte + 1 } }

end ReaderState

def isLineEnd (b : UInt8) : Bool := b = 0x0D || b = 0x0A

/-- A byte outside quotes that begins or continues a field. -/
def bare (d : Dialect) (s : ReaderState) (b : UInt8) : ReaderState × List RawRecord :=
  if b = d.delimiter then s.endField
  else if isLineEnd b then s.endRecord b
  else s.keep .inField b

def opening (d : Dialect) (s : ReaderState) (b : UInt8) : ReaderState × List RawRecord :=
  if b = d.quote then s.move .inQuotes else bare d s b

def beginning (d : Dialect) (s : ReaderState) (b : UInt8) : ReaderState × List RawRecord :=
  if isLineEnd b then s.move .recordStart else opening d s b

def place (d : Dialect) (s : ReaderState) (b : UInt8) : ReaderState × List RawRecord :=
  match s.place with
  | .recordStart => beginning d s b
  | .afterReturn => if b = 0x0A then s.move .recordStart else beginning d s b
  | .fieldStart => opening d s b
  | .inField => bare d s b
  | .inQuotes =>
    if b = d.quote then s.move .afterQuote
    else if d.effectiveEscape = some b then s.move .escaped
    else s.keep .inQuotes b
  | .escaped => s.keep .inQuotes b
  | .afterQuote =>
    if d.effectiveEscape = none ∧ b = d.quote then s.keep .inQuotes b else bare d s b

/-- The record that the end of the text ends. -/
def last (s : ReaderState) : List RawRecord :=
  match s.place with
  | .recordStart | .afterReturn => []
  | _ => [s.record]

/-- Reads records after `skipped` bytes that are no part of the text. -/
def reader (d : Dialect) (skipped : Nat) : Text.Machine UInt8 RawRecord where
  State := ReaderState
  start := ⟨.recordStart, ⟨0, 1, 0⟩, ⟨0, 1, skipped⟩, [], []⟩
  step := fun s b => place d (s.count b) b
  finish := last

/-- The records of a text; a mark of UTF-8 at its start is skipped. -/
def ofBytes (d : Dialect) (bytes : List UInt8) : List RawRecord :=
  let skipped := Charset.utf8.ownMarkLength bytes
  (reader d skipped).run (bytes.drop skipped)

/-- The records that have ended in a text of which more may follow. -/
def before (d : Dialect) (bytes : List UInt8) : List RawRecord :=
  let skipped := Charset.utf8.ownMarkLength bytes
  (reader d skipped).before (bytes.drop skipped)

end RawRecord

/-- The record has a field that is not UTF-8. -/
structure RecordError where
  start : Cursor
  field : Nat
  /-- How many bytes of the field are well-formed. -/
  valid : Nat
  deriving DecidableEq, Repr

def RecordError.message (e : RecordError) : String :=
  "Parsing delimited text: CSV parse error: record " ++ toString e.start.record ++ " (line " ++
    toString e.start.line ++ ", field: " ++ toString e.field ++ ", byte: " ++
    toString e.start.byte ++ "): invalid utf-8: invalid UTF-8 in field " ++ toString e.field ++
    " near byte index " ++ toString e.valid

/-- The texts of fields, the first of them being number `index`. -/
def textsFrom (start : Cursor) (index : Nat) : List (List UInt8) → Except RecordError (List String)
  | [] => .ok []
  | field :: fields =>
    match Text.Utf8.decodeString? field with
    | none => .error ⟨start, index, Text.Utf8.validLength field⟩
    | some s => do
      let rest ← textsFrom start (index + 1) fields
      return s :: rest

def RawRecord.texts (r : RawRecord) : Except RecordError (List String) :=
  textsFrom r.start 0 r.fields

/-- The records of a text, each with its fields as texts. -/
def records (d : Dialect) (bytes : List UInt8) : List (Except RecordError (List String)) :=
  (RawRecord.ofBytes d bytes).map RawRecord.texts

def recordsBefore (d : Dialect) (bytes : List UInt8) : List (Except RecordError (List String)) :=
  (RawRecord.before d bytes).map RawRecord.texts

end Intake.Delimited
