/-
  Intake.Load.Inspect — what a file tells about itself: its encoding, its delimiter, and its
  columns.

  A file is looked at as text, whatever it is in. The delimiter is guessed from a sample of the
  text of a fixed length in bytes; a sample that ends inside a character is refused. A failure of
  the file is met only by one who has to read so far: nothing is read beyond a sample or beyond the
  rows that are looked at.
-/

import Intake.Charset.Detect
import Intake.Charset.Decoder
import Intake.Delimited.Layout
import Intake.Delimited.Sniff
import Intake.Load.Error

namespace Intake.Load

open Storage (Files Entry)

def openFile (files : Files) (path : String) : Except LoadError Entry :=
  (files.openEntry path).mapError (.opening path)

def detectCharset (files : Files) (path : String) : Except LoadError Charset := do
  let reading := (← openFile files path).reading
  (reading.demand (Charset.sampleBytes ≤ reading.bytes.length)).mapError (.reading path)
  return Charset.detectFile reading.bytes

def sampleBytes : Nat := 65536

/-- The first bytes of a text as characters; none if they end inside a character. -/
def sample? (cs : List Char) : Option (List Char) :=
  let sample := Text.Utf8.takeBytes sampleBytes cs
  if sample.length = cs.length ∨ Text.Utf8.byteLength sample = sampleBytes then some sample
  else none

/-- The delimiter of a file whose text does not show one. -/
def defaultDelimiterOf (path : String) : UInt8 :=
  match Storage.Path.extension? path with
  | some e =>
    if e.toList.map Char.toLower = "tsv".toList then 0x09 else Delimited.defaultDelimiter
  | none => Delimited.defaultDelimiter

variable [Codecs]

/-- The text of a file as far as it can be read. -/
def textOf (charset : Charset) (reading : Storage.Reading) : List Char :=
  match reading.failure? with
  | none => charset.inspect reading.bytes
  | some _ => charset.inspectBefore reading.bytes

def sniffDelimiter (files : Files) (path : String) (charset : Charset) (quote : UInt8) :
    Except LoadError UInt8 := do
  let reading := (← openFile files path).reading
  let text := textOf charset reading
  (reading.demand (sampleBytes ≤ Text.Utf8.byteLength text)).mapError (.reading path)
  match sample? text with
  | none => .error (.cutCharacter path)
  | some sample => return (Delimited.sniff sample quote).getD (defaultDelimiterOf path)

/-- The records of a file as far as it can be read. -/
def recordsOf (dialect : Delimited.Dialect) (charset : Charset) (reading : Storage.Reading) :
    List (Except Delimited.RecordError (List String)) :=
  let bytes := Text.Utf8.encode (textOf charset reading)
  match reading.failure? with
  | none => Delimited.records dialect bytes
  | some _ => Delimited.recordsBefore dialect bytes

def layoutOf (files : Files) (path : String) (dialect : Delimited.Dialect) (charset : Charset)
    (header : Option Bool) : Except LoadError Delimited.Layout := do
  let reading := (← openFile files path).reading
  let rows ← (Delimited.firstRows header (recordsOf dialect charset reading)).mapError .record
  (reading.demand (Delimited.rowsWanted header ≤ rows.length)).mapError .records
  return Delimited.layoutOf header rows

end Intake.Load
