/-
  Intake.Load.Prepare — the plan by which a file is loaded: how it is read and which columns it
  gives. What is not prescribed is found out from the file.
-/

import Intake.Json.Value
import Intake.Load.Inspect

namespace Intake

def Delimited.Dialect.members (d : Delimited.Dialect) : List (String × Json) :=
  let char (b : UInt8) : Json := .string (String.singleton (Delimited.byteChar b))
  [("delimiter", char d.delimiter), ("quote", char d.quote),
   ("escape", (d.escape.map char).getD .null)]

def Charset.Transfer.members (t : Charset.Transfer) : List (String × Json) :=
  [("source", .string t.source.name), ("transfer", .string t.sent.name),
   ("declared", .string t.declared)]

namespace Load

open Storage (Files)

structure Prepared where
  path : String
  transfer : Charset.Transfer
  dialect : Delimited.Dialect
  hasHeader : Bool
  /-- The cells of the header as they are in the file. -/
  headers : List String
  columns : List String
  deriving DecidableEq, Repr

variable [Codecs]

/-- The dialect with the delimiter that the file shows. -/
def sniffDialect (files : Files) (path : String) (charset : Charset) (quote : UInt8)
    (escape : Option UInt8) : Except LoadError Delimited.Dialect := do
  let delimiter ← sniffDelimiter files path charset quote
  (Delimited.Dialect.make delimiter quote escape).mapError .dialect

def prepare (files : Files) (path : String) (header : Option Bool)
    (dialect : Option Delimited.Dialect) (charset : Option Charset) :
    Except LoadError Prepared := do
  let source ← match charset with
    | some c => pure c
    | none => detectCharset files path
  let dialect ← match dialect with
    | some d => pure d
    | none => sniffDialect files path source Delimited.defaultQuote none
  dialect.check.mapError .dialect
  let layout ← layoutOf files path dialect source header
  if layout.headers.isEmpty then .error (.noColumns path)
  else
    return ⟨path, source.transfer, dialect, layout.hasHeader, layout.headers,
      Column.names layout.headers⟩

/-- The plan as JSON, its members in the order in which it is made. -/
def Prepared.members (p : Prepared) : List (String × Json) :=
  [("path", .string p.path), ("encoding", .object p.transfer.members),
   ("dialect", .object p.dialect.members), ("has_header", .bool p.hasHeader),
   ("raw_headers", .array (p.headers.map .string)), ("columns", .array (p.columns.map .string))]

end Load

end Intake
