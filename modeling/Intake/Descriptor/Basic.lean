/-
  Intake.Descriptor.Basic — a descriptor: a file that records how a data file is to be read.

  It is a mapping; of its keys only the path is required. A relative path is meant from the
  directory of the descriptor. Keys that are not known say nothing.
-/

import Intake.Charset.Label
import Intake.Delimited.Dialect
import Intake.Storage.Path
import Intake.Yaml.Node
import Intake.Yaml.Writer

namespace Intake

structure Descriptor where
  path : String
  header : Option Bool
  delimiter : Option Char
  quote : Char
  escape : Option Char
  encoding : Option String
  deriving DecidableEq, Repr

namespace Descriptor

def defaultQuote : Char := '\"'

open Yaml (Document Node Scalar)

/-! ## Reading -/

def entries? (d : Document) : Option (List (Scalar × Node)) := do
  (← d.entries?).mapM fun e => (d.scalar? e.1).map fun key => (key, e.2)

/-- The value under a key; `none` outside says that the key is there more than once. -/
def lookup? (entries : List (Scalar × Node)) (key : String) : Option (Option Node) :=
  match entries.filter fun e => e.1.text = key with
  | [] => some none
  | [e] => some (some e.2)
  | _ => none

/-- The scalar under a key, which may be missing. -/
def scalar? (d : Document) (entries : List (Scalar × Node)) (key : String) :
    Option (Option Scalar) := do
  match ← lookup? entries key with
  | none => some none
  | some node => (d.scalar? node).map some

/-- A scalar that may be missing or null; any other has to be one that `read` takes. -/
def optional? {α : Type} (read : Scalar → Option α) : Option Scalar → Option (Option α)
  | none => some none
  | some s => do if ← s.isNull? then some none else (read s).map some

/-- The descriptor that a document is. The path and the quote are texts even if they say null. -/
def ofDocument? (d : Document) : Option Descriptor := do
  let find := scalar? d (← entries? d)
  let path ← (← find "path").map Scalar.text
  let header ← optional? Scalar.bool? (← find "header")
  let delimiter ← optional? Scalar.char? (← find "delimiter")
  let quote ← match ← find "quotechar" with
    | none => some defaultQuote
    | some s => s.char?
  let escape ← optional? Scalar.char? (← find "escapechar")
  let encoding ← optional? (fun s => some s.text) (← find "encoding")
  return ⟨path, header, delimiter, quote, escape, encoding⟩

def read? (bytes : List UInt8) : Option Descriptor := (Document.read? bytes).bind ofDocument?

/-- The descriptor as it is meant when it is read from a file. -/
def locatedAt (d : Descriptor) (file : String) : Descriptor :=
  match Storage.Path.parent? file with
  | some directory => { d with path := Storage.Path.join directory d.path }
  | none => d

/-! ## Writing -/

def entry {α : Type} (key : String) (write : α → List Char) (value : Option α) : List Char :=
  match value with
  | some a => Yaml.Writer.entry key (write a)
  | none => []

/-- The text of a descriptor. What is not recorded has no entry. -/
def write (d : Descriptor) : List Char :=
  Yaml.Writer.entry "path" (Yaml.Writer.text d.path) ++
    entry "header" (fun b => (if b then "true" else "false").toList) d.header ++
    entry "delimiter" Yaml.Writer.char d.delimiter ++
    Yaml.Writer.entry "quotechar" (Yaml.Writer.char d.quote) ++
    entry "escapechar" Yaml.Writer.char d.escape ++
    entry "encoding" Yaml.Writer.text d.encoding

/-! ## What it says -/

/-- A character of a descriptor that is no byte of a dialect, or a dialect that is none. -/
inductive DialectError where
  | notAscii (field : String) (c : Char)
  | dialect (e : Delimited.DialectError)
  deriving DecidableEq, Repr

def DialectError.message : DialectError → String
  | notAscii field c =>
    field ++ " must be an ASCII character (got '" ++ String.singleton c ++ "')"
  | dialect e => e.message

def asciiByte (field : String) (c : Char) : Except DialectError UInt8 :=
  if c.toNat < 128 then .ok (UInt8.ofNat c.toNat) else .error (.notAscii field c)

/-- The dialect of the data file, if a delimiter is recorded. -/
def dialect (d : Descriptor) : Except DialectError (Option Delimited.Dialect) :=
  match d.delimiter with
  | none => .ok none
  | some c => do
    let delimiter ← asciiByte "delimiter" c
    let quote ← asciiByte "quotechar" d.quote
    let escape ← d.escape.mapM (asciiByte "escapechar")
    let dialect ← (Delimited.Dialect.make delimiter quote escape).mapError .dialect
    return some dialect

def charset (d : Descriptor) : Except Charset.UnknownLabel (Option Charset) :=
  d.encoding.mapM Charset.resolve

end Descriptor

end Intake
