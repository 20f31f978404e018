/-
  Intake.Load.Import — a file loaded into a table.

  A file that is converted is converted before anything is asked of the database, so a file that
  cannot be read leaves nothing behind. The bytes that are sent are the file's own, less a mark of
  its encoding, or the converted text.
-/

import Intake.Database.Basic
import Intake.Load.CopyCommand
import Intake.Load.Prepare
import Intake.Stream.Copy
import Intake.Stream.Transcode

namespace Intake.Load

open Storage (Files Entry)

/-- A file that is ready to be sent. -/
inductive Source where
  /-- The file as it is, in the encoding it is in. -/
  | direct (charset : Charset) (events : List Stream.ReadEvent)
  | transcoded (text : List UInt8)

/-- What comes out of an opened file. -/
def eventsOf (entry : Entry) : List Stream.ReadEvent :=
  .data entry.reading.bytes :: (entry.reading.failure?.map fun e => .failed e.message).toList

def openSource [Codecs] (files : Files) (p : Prepared) : Except LoadError Source := do
  let entry ← openFile files p.path
  if p.transfer.transcodes then
    let text ← (Stream.transcode p.transfer.source (eventsOf entry)).mapError (.transcoding p.path)
    return .transcoded text
  else return .direct p.transfer.source (eventsOf entry)

variable {σ : Type}

/-- A step of a load: it acts on the database and may fail. -/
abbrev Step (σ α : Type) := ExceptT LoadError (StateM σ) α

def Step.lift {ε α : Type} (wrap : ε → LoadError) (x : StateM σ (Except ε α)) : Step σ α :=
  ExceptT.mk do return (← x).mapError wrap

def Step.check {ε α : Type} (wrap : ε → LoadError) (x : Except ε α) : Step σ α :=
  ExceptT.mk (pure (x.mapError wrap))

def copyCommand (table : Database.Table) (p : Prepared) : CopyCommand :=
  ⟨table.schema, table.name, p.columns, p.hasHeader, p.dialect, p.transfer.declared⟩

def sinkOf (db : Database σ) : Stream.Sink σ := ⟨db.write, db.flush⟩

def send (db : Database σ) (source : Source) : ExceptT String (StateM σ) Nat :=
  match source with
  | .direct charset events => Stream.copyWithoutMark charset (sinkOf db) events
  | .transcoded text => Stream.copyChunks (sinkOf db) (Stream.ofBytes text)

/-- Sends an opened source into a table; the number of rows. -/
def stream (db : Database σ) (table : Database.Table) (p : Prepared) (source : Source) :
    Step σ Nat := do
  let command ← Step.check .identifier (copyCommand table p).text
  Step.lift (.copyStart table.display) (db.copyIn command)
  let _ ← Step.lift (.stream table.display) (send db source).run
  Step.lift (.finish table.display table.oid) db.finish

def insert [Codecs] (db : Database σ) (files : Files) (table : Database.Table) (p : Prepared) :
    Step σ Nat := do
  let source ← Step.check id (openSource files p)
  stream db table p source

/-- What to import: a file, what is prescribed about it, and the table to make of it. -/
structure Request where
  path : String
  header : Option Bool
  dialect : Option Delimited.Dialect
  charset : Option Charset
  schema : String
  table : String
  comment : Option String
  deriving DecidableEq, Repr

structure Imported where
  table : Database.Table
  rows : Nat
  transcoded : Bool
  deriving DecidableEq, Repr

def importFile [Codecs] (db : Database σ) (files : Files) (r : Request) : Step σ Imported := do
  let _ ← Step.check .identifier (Sql.Identifier.qualify r.schema r.table)
  let p ← Step.check id (prepare files r.path r.header r.dialect r.charset)
  let source ← Step.check id (openSource files p)
  let table ← Step.lift (.createTable (r.schema ++ "." ++ r.table))
    (db.createTable ⟨r.schema, r.table, p.columns, r.comment⟩)
  let rows ← stream db table p source
  return ⟨table, rows, p.transfer.transcodes⟩

def Imported.members (i : Imported) : List (String × Json) :=
  [("table", .object [("oid", .nat i.table.oid), ("schema", .string i.table.schema),
     ("name", .string i.table.name)]),
   ("rows", .nat i.rows), ("transcoded", .bool i.transcoded)]

end Intake.Load
