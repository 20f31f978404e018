/-
  Intake.Load.Error — why a file cannot be loaded.
-/

import Intake.Charset.Label
import Intake.Database.Error
import Intake.Delimited.Record
import Intake.Sql.Identifier
import Intake.Storage.Files

namespace Intake.Load

inductive LoadError where
  | charset (e : Charset.UnknownLabel)
  | dialect (e : Delimited.DialectError)
  /-- The file cannot be opened. -/
  | opening (path : String) (e : Storage.FileError)
  /-- The file cannot be read. -/
  | reading (path : String) (e : Storage.FileError)
  /-- The sample of the file ends inside a character. -/
  | cutCharacter (path : String)
  /-- The file cannot be read to its end while it is converted. -/
  | transcoding (path : String) (message : String)
  | record (e : Delimited.RecordError)
  /-- The file cannot be read record by record. -/
  | records (e : Storage.FileError)
  | noColumns (path : String)
  | identifier (e : Sql.IdentifierError)
  | createTable (table : String) (e : Database.Error)
  | copyStart (table : String) (e : Database.Error)
  | stream (table : String) (message : String)
  /-- The load failed at its end, and the table is left in place. -/
  | finish (table : String) (oid : Nat) (e : Database.Error)
  deriving DecidableEq, Repr

namespace LoadError

/-- What was done to a file, which file, and what went wrong. -/
def about (action path cause : String) : String :=
  action ++ " " ++ Text.Quoted.quote path ++ ": " ++ cause

def message : LoadError → String
  | charset e => e.message
  | dialect e => e.message
  | opening path e => about "Opening" path e.message
  | reading path e => about "Reading" path e.message
  | cutCharacter path => about "Reading" path "stream did not contain valid UTF-8"
  | transcoding path m => about "Transcoding" path m
  | record e => e.message
  | records e => "Parsing delimited text: " ++ e.message
  | noColumns path => "No columns found in " ++ Text.Quoted.quote path
  | identifier e => e.message
  | createTable table e => "Preparing table " ++ table ++ ": " ++ e.message
  | copyStart table e => "Starting bulk load into " ++ table ++ ": " ++ e.message
  | stream table m => "Streaming rows into " ++ table ++ ": " ++ m
  | finish table oid e =>
    "Bulk load into " ++ table ++ " (oid " ++ toString oid ++
      ") failed and the table was left in place: " ++ e.message

end LoadError

end Intake.Load
