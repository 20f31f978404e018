/-
  Intake.Command.Error — why a command fails.

  Of a failure with several causes only the outermost is told: what was being done, and to which
  file.
-/

import Intake.Alteration.Failure
import Intake.Command.Input
import Intake.Descriptor.File
import Intake.Load.Error

namespace Intake.Command

inductive CommandError where
  | descriptor (e : Descriptor.FileError)
  /-- The dialect that a descriptor records is none. -/
  | described (e : Descriptor.DialectError)
  /-- No file is named. -/
  | noFile
  /-- The settings of a file cannot be made out. -/
  | settings (e : Load.LoadError)
  | probing (path : String) (e : Load.LoadError)
  | saving (path : String) (e : Descriptor.FileError)
  | noConnection
  | connecting
  | beginning (e : Database.Error)
  | importing (path : String) (e : Load.LoadError)
  | committing (e : Database.Error)
  | input (e : InputError)
  | alteration (e : Alteration.Failure)

def CommandError.message : CommandError → String
  | descriptor e => e.message
  | described e => e.message
  | noFile => "Either --input or --data-file is required"
  | settings e => e.message
  | probing path _ => "Probing " ++ Text.Quoted.quote path
  | saving path _ => "Writing data file descriptor to " ++ Text.Quoted.quote path
  | noConnection => "A connection string is required (--connection or DATABASE_URL)"
  | connecting => "Connecting to the database"
  | beginning _ => "Starting import transaction"
  | importing path _ => "Importing " ++ Text.Quoted.quote path
  | committing _ => "Committing import"
  | input e => e.message
  | alteration e => e.code ++ ": " ++ e.message

end Intake.Command
