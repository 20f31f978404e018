/-
  Intake.Descriptor.File — descriptors read from files and written to them.
-/

import Intake.Descriptor.Basic
import Intake.Storage.Files
import Intake.Text.Quoted

namespace Intake.Descriptor

open Storage (Files)

inductive FileError where
  | opening (path : String)
  /-- The file cannot be read or holds no descriptor. -/
  | parsing (path : String)
  | creating (path : String)
  deriving DecidableEq, Repr

def FileError.message : FileError → String
  | opening path => "Opening data file descriptor " ++ Text.Quoted.quote path
  | parsing path => "Parsing data file descriptor " ++ Text.Quoted.quote path
  | creating path => "Creating descriptor " ++ Text.Quoted.quote path

/-- The descriptor in a file, its path as it is meant from here. -/
def load (files : Files) (path : String) : Except FileError Descriptor := do
  let entry ← (files.openEntry path).mapError fun _ => .opening path
  let contents ← entry.read.mapError fun _ => .parsing path
  match read? contents with
  | some d => .ok (d.locatedAt path)
  | none => .error (.parsing path)

def save (d : Descriptor) (files : Files) (path : String) : Except FileError Files :=
  (files.write path (Text.Utf8.encode d.write)).mapError fun _ => .creating path

end Intake.Descriptor
