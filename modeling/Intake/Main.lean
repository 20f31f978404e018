/-
  Intake.Main — the program: it looks up the files that the arguments name, runs, and writes what
  was changed.

  It has no connection of its own, so a command that needs a database stops where it connects. The
  decoders of the encodings that this library has no tables for are given to it.
-/

import Intake.Command.Run
import Intake.Database.Replies

namespace Intake.Main

open Storage (Files)

/-- Enters what is at a path, or the directory it would be in. -/
def lookUp (files : Files) (path : String) : IO Files := do
  match ← (IO.FS.readBinFile path).toBaseIO with
  | .ok contents => return files.enter path (.file contents.toList)
  | .error (.noFileOrDirectory ..) =>
    let directory := (Storage.Path.parent? path).getD ""
    if directory = "" then return files
    match ← (IO.FS.readBinFile directory).toBaseIO with
    | .error (.noFileOrDirectory ..) => return files
    | _ => return files.enter directory .directory
  | .error (.hardwareFault ..) => return files.enter path (.damaged [])
  | .error _ => return files.enter path .directory

/-- Enters the files that a command reads or writes. -/
def gather (files : Files) (invocation : Command.Invocation) : IO Files := do
  let flags := invocation.fileFlags?
  let named := (flags.bind (·.input)).toList ++ (flags.bind (·.dataFile)).toList ++
    invocation.request?.toList ++ invocation.save?.toList
  let files ← named.foldlM lookUp files
  match (flags.bind (·.dataFile)).map (Descriptor.load files) with
  | some (.ok descriptor) => lookUp files descriptor.path
  | _ => return files

/-- Runs the program and writes the file that it was asked to write; the exit code. -/
def run [Codecs] (args : List String) : IO UInt32 := do
  let databaseUrl ← IO.getEnv "DATABASE_URL"
  let home := Storage.Path.parts (← IO.currentDir).toString
  let invocation := (Command.parse databaseUrl args).toOption
  let files ← match invocation with
    | some i => gather (.empty home) i
    | none => pure (.empty home)
  let stdin ← match invocation.bind (·.request?) with
    | some path =>
      if path = Command.standardInput then pure (← (← IO.getStdin).readBinToEnd).toList
      else pure []
    | none => pure []
  let env : Command.Environment Database.Replies :=
    ⟨files, stdin, databaseUrl, fun _ => false, Database.Replies.server⟩
  let outcome := ((Command.run env args).run (.ofList [])).1
  match invocation.bind (·.save?) with
  | some target =>
    match outcome.exitCode, outcome.files.read target with
    | 0, .ok contents => IO.FS.writeBinFile target ⟨contents.toArray⟩
    | _, _ => pure ()
  | none => pure ()
  IO.print outcome.stdout
  IO.eprint outcome.stderr
  return outcome.exitCode.toUInt32

end Intake.Main
