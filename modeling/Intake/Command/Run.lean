/-
  Intake.Command.Run — the commands carried out.

  What a command reads it reads before it turns to the database. An import happens in one
  transaction; a change of columns is one call and needs none. A command that fails shows one line
  about it and nothing else.
-/

import Intake.Alteration.Apply
import Intake.Command.Settings
import Intake.Database.Session
import Intake.Load.Import

namespace Intake.Command

open Database (Server)
open Storage (Files)

/-- What surrounds the program. -/
structure Environment (σ : Type) where
  files : Files
  stdin : List UInt8
  databaseUrl : Option String
  /-- Whether there is a server where a connection string says. -/
  reach : String → Bool
  server : Server σ

/-- What is there when the program has ended. -/
structure Outcome where
  exitCode : UInt8
  stdout : String
  stderr : String
  files : Files

variable {σ : Type}

abbrev Task (σ α : Type) := ExceptT CommandError (StateM σ) α

def Task.check {ε α : Type} (wrap : ε → CommandError) (x : Except ε α) : Task σ α :=
  ExceptT.mk (pure (x.mapError wrap))

def Task.lift {ε α : Type} (wrap : ε → CommandError) (x : StateM σ (Except ε α)) : Task σ α :=
  ExceptT.mk do return (← x).mapError wrap

/-- The server a command is to work with. -/
def connect (env : Environment σ) (c : Connection) : Task σ (Server σ) :=
  match c.target with
  | none => throw .noConnection
  | some target => if env.reach target then return env.server else throw .connecting

/-! ## Commands -/

/-- The descriptor of a file, as it was prepared. -/
def descriptorOf (files : Files) (p : Load.Prepared) : Descriptor where
  path := Storage.Path.absolute files.homePath p.path
  header := some p.hasHeader
  delimiter := some (Delimited.byteChar p.dialect.delimiter)
  quote := Delimited.byteChar p.dialect.quote
  escape := p.dialect.escape.map Delimited.byteChar
  encoding := some p.transfer.source.name

/-- Writes down how a file is read, if that is asked for. -/
def saveDescriptor (files : Files) (p : Load.Prepared) :
    Option String → Except CommandError Files
  | none => .ok files
  | some target => ((descriptorOf files p).save files target).mapError (.saving target)

/-- What a file tells about itself, and the files after it. -/
def probe [Codecs] (files : Files) (flags : FileFlags) (save : Option String) :
    Except CommandError (Json × Files) := do
  let s ← settings files flags
  let p ← (Load.prepare files s.path s.header s.dialect s.charset).mapError (.probing s.path)
  let files ← saveDescriptor files p save
  return (.object p.members, files)

def load [Codecs] (env : Environment σ) (flags : FileFlags) (schema table : String)
    (comment : Option String) (c : Connection) : Task σ Json := do
  let s ← Task.check id (settings env.files flags)
  let server ← connect env c
  let request : Load.Request := ⟨s.path, s.header, s.dialect, s.charset, schema, table, comment⟩
  let db := Database.Session.database server c.procedures
  let wrap : Database.Session.TransactionError Load.LoadError → CommandError
    | .begin e => .beginning e
    | .body e => .importing s.path e
    | .commit e => .committing e
  let imported ← Task.lift wrap
    (Database.Session.transaction server (Load.importFile db env.files request).run)
  return .object imported.members

def alter (env : Environment σ) (table : Nat) (attnum : Int) (request : String) (dryRun : Bool)
    (c : Connection) : Task σ Json := do
  let v ← Task.check .input (readJson env.files env.stdin request)
  if dryRun then
    let change ← Task.check (fun e => .alteration (.invalid e))
      (Alteration.normalize v (some attnum))
    return change.report
  let server ← connect env c
  let change ← Task.lift .alteration
    (Alteration.alterColumn (Database.Session.database server c.procedures) table attnum v).run
  return change.report

/-- The changes that items ask for, none of which is carried out. -/
def plan (items : List Json) : Except Alteration.Invalid (List Alteration.Change) := do
  Alteration.checkBatch items
  items.mapM fun item => Alteration.normalize item none

def batchUpdate (env : Environment σ) (table : Nat) (request : String) (dryRun : Bool)
    (c : Connection) : Task σ Json := do
  let items ← Task.check .input (readArray env.files env.stdin request)
  if dryRun then
    let changes ← Task.check (fun e => .alteration (.invalid e)) (plan items)
    return .array (changes.map (·.report))
  let server ← connect env c
  let changes ← Task.lift .alteration
    (Alteration.updateColumns (Database.Session.database server c.procedures) table items).run
  return .array (changes.map (·.report))

def dropColumns (env : Environment σ) (table : Nat) (request : String) (c : Connection) :
    Task σ Json := do
  let items ← Task.check .input (readArray env.files env.stdin request)
  let server ← connect env c
  let dropped ← Task.lift .alteration
    (Alteration.dropColumns (Database.Session.database server c.procedures) table items).run
  return .array (dropped.map .int)

/-! ## Outcomes -/

def version : String := "tabledesk 0.1.0"

def help : String :=
  purpose ++ "\n\nUsage: tabledesk <COMMAND>\n\nCommands:\n" ++
    String.join (commandNames.map fun name => "  " ++ name ++ "\n")

def failed (files : Files) (e : CommandError) : Outcome :=
  ⟨1, "", "error: " ++ e.message ++ "\n", files⟩

def finished (files : Files) : Except CommandError Json → Outcome
  | .ok v => ⟨0, v.report, "", files⟩
  | .error e => failed files e

/-- The outcome of a command that leaves the files as they are. -/
def finish (env : Environment σ) (task : Task σ Json) : StateM σ Outcome := do
  return finished env.files (← task.run)

def Invocation.run [Codecs] (env : Environment σ) : Invocation → StateM σ Outcome
  | .probe flags save =>
    match Command.probe env.files flags save with
    | .ok (v, files) => return finished files (.ok v)
    | .error e => return failed env.files e
  | .load flags schema table comment c =>
    finish env (Command.load env flags schema table comment c)
  | .alter table attnum request dryRun c =>
    finish env (Command.alter env table attnum request dryRun c)
  | .batchUpdate table request dryRun c =>
    finish env (Command.batchUpdate env table request dryRun c)
  | .dropColumns table request c => finish env (Command.dropColumns env table request c)
  | .version => return ⟨0, Command.version ++ "\n", "", env.files⟩
  | .help => return ⟨0, Command.help, "", env.files⟩

def run [Codecs] (env : Environment σ) (args : List String) : StateM σ Outcome :=
  match parse env.databaseUrl args with
  | .ok invocation => invocation.run env
  | .error e => return ⟨2, "", e.message ++ "\n", env.files⟩

end Intake.Command
