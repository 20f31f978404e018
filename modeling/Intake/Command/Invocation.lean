/-
  Intake.Command.Invocation — the commands of the program and what they are given.
-/

import Intake.Command.Arguments
import Intake.Database.Session

namespace Intake.Command

/-- How to read a file, as far as it is given on the command line. -/
structure FileFlags where
  input : Option String
  dataFile : Option String
  delimiter : Option UInt8
  quote : Option UInt8
  escape : Option UInt8
  /-- Whether the first row is a header. -/
  header : Option Bool
  encoding : Option String
  deriving DecidableEq, Repr

/-- Where the database is, and the schema of its procedures. -/
structure Connection where
  target : Option String
  procedures : String
  deriving DecidableEq, Repr

inductive Invocation where
  | probe (file : FileFlags) (save : Option String)
  | load (file : FileFlags) (schema table : String) (comment : Option String)
    (connection : Connection)
  | alter (table : Nat) (attnum : Int) (request : String) (dryRun : Bool)
    (connection : Connection)
  | batchUpdate (table : Nat) (request : String) (dryRun : Bool) (connection : Connection)
  | dropColumns (table : Nat) (request : String) (connection : Connection)
  /-- To show the version. -/
  | version
  /-- To show what can be done. -/
  | help
  deriving DecidableEq, Repr

namespace Invocation

/-- How a file is to be read, of a command that reads one. -/
def fileFlags? : Invocation → Option FileFlags
  | probe file _ => some file
  | load file .. => some file
  | _ => none

def request? : Invocation → Option String
  | alter _ _ request .. => some request
  | batchUpdate _ request .. => some request
  | dropColumns _ request _ => some request
  | _ => none

def save? : Invocation → Option String
  | probe _ save => save
  | _ => none

end Invocation

/-! ## Options -/

def option (long : String) (kind : ValueKind) : OptionSpec := ⟨long, none, some kind⟩

def flag (long : String) : OptionSpec := ⟨long, none, none⟩

def helpOption : OptionSpec := ⟨"help", some 'h', none⟩

def versionOption : OptionSpec := ⟨"version", some 'V', none⟩

def fileOptions : List OptionSpec :=
  [⟨"input", some 'i', some .path⟩, option "data-file" .path, option "delimiter" .delimiter,
   option "quote" .character, option "escape" .character, flag "header", flag "no-header",
   option "input-encoding" .text]

def connectionOptions : List OptionSpec :=
  [option "connection" .text, option "procedure-schema" .text]

def tableOption : OptionSpec := option "table-oid" (.integer 0 4294967295)

def requestOption : OptionSpec := ⟨"request", some 'r', some .path⟩

def probeOptions : List OptionSpec := fileOptions ++ [option "save" .path]

def loadOptions : List OptionSpec :=
  fileOptions ++ [option "schema" .text, ⟨"table", some 't', some .text⟩, option "comment" .text] ++
    connectionOptions

def batchOptions : List OptionSpec :=
  [tableOption, requestOption, flag "dry-run"] ++ connectionOptions

def alterOptions : List OptionSpec := option "attnum" (.integer (-32768) 32767) :: batchOptions

def dropOptions : List OptionSpec := [tableOption, requestOption] ++ connectionOptions

/-! ## Reading -/

/-- Options that exclude each other. -/
def exclusive : List (String × String) := [("header", "no-header"), ("no-header", "header")]

def checkConflicts (given : List Given) : Except UsageError Unit :=
  let clash (g : Given) : Option (String × String) :=
    exclusive.find? fun e => e.1 = g.option.long && isGiven given e.2
  match given.findSome? clash with
  | some (a, b) => .error (.conflict ("--" ++ a) ("--" ++ b))
  | none => .ok ()

/-- Checks that one of the options in each group is given. -/
def checkRequired (given : List Given) (groups : List (List String)) : Except UsageError Unit :=
  if groups.all fun group => group.any (isGiven given) then .ok () else .error .missingOptions

def integerOf (given : List Given) (long : String) : Int :=
  match (valueOf given long).map parseInteger with
  | some (.ok n) => n
  | _ => 0

def characterOf (parse : String → Except CharacterError UInt8) (given : List Given)
    (long : String) : Option UInt8 :=
  match (valueOf given long).map parse with
  | some (.ok b) => some b
  | _ => none

def fileFlags (given : List Given) : FileFlags where
  input := valueOf given "input"
  dataFile := valueOf given "data-file"
  delimiter := characterOf parseDelimiter given "delimiter"
  quote := characterOf parseCharacter given "quote"
  escape := characterOf parseCharacter given "escape"
  header :=
    if isGiven given "header" then some true
    else if isGiven given "no-header" then some false
    else none
  encoding := valueOf given "input-encoding"

/-- Where the database is: as given, or as the environment says. -/
def connection (environment : Option String) (given : List Given) : Connection :=
  ⟨(valueOf given "connection").or environment,
   (valueOf given "procedure-schema").getD Database.Session.defaultProcedures⟩

def requestPath (given : List Given) : String := (valueOf given "request").getD "-"

/-- A file has to be named, or a descriptor that names it. -/
def fileRequired : List String := ["input", "data-file"]

def parseCommand (options : List OptionSpec) (required : List (List String))
    (make : List Given → Invocation) (args : List String) : Except UsageError Invocation := do
  let given ← readOptions (helpOption :: options) args
  if isGiven given helpOption.long then return .help
  checkConflicts given
  checkRequired given required
  return make given

def parseProbe : List String → Except UsageError Invocation :=
  parseCommand probeOptions [fileRequired] fun given =>
    .probe (fileFlags given) (valueOf given "save")

def parseLoad (environment : Option String) : List String → Except UsageError Invocation :=
  parseCommand loadOptions [fileRequired, ["table"]] fun given =>
    .load (fileFlags given) ((valueOf given "schema").getD "public")
      ((valueOf given "table").getD "") (valueOf given "comment") (connection environment given)

def parseAlter (environment : Option String) : List String → Except UsageError Invocation :=
  parseCommand alterOptions [["table-oid"], ["attnum"]] fun given =>
    .alter (integerOf given "table-oid").toNat (integerOf given "attnum") (requestPath given)
      (isGiven given "dry-run") (connection environment given)

def parseBatch (environment : Option String) : List String → Except UsageError Invocation :=
  parseCommand batchOptions [["table-oid"]] fun given =>
    .batchUpdate (integerOf given "table-oid").toNat (requestPath given)
      (isGiven given "dry-run") (connection environment given)

def parseDrop (environment : Option String) : List String → Except UsageError Invocation :=
  parseCommand dropOptions [["table-oid"]] fun given =>
    .dropColumns (integerOf given "table-oid").toNat (requestPath given)
      (connection environment given)

/-- The names of the commands, in the order in which help lists them. -/
def commandNames : List String :=
  ["probe", "import", "alter", "batch-update", "drop-columns", "help"]

/-- Help can be asked for about a command; no command has commands of its own. -/
def parseHelp : List String → Except UsageError Invocation
  | [] => .ok .help
  | name :: rest =>
    if !commandNames.contains name then .error (.unknownCommand name)
    else
      match rest with
      | [] => .ok .help
      | inner :: _ => .error (.unknownCommand inner)

/-- The commands by name; `environment` is where the environment says the database is. -/
def commands (environment : Option String) :
    List (String × (List String → Except UsageError Invocation)) :=
  [("probe", parseProbe), ("import", parseLoad environment), ("alter", parseAlter environment),
   ("batch-update", parseBatch environment), ("drop-columns", parseDrop environment),
   ("help", parseHelp)]

def isOption (arg : String) : Bool :=
  match arg.toList with
  | '-' :: _ :: _ => true
  | _ => false

def parseTopOption (arg : String) : Except UsageError Invocation := do
  let s ← ArgState.start.step [helpOption, versionOption] arg
  return if isGiven s.given versionOption.long then .version else .help

/-- What arguments ask for; `environment` is where the environment says the database is. -/
def parse (environment : Option String) : List String → Except UsageError Invocation
  | [] => .error .noCommand
  | name :: args =>
    match (commands environment).find? fun c => c.1 = name with
    | some c => c.2 args
    | none =>
      if name = "--" then
        match args with
        | [] => .error .noCommand
        | arg :: _ =>
          if commandNames.contains arg then .error (.unexpected arg)
          else .error (.unknownCommand arg)
      else if isOption name then parseTopOption name
      else .error (.unknownCommand name)

end Intake.Command
