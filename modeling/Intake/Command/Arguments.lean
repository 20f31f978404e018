/-
  Intake.Command.Arguments — the arguments of a command as options and their values.

  An option is named with two dashes, or with one and a letter, and its value follows it or is
  attached to it. A value is checked when the next option begins or the arguments end, so an
  argument that is unknown, or has a value where none belongs, is reported before a value that
  is wrong.
-/

import Intake.Command.Character

namespace Intake.Command

inductive ValueKind where
  | text
  | path
  | character
  | delimiter
  | integer (least greatest : Int)
  deriving DecidableEq, Repr

structure OptionSpec where
  long : String
  short : Option Char
  /-- What values it takes, if any. -/
  kind : Option ValueKind
  deriving DecidableEq, Repr

def OptionSpec.valueName (o : OptionSpec) : String :=
  String.ofList (o.long.toList.map fun c => if c = '-' then '_' else c.toUpper)

/-- An option as messages name it. -/
def OptionSpec.display (o : OptionSpec) : String :=
  match o.kind with
  | some _ => "--" ++ o.long ++ " <" ++ o.valueName ++ ">"
  | none => "--" ++ o.long

inductive UsageError where
  | noCommand
  | unknownCommand (name : String)
  | unexpected (arg : String)
  | valueRequired (option : String)
  /-- A value is attached to an option that takes none. -/
  | unexpectedValue (value option : String)
  | repeated (option : String)
  | conflict (option other : String)
  | invalidValue (value option reason : String)
  | missingOptions
  deriving DecidableEq, Repr

def purpose : String := "Import delimited files into PostgreSQL and alter table columns"

def UsageError.message : UsageError → String
  | noCommand => purpose
  | unknownCommand name => "error: unrecognized subcommand '" ++ name ++ "'"
  | unexpected arg => "error: unexpected argument '" ++ arg ++ "' found"
  | valueRequired option =>
    "error: a value is required for '" ++ option ++ "' but none was supplied"
  | unexpectedValue value option =>
    "error: unexpected value '" ++ value ++ "' for '" ++ option ++
      "' found; no more were expected"
  | repeated option => "error: the argument '" ++ option ++ "' cannot be used multiple times"
  | conflict option other =>
    "error: the argument '" ++ option ++ "' cannot be used with '" ++ other ++ "'"
  | invalidValue value option reason =>
    "error: invalid value '" ++ value ++ "' for '" ++ option ++ "': " ++ reason
  | missingOptions => "error: the following required arguments were not provided:"

/-! ## Values -/

/-- The number that digits add to `n`, which may not exceed a limit. -/
def magnitude (limit : Nat) (tooLarge : String) (n : Nat) : List Char → Except String Nat
  | [] => .ok n
  | c :: cs =>
    if !c.isDigit then .error "invalid digit found in string"
    else
      let m := 10 * n + (c.toNat - 48)
      if m > limit then .error tooLarge else magnitude limit tooLarge m cs

def parseInteger (s : String) : Except String Int :=
  let tooLarge := "number too large to fit in target type"
  let tooSmall := "number too small to fit in target type"
  match s.toList with
  | [] => .error "cannot parse integer from empty string"
  | ['-'] | ['+'] => .error "invalid digit found in string"
  | '-' :: cs => (magnitude (Nat.pow 2 63) tooSmall 0 cs).map fun n => -(n : Int)
  | '+' :: cs => (magnitude (Nat.pow 2 63 - 1) tooLarge 0 cs).map fun n => (n : Int)
  | cs => (magnitude (Nat.pow 2 63 - 1) tooLarge 0 cs).map fun n => (n : Int)

def parseWithin (least greatest : Int) (s : String) : Except String Int := do
  let n ← parseInteger s
  if least ≤ n ∧ n ≤ greatest then return n
  else .error (toString n ++ " is not in " ++ toString least ++ "..=" ++ toString greatest)

/-- Why a text is no value of a kind. -/
def ValueKind.reason? : ValueKind → String → Option String
  | .text, _ => none
  | .path, _ => none
  | .character, s =>
    match parseCharacter s with
    | .ok _ => none
    | .error e => some e.message
  | .delimiter, s =>
    match parseDelimiter s with
    | .ok _ => none
    | .error e => some e.message
  | .integer least greatest, s =>
    match parseWithin least greatest s with
    | .ok _ => none
    | .error reason => some reason

/-! ## Reading arguments -/

/-- An option that was given, and its value. -/
structure Given where
  option : OptionSpec
  value : Option String

/-- What has been read: the options, first to last, and the one that is still open. -/
structure ArgState where
  given : List Given
  /-- An option without the value it takes. -/
  waiting : Option OptionSpec
  /-- An option whose value is not checked yet. -/
  unchecked : Option (OptionSpec × String)

namespace ArgState

def start : ArgState := ⟨[], none, none⟩

/-- Adds an option that has not been given before. -/
def add (s : ArgState) (o : OptionSpec) (value : Option String) : Except UsageError ArgState :=
  if s.given.any fun g => g.option.long = o.long then .error (.repeated o.display)
  else
    match o.kind, value with
    | some kind, some v =>
      if kind = .path ∧ v = "" then .error (.valueRequired o.display)
      else
        match kind.reason? v with
        | some reason => .error (.invalidValue v o.display reason)
        | none => .ok { s with given := s.given ++ [⟨o, value⟩] }
    | _, _ => .ok { s with given := s.given ++ [⟨o, value⟩] }

/-- Ends the option that is open. -/
def settle (s : ArgState) : Except UsageError ArgState :=
  match s.waiting, s.unchecked with
  | some o, _ => .error (.valueRequired o.display)
  | none, some (o, v) => ArgState.add { s with unchecked := none } o (some v)
  | none, none => .ok s

def option (s : ArgState) (o : OptionSpec) (attached : Option String) :
    Except UsageError ArgState :=
  match o.kind, attached with
  | some _, none => s.settle.map fun s => { s with waiting := some o }
  | some _, some v => s.settle.bind fun s => s.add o (some v)
  | none, none => s.settle.bind fun s => s.add o none
  | none, some v => .error (.unexpectedValue v o.display)

def plain (s : ArgState) (arg : String) : Except UsageError ArgState :=
  match s.waiting with
  | some o => .ok { s with waiting := none, unchecked := some (o, arg) }
  | none => .error (.unexpected arg)

end ArgState

/-- The parts before and after the first equals sign. -/
def splitValue (cs : List Char) : List Char × Option (List Char) :=
  match cs.dropWhile (· ≠ '=') with
  | [] => (cs, none)
  | _ :: value => (cs.takeWhile (· ≠ '='), some value)

/-- One argument that is not after a double dash. -/
def ArgState.step (options : List OptionSpec) (s : ArgState) (arg : String) :
    Except UsageError ArgState :=
  match arg.toList with
  | '-' :: '-' :: cs =>
    let (name, value) := splitValue cs
    match options.find? fun o => o.long.toList = name with
    | some o => s.option o (value.map String.ofList)
    | none => .error (.unexpected ("--" ++ String.ofList name))
  | '-' :: c :: cs =>
    match options.find? fun o => o.short = some c with
    | some o =>
      if o.kind.isNone ∨ cs.isEmpty then s.option o none
      else s.option o (some (String.ofList (if cs.head? = some '=' then cs.drop 1 else cs)))
    | none => .error (.unexpected ("-" ++ String.singleton c))
  | _ => s.plain arg

/-- Reads arguments; none may stand after a double dash. -/
def readFrom (options : List OptionSpec) (s : ArgState) :
    List String → Except UsageError (List Given)
  | [] => (s.settle).map ArgState.given
  | arg :: rest =>
    if arg = "--" then
      match rest with
      | [] => (s.settle).map ArgState.given
      | first :: _ => .error (.unexpected first)
    else do
      let s ← s.step options arg
      readFrom options s rest

def readOptions (options : List OptionSpec) (args : List String) : Except UsageError (List Given) :=
  readFrom options .start args

def valueOf (given : List Given) (long : String) : Option String :=
  (given.find? fun g => g.option.long = long).bind Given.value

def isGiven (given : List Given) (long : String) : Bool :=
  given.any fun g => g.option.long = long

end Intake.Command
