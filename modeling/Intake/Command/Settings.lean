/-
  Intake.Command.Settings — how a file is to be read, gathered from the command line and from a
  descriptor.

  What the command line says comes before what the descriptor says. A descriptor that is wrong is
  refused even where the command line overrides it, except for its encoding.
-/

import Intake.Command.Error
import Intake.Command.Invocation
import Intake.Load.Prepare

namespace Intake.Command

open Storage (Files)

structure Settings where
  path : String
  header : Option Bool
  dialect : Option Delimited.Dialect
  charset : Option Charset
  deriving DecidableEq, Repr

def lowByte (c : Char) : UInt8 := UInt8.ofNat (c.toNat % 256)

/-- The characters of a dialect as far as they are known. -/
structure Characters where
  delimiter : Option UInt8
  quote : Option UInt8
  escape : Option UInt8
  deriving DecidableEq, Repr

/-- The characters that flags give, else the dialect a descriptor records, else the descriptor. -/
def charactersOf (flags : FileFlags) (described : Option Delimited.Dialect)
    (descriptor : Option Descriptor) : Characters where
  delimiter := flags.delimiter.or (described.map (·.delimiter))
  quote := (flags.quote.or (described.map (·.quote))).or (descriptor.map (lowByte ·.quote))
  escape := (flags.escape.or (described.bind (·.escape))).or
    (descriptor.bind fun d => d.escape.map lowByte)

/-- The dialect of a file, if anything is known of it. A delimiter that is not known is guessed
    from the file. -/
def dialectOf [Codecs] (files : Files) (path : String) (charset : Option Charset) (known : Characters) :
    Except Load.LoadError (Option Delimited.Dialect) := do
  let quote := known.quote.getD Delimited.defaultQuote
  match known.delimiter with
  | some delimiter =>
    return some (← (Delimited.Dialect.make delimiter quote known.escape).mapError .dialect)
  | none =>
    if known.quote.isNone ∧ known.escape.isNone then return none
    else
      let source ← match charset with
        | some c => pure c
        | none => Load.detectCharset files path
      return some (← Load.sniffDialect files path source quote known.escape)

def pathOf (flags : FileFlags) (descriptor : Option Descriptor) : Except CommandError String :=
  match flags.input.or (descriptor.map (·.path)) with
  | some path => .ok path
  | none => .error .noFile

def charsetOf (flags : FileFlags) (descriptor : Option Descriptor) :
    Except CommandError (Option Charset) :=
  let found := match flags.encoding, descriptor with
    | some label, _ => (Charset.resolve label).map some
    | none, some d => d.charset
    | none, none => .ok none
  found.mapError fun e => .settings (.charset e)

def describedDialect : Option Descriptor → Except CommandError (Option Delimited.Dialect)
  | some d => d.dialect.mapError .described
  | none => .ok none

def settings [Codecs] (files : Files) (flags : FileFlags) : Except CommandError Settings := do
  let descriptor ← (flags.dataFile.mapM (Descriptor.load files)).mapError .descriptor
  let path ← pathOf flags descriptor
  let charset ← charsetOf flags descriptor
  let described ← describedDialect descriptor
  let known := charactersOf flags described descriptor
  let dialect ← (dialectOf files path charset known).mapError .settings
  return ⟨path, flags.header.or (descriptor.bind (·.header)), dialect, charset⟩

end Intake.Command
