/-
  Intake.Delimited.Dialect — the three characters that give a delimited text its structure.

  Fields are separated by the delimiter and may stand between quotes. Inside quotes the escape
  takes the next character as it is. Without an escape, or with the quote as the escape, a quote
  inside quotes is written twice.
-/

import Intake.Numeric.Hex

namespace Intake.Delimited

structure Dialect where
  delimiter : UInt8
  quote : UInt8
  escape : Option UInt8
  deriving DecidableEq, Repr

inductive DialectError where
  /-- The character in the named role is not ASCII, ends a line, or is NUL. -/
  | unusable (role : String) (value : UInt8)
  /-- Delimiter and quote are one character. -/
  | clash (value : UInt8)
  deriving DecidableEq, Repr

/-- The character with the code of a byte. -/
def byteChar (b : UInt8) : Char := Char.ofNat b.toNat

def shownChar (b : UInt8) : String :=
  if b = 0x09 then "\\t" else if b = 0x0A then "\\n" else String.singleton (byteChar b)

def DialectError.message : DialectError → String
  | unusable role value =>
    "Invalid dialect: " ++ role ++ " must be a printable ASCII character or tab (got 0x" ++
      Numeric.hex 2 value.toNat ++ ")"
  | clash value =>
    "Invalid dialect: delimiter and quote cannot both be '" ++ shownChar value ++ "'"

def defaultDelimiter : UInt8 := 0x2C

def defaultQuote : UInt8 := 0x22

namespace Dialect

/-- Whether a character can have a role in a dialect. -/
def isUsable (b : UInt8) : Bool := b < 0x80 && b ≠ 0x0D && b ≠ 0x0A && b ≠ 0

def checkRole (role : String) (b : UInt8) : Except DialectError Unit :=
  if isUsable b then .ok () else .error (.unusable role b)

def check (d : Dialect) : Except DialectError Unit := do
  checkRole "delimiter" d.delimiter
  checkRole "quote" d.quote
  match d.escape with
  | some escape => checkRole "escape" escape
  | none => .ok ()
  if d.delimiter = d.quote then .error (.clash d.delimiter) else .ok ()

def make (delimiter quote : UInt8) (escape : Option UInt8) : Except DialectError Dialect := do
  let d : Dialect := ⟨delimiter, quote, escape⟩
  check d
  return d

/-- The escape, if it is not the quote. Without one, quotes are doubled. -/
def effectiveEscape (d : Dialect) : Option UInt8 :=
  d.escape.filter fun escape => escape ≠ d.quote

end Dialect

end Intake.Delimited
