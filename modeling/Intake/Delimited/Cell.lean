/-
  Intake.Delimited.Cell — what kind of value a cell of a table looks like.

  A cell looks like data when it is a truth value, a number, with or without a currency sign and
  separators, or made of the characters of dates and times. It looks like a heading when it has a
  letter and does not look like data.
-/

import Intake.Text.Alphabetic
import Intake.Text.Blank
import Intake.Text.Utf8

namespace Intake.Delimited.Cell

def truthWords : List String := ["true", "false", "t", "f", "yes", "no", "y", "n", "1", "0"]

def lower (cs : List Char) : List Char := cs.map Char.toLower

/-- The text after leading digits, and whether there were any. -/
def afterDigits (cs : List Char) : Bool × List Char :=
  (cs.head?.any Char.isDigit, cs.dropWhile Char.isDigit)

def withoutSign : List Char → List Char
  | '+' :: cs => cs
  | '-' :: cs => cs
  | cs => cs

def isExponent (cs : List Char) : Bool :=
  match cs with
  | [] => true
  | c :: rest =>
    (c = 'e' || c = 'E') && (let r := afterDigits (withoutSign rest); r.1 && r.2.isEmpty)

/-- A number in figures: digits with at most one point among or beside them, and an exponent. -/
def isFigure (cs : List Char) : Bool :=
  let whole := afterDigits cs
  match whole.2 with
  | '.' :: rest =>
    let fraction := afterDigits rest
    (whole.1 || fraction.1) && isExponent fraction.2
  | rest => whole.1 && isExponent rest

/-- The spelling of a floating point number. -/
def isNumber (cs : List Char) : Bool :=
  let unsigned := withoutSign cs
  let word := String.ofList (lower unsigned)
  word = "inf" || word = "infinity" || word = "nan" || isFigure unsigned

def amountSigns : List Char := ['$', '€', '£', '-', '+']

/-- An amount: signs, then a number that may have commas in it. -/
def isAmount (cs : List Char) : Bool :=
  isNumber ((cs.dropWhile fun c => amountSigns.contains c).filter fun c => c ≠ ',')

def temporalMarks : List Char := ['-', '/', ':', '.', ' ', 'T', 'Z', '+']

def isTemporal (cs : List Char) : Bool :=
  6 ≤ Text.Utf8.byteLength cs && cs.any Char.isDigit &&
    cs.all fun c => c.isDigit || temporalMarks.contains c

def looksLikeData (cell : String) : Bool :=
  let cs := Text.trimChars cell.toList
  !cs.isEmpty &&
    (truthWords.contains (String.ofList (lower cs)) || isAmount cs || isTemporal cs)

def looksLikeHeading (cell : String) : Bool :=
  let cs := Text.trimChars cell.toList
  !cs.isEmpty && !looksLikeData cell && cs.any Text.isAlphabetic

end Intake.Delimited.Cell
