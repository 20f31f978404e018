/-
  Intake.Yaml.Number — which texts are read as numbers when they stand without quotes.

  Integers are decimal, or in base 16, 8 or 2 after a zero and a letter, and have at most 128 bits.
  Decimals may have a point and an exponent, and must not be too large for a floating point number.
-/

import Intake.Numeric.Hex

namespace Intake.Yaml.Number

open Numeric (ofDigits?)

def magnitude? : List Char → Option Nat
  | '0' :: 'x' :: cs => ofDigits? 16 cs
  | '0' :: 'o' :: cs => ofDigits? 8 cs
  | '0' :: 'b' :: cs => ofDigits? 2 cs
  | cs => ofDigits? 10 cs

def isInteger : List Char → Bool
  | '-' :: cs => (magnitude? cs).any (· ≤ Nat.pow 2 127)
  | '+' :: cs => (magnitude? cs).any (· < Nat.pow 2 128)
  | cs => (magnitude? cs).any (· < Nat.pow 2 128)

def afterSign : List Char → List Char
  | '-' :: cs | '+' :: cs => cs
  | cs => cs

/-- Digits that begin with a zero are a text, but look like a number. -/
def isPadded (cs : List Char) : Bool :=
  let digits := afterSign cs
  1 < digits.length && digits.head? = some '0' && digits.all Char.isDigit

/-- The exponent at the end of a decimal, if there is none zero. -/
def exponent? : List Char → Option Int
  | [] => some 0
  | c :: cs =>
    if c = 'e' ∨ c = 'E' then
      match cs with
      | '-' :: ds => (ofDigits? 10 ds).map fun n => -(n : Int)
      | _ => (ofDigits? 10 (if cs.head? = some '+' then cs.drop 1 else cs)).map fun n => (n : Int)
    else none

/-- The digits of a decimal without its sign and the power of ten they are multiplied with. -/
def decimal? (cs : List Char) : Option (List Char × Int) := do
  let (whole, rest) := cs.span Char.isDigit
  let (fraction, rest) := match rest with
    | '.' :: rest => rest.span Char.isDigit
    | _ => ([], rest)
  let exponent ← exponent? rest
  if whole.isEmpty ∧ fraction.isEmpty then none
  else some (whole ++ fraction, exponent - fraction.length)

/-- Numbers from here on are rounded to infinity. -/
def tooLarge : Nat := Nat.pow 2 1024 - Nat.pow 2 970

/-- Whether digits times a power of ten are less than `tooLarge`, a number of 309 digits. -/
def isFinite (digits : List Char) (exponent : Int) : Bool :=
  let significant := digits.dropWhile (· = '0')
  let places : Int := significant.length + exponent
  let n := (ofDigits? 10 significant).getD 0
  if significant.isEmpty ∨ places ≤ 308 then true
  else if places ≠ 309 then false
  else n * Nat.pow 10 exponent.toNat < tooLarge * Nat.pow 10 (-exponent).toNat

def isInfinity (cs : List Char) : Bool := [".inf", ".Inf", ".INF"].any (·.toList = cs)

def isNotANumber (cs : List Char) : Bool := [".nan", ".NaN", ".NAN"].any (·.toList = cs)

def isDecimal (cs : List Char) : Bool :=
  isInfinity (afterSign cs) || isNotANumber cs ||
    (decimal? (afterSign cs)).any fun d => isFinite d.1 d.2

def isNumeric (cs : List Char) : Bool := isPadded cs || isInteger cs || isDecimal cs

end Intake.Yaml.Number
