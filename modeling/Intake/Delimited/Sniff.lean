/-
  Intake.Delimited.Sniff — the delimiter of a text, guessed from its first lines.

  A candidate counts where it stands outside quotes. It has to occur on the first line; the one
  that occurs on most lines as often as there wins, then the one that occurs more often, then the
  first in the order of candidates.
-/

import Intake.Delimited.Dialect
import Intake.Text.Blank
import Intake.Text.Utf8

namespace Intake.Delimited

def candidates : List UInt8 := [0x2C, 0x09, 0x3B, 0x7C]

def sampleLines : Nat := 20

/-- A line without the carriage return before its line feed. -/
def chomp (line : List Char) : List Char :=
  if line.getLast? = some '\r' then line.dropLast else line

/-- The lines of a text, of which `reversed` is the last one so far. -/
def linesFrom (reversed : List Char) : List Char → List (List Char)
  | [] => if reversed.isEmpty then [] else [reversed.reverse]
  | c :: cs =>
    if c = '\n' then chomp reversed.reverse :: linesFrom [] cs
    else linesFrom (c :: reversed) cs

def lines (cs : List Char) : List (List Char) := linesFrom [] cs

/-- The first lines that are not blank. -/
def sampled (sample : List Char) : List (List Char) :=
  ((lines sample).filter fun line => !(Text.trimChars line).isEmpty).take sampleLines

/-- How often a byte occurs outside quotes. -/
def countFrom (inQuotes : Bool) (delimiter quote : UInt8) : List UInt8 → Nat
  | [] => 0
  | b :: bs =>
    if b = quote then countFrom (!inQuotes) delimiter quote bs
    else if b = delimiter ∧ !inQuotes then countFrom inQuotes delimiter quote bs + 1
    else countFrom inQuotes delimiter quote bs

def countUnquoted (delimiter quote : UInt8) (line : List Char) : Nat :=
  countFrom false delimiter quote (Text.Utf8.encode line)

/-- How well a candidate fits: the lines on which it occurs as often as on the first, and how
    often that is. -/
structure Fit where
  candidate : UInt8
  consistent : Nat
  first : Nat
  deriving DecidableEq, Repr

/-- The fit of a candidate to some lines, if it occurs on the first. -/
def fit? (quote : UInt8) (ls : List (List Char)) (candidate : UInt8) : Option Fit :=
  let counts := ls.map (countUnquoted candidate quote)
  match counts with
  | [] => none
  | first :: _ => if first = 0 then none else some ⟨candidate, counts.count first, first⟩

def Fit.better (a b : Fit) : Bool :=
  a.consistent > b.consistent || (a.consistent = b.consistent && a.first > b.first)

/-- The best fit; of equal ones the first. -/
def best (fits : List Fit) : Option Fit :=
  fits.foldl (fun found f =>
    match found with
    | none => some f
    | some b => if f.better b then some f else some b) none

/-- The delimiter of a text, if its lines show one. -/
def sniff (sample : List Char) (quote : UInt8) : Option UInt8 :=
  (best (candidates.filterMap (fit? quote (sampled sample)))).map Fit.candidate

end Intake.Delimited
