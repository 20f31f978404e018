/-
  Intake.Yaml.Writer — scalars as the values of a mapping.

  A text is written plain where it can be and reads back as a text, else between quotes; a text of
  several lines is written as a literal block. What no other form can hold is written between
  double quotes with escapes. Lines are of any length.
-/

import Intake.Numeric.Hex
import Intake.Yaml.Number
import Intake.Yaml.Scalar

namespace Intake.Yaml.Writer

/-! ## What a text contains -/

def isBreak (c : Char) : Bool :=
  c = '\n' || c = '\r' || c = '\u0085' || c = '\u2028' || c = '\u2029'

/-- Whether a text ends here, or goes on with a blank or a line break. -/
def isGap : List Char → Bool
  | [] => true
  | c :: _ => c = ' ' || c = '\t' || c = '\x00' || isBreak c

def isPrintable (c : Char) : Bool :=
  let n := c.toNat
  n = 0x0A || (0x20 ≤ n && n ≤ 0x7E) || (0xA0 ≤ n && n ≤ 0xFFFD && n ≠ 0xFEFF) || 0x10000 ≤ n

def startMarks : List Char :=
  ['#', ',', '[', ']', '\x7b', '\x7d', '&', '*', '!', '|', '>', '\x27', '\"', '%', '@', '\x60']

def marksStart : List Char → Bool
  | [] => false
  | c :: cs =>
    startMarks.contains c || ((c = '?' || c = ':' || c = '-') && isGap cs) ||
      "---".toList.isPrefixOf (c :: cs) || "...".toList.isPrefixOf (c :: cs)

/-- Whether a later part of a plain scalar would be taken for something else. -/
def marksInside (before : Char) : List Char → Bool
  | [] => false
  | c :: cs =>
    (c = ':' && isGap cs) || (c = '#' && isGap [before]) || marksInside c cs

def marks : List Char → Bool
  | [] => false
  | c :: cs => marksStart (c :: cs) || marksInside c cs

/-- Whether some character that satisfies `p` stands right before one that satisfies `q`. -/
def hasPair (p q : Char → Bool) (cs : List Char) : Bool :=
  (cs.zip (cs.drop 1)).any fun pair => p pair.1 && q pair.2

def isSpace (c : Char) : Bool := c = ' '

def hasEdgeSpace (cs : List Char) : Bool :=
  cs.head?.any isSpace || cs.getLast?.any isSpace

/-- Whether nothing but double quotes can hold the text. -/
def needsEscapes (cs : List Char) : Bool :=
  hasPair isSpace isBreak cs || cs.any fun c => !isPrintable c

def fitsPlain (cs : List Char) : Bool :=
  !needsEscapes cs && !hasEdgeSpace cs && !cs.any isBreak && !marks cs

def fitsSingle (cs : List Char) : Bool := !needsEscapes cs && !hasPair isBreak isSpace cs

def fitsBlock (cs : List Char) : Bool := !needsEscapes cs && !cs.getLast?.any isSpace

/-- Whether the text, written plain, would be read as something else than a text, or looks as if it
    would. -/
def isAmbiguous (s : String) : Bool :=
  s = "" || Scalar.isNullWord s || (Scalar.boolWord? s).isSome || Number.isNumeric s.toList

/-! ## The forms -/

def hexUpper (width n : Nat) : List Char := (Numeric.hex width n).toList.map Char.toUpper

def escape (c : Char) : List Char :=
  match c with
  | '\x00' => ['\\', '0']
  | '\x07' => ['\\', 'a']
  | '\x08' => ['\\', 'b']
  | '\t' => ['\\', 't']
  | '\n' => ['\\', 'n']
  | '\x0b' => ['\\', 'v']
  | '\x0c' => ['\\', 'f']
  | '\r' => ['\\', 'r']
  | '\x1b' => ['\\', 'e']
  | '\"' => ['\\', '\"']
  | '\\' => ['\\', '\\']
  | '\u0085' => ['\\', 'N']
  | '\u2028' => ['\\', 'L']
  | '\u2029' => ['\\', 'P']
  | _ =>
    if isPrintable c then [c]
    else if c.toNat ≤ 0xFF then ['\\', 'x'] ++ hexUpper 2 c.toNat
    else if c.toNat ≤ 0xFFFF then ['\\', 'u'] ++ hexUpper 4 c.toNat
    else ['\\', 'U'] ++ hexUpper 8 c.toNat

def double (cs : List Char) : List Char := ['\"'] ++ cs.flatMap escape ++ ['\"']

def indentation : List Char := [' ', ' ']

/-- A text between single quotes, after the opening one; `broken` says that a line has just ended. A
    first line feed is doubled, for one alone would be read as a space. -/
def singleFrom (broken : Bool) : List Char → List Char
  | [] => (if broken then indentation else []) ++ ['\x27']
  | c :: cs =>
    if isBreak c then
      (if !broken ∧ c = '\n' then ['\n', c] else [c]) ++ singleFrom true cs
    else
      (if broken then indentation else []) ++ (if c = '\x27' then ['\x27', c] else [c]) ++
        singleFrom false cs

def single (cs : List Char) : List Char := '\x27' :: singleFrom false cs

/-- The lines of a literal block; each with text is indented. -/
def literalFrom (broken : Bool) : List Char → List Char
  | [] => []
  | c :: cs =>
    if isBreak c then c :: literalFrom true cs
    else (if broken then indentation else []) ++ c :: literalFrom false cs

/-- The sign for the line breaks at the end of a literal block. -/
def chompMark (cs : List Char) : List Char :=
  match cs.reverse with
  | c :: d :: _ => if !isBreak c then ['-'] else if isBreak d then ['+'] else []
  | [c] => if isBreak c then ['+'] else ['-']
  | [] => ['-']

/-- The indentation is stated when the text begins with a space or a line break. -/
def indentMark (cs : List Char) : List Char :=
  if cs.head?.any fun c => c = ' ' || isBreak c then ['2'] else []

def literal (cs : List Char) : List Char :=
  ['|'] ++ indentMark cs ++ chompMark cs ++ ['\n'] ++ literalFrom true cs

def char (c : Char) : List Char := if fitsSingle [c] then single [c] else double [c]

def text (s : String) : List Char :=
  let cs := s.toList
  if '\n' ∈ cs then (if fitsBlock cs then literal cs else double cs)
  else if !isAmbiguous s ∧ fitsPlain cs then cs
  else if fitsSingle cs then single cs
  else double cs

/-- An entry of a mapping on lines of its own. A literal block may have ended the last one. -/
def entry (key : String) (value : List Char) : List Char :=
  let line := key.toList ++ [':', ' '] ++ value
  if line.getLast?.any isBreak then line else line ++ ['\n']

end Intake.Yaml.Writer
