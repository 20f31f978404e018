/-
  Intake.Yaml.Quoted — scalars between quotes.

  Between single quotes a quote is written twice and all else stands for itself; between double
  quotes a backslash begins an escape, and one at the end of a line takes the line break away.
-/

import Intake.Numeric.Hex
import Intake.Yaml.Gap
import Intake.Yaml.Text

namespace Intake.Yaml.Quoted

/-- The character an escape of one letter stands for. -/
def escapedChar? (c : Char) : Option Char :=
  match c with
  | '0' => some '\x00'
  | 'a' => some '\x07'
  | 'b' => some '\x08'
  | 't' | '\t' => some '\t'
  | 'n' => some '\n'
  | 'v' => some '\x0b'
  | 'f' => some '\x0c'
  | 'r' => some '\r'
  | 'e' => some '\x1b'
  | ' ' => some ' '
  | '\"' => some '\"'
  | '/' => some '/'
  | '\\' => some '\\'
  | 'N' => some '\u0085'
  | '_' => some '\u00a0'
  | 'L' => some '\u2028'
  | 'P' => some '\u2029'
  | _ => none

def codeLength? (c : Char) : Option Nat :=
  match c with
  | 'x' => some 2
  | 'u' => some 4
  | 'U' => some 8
  | _ => none

def singleFrom (out : List Char) (g : Gap) : List Letter → Option (List Char × List Letter)
  | [] => none
  | l :: ls =>
    if isBreak l.char then singleFrom out (g.lineBreak l.char) ls
    else if isBlank l.char then singleFrom out (g.blank l.char) ls
    else if isDocumentMark (l :: ls) then none
    else if l.char = '\x27' then
      match ls with
      | [] => some ((g.fold ++ out).reverse, [])
      | q :: ls' =>
        if q.char = '\x27' then singleFrom ('\x27' :: (g.fold ++ out)) .empty ls'
        else some ((g.fold ++ out).reverse, q :: ls')
    else singleFrom (l.char :: (g.fold ++ out)) .empty ls

/-- What is expected inside a scalar between double quotes. -/
inductive Expected where
  | text
  /-- The letter of an escape. -/
  | letter
  /-- Digits of a code, after those that amount to `value`. -/
  | digits (missing value : Nat)

/-- The rest of a scalar between double quotes. -/
def doubleFrom (out : List Char) (g : Gap) (e : Expected) :
    List Letter → Option (List Char × List Letter)
  | [] => none
  | l :: ls =>
    match e with
    | .digits missing value =>
      match Numeric.hexDigit? l.char with
      | none => none
      | some d =>
        let value := value * 16 + d
        if 1 < missing then doubleFrom out g (.digits (missing - 1) value) ls
        else if value.isValidChar then doubleFrom (Char.ofNat value :: out) .empty .text ls
        else none
    | .letter =>
      if isBreak l.char then doubleFrom out .escaped .text ls
      else
        match escapedChar? l.char, codeLength? l.char with
        | some c, _ => doubleFrom (c :: out) .empty .text ls
        | none, some n => doubleFrom out .empty (.digits n 0) ls
        | none, none => none
    | .text =>
      if isBreak l.char then doubleFrom out (g.lineBreak l.char) .text ls
      else if isBlank l.char then doubleFrom out (g.blank l.char) .text ls
      else if isDocumentMark (l :: ls) then none
      else if l.char = '\"' then some ((g.fold ++ out).reverse, ls)
      else if l.char = '\\' then doubleFrom (g.fold ++ out) .empty .letter ls
      else doubleFrom (l.char :: (g.fold ++ out)) .empty .text ls

def single? (ls : List Letter) : Option (List Char × List Letter) := singleFrom [] .empty ls

/-- The text of a scalar after the first of its double quotes, and what follows it. -/
def double? (ls : List Letter) : Option (List Char × List Letter) := doubleFrom [] .empty .text ls

end Intake.Yaml.Quoted
