/-
  Intake.Yaml.Block — scalars written as a block of indented lines.

  A literal block keeps its line breaks. In a folded one a line feed between two lines that begin
  with words is read as a space, or dropped where empty lines follow it.
-/

import Intake.Yaml.Text

namespace Intake.Yaml.Block

/-- What happens to the line breaks at the end. -/
inductive Chomp where
  | strip
  | clip
  | keep
  deriving DecidableEq

/-- What the first line of a block says, apart from its sign. -/
structure Header where
  chomp : Chomp
  /-- How far the lines are indented more than what is around them. -/
  indent : Option Nat

def chomp? (c : Char) : Option Chomp :=
  if c = '+' then some .keep else if c = '-' then some .strip else none

def indentDigit? (c : Char) : Option Nat :=
  if c.isDigit ∧ c ≠ '0' then some (c.toNat - 48) else none

/-- A mark, a digit, or both in any order; then the line has to end. -/
def header? (ls : List Letter) : Option (Header × List Letter) := do
  let (chomp, afterMark) := match ls with
    | [] => (none, [])
    | l :: ls' => match chomp? l.char with
      | some c => (some c, ls')
      | none => (none, ls)
  let (indent, afterDigit) := match afterMark with
    | [] => (none, [])
    | l :: ls' => match indentDigit? l.char with
      | some n => (some n, ls')
      | none => (none, afterMark)
  let (chomp, rest) := match chomp, afterDigit with
    | none, l :: ls' => match chomp? l.char with
      | some c => (some c, ls')
      | none => (none, afterDigit)
    | _, _ => (chomp, afterDigit)
  let rest ← restOfLine? rest
  return (⟨chomp.getD .clip, indent⟩, rest)

/-- The column in which the first line with text begins, or in which a longer line of spaces before
    it ends; `none` if a tab stands in the way. -/
def columnFrom (column : Nat) : List Letter → Option Nat
  | [] => some column
  | l :: ls =>
    if l.char = ' ' then columnFrom (max column (l.column + 1)) ls
    else if l.char = '\t' then none
    else if isBreak l.char then columnFrom column ls
    else some column

structure Lines where
  /-- The text, last first. -/
  text : List Char
  /-- Whether a line of text is being read. -/
  inside : Bool
  /-- Whether that line, or else the last one, begins with a blank. -/
  blank : Bool
  /-- The break after the last line of text. -/
  first : Option Char
  /-- The breaks of the empty lines after it, last first. -/
  more : List Char

def Lines.none : Lines := ⟨[], false, false, .none, []⟩

def Lines.begin (b : Lines) (literal : Bool) (c : Char) : Lines :=
  let folds := !literal && b.first = some '\n' && !b.blank && !isBlank c
  let before :=
    if !folds then b.more ++ b.first.toList else if b.more.isEmpty then [' '] else b.more
  ⟨c :: (before ++ b.text), true, isBlank c, .none, []⟩

def readFrom (literal : Bool) (column : Nat) (b : Lines) :
    List Letter → Option (Lines × List Letter)
  | [] => some (b, [])
  | l :: ls =>
    if b.inside then
      if isBreak l.char then
        readFrom literal column { b with inside := false, first := some l.char } ls
      else readFrom literal column { b with text := l.char :: b.text } ls
    else if l.char = ' ' ∧ l.column < column then readFrom literal column b ls
    else if l.char = '\t' ∧ l.column < column then none
    else if isBreak l.char then readFrom literal column { b with more := l.char :: b.more } ls
    else if l.column = column then readFrom literal column (b.begin literal l.char) ls
    else some (b, l :: ls)

/-- The whole text, with the breaks at its end that stay. -/
def Lines.close (b : Lines) : Chomp → List Char
  | .strip => b.text.reverse
  | .clip => (b.first.toList ++ b.text).reverse
  | .keep => (b.more ++ b.first.toList ++ b.text).reverse

/-- The text of a block after its sign, and what follows it; `least` is the first column in which
    something that belongs to what is around it may begin. -/
def read? (literal : Bool) (least : Nat) (ls : List Letter) :
    Option (List Char × List Letter) := do
  let (h, ls) ← header? ls
  let column ← match h.indent with
    | some n => some (least - 1 + n)
    | none => (columnFrom 0 ls).map fun n => max n (max least 1)
  let (b, rest) ← readFrom literal column .none ls
  return (b.close h.chomp, rest)

end Intake.Yaml.Block
