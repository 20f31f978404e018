/-
  Intake.Yaml.Text — the characters of a file, each with the place it stands at.

  A file is UTF-8. Lines end with a line feed, a carriage return, both, the next-line character or
  a line or paragraph separator; all but the last two are read as line feeds.
-/

import Intake.Text.Utf8

namespace Intake.Yaml

def isBreak (c : Char) : Bool := c = '\n' || c = '\u2028' || c = '\u2029'

def isBlank (c : Char) : Bool := c = ' ' || c = '\t'

/-- A mark that may stand at the start of a line and says nothing. -/
def orderMark : Char := '\ufeff'

def isAllowed (c : Char) : Bool :=
  let n := c.toNat
  n = 0x09 || n = 0x0A || n = 0x0D || (0x20 ≤ n && n ≤ 0x7E) || n = 0x85 ||
    (0xA0 ≤ n && n ≤ 0xFFFD) || 0x10000 ≤ n

/-! ## Places -/

structure Place where
  /-- How many bytes are before it. -/
  offset : Nat
  line : Nat
  column : Nat
  deriving DecidableEq, Repr

def Place.start : Place := ⟨0, 0, 0⟩

def Place.after (p : Place) (c : Char) : Place :=
  if isBreak c ∨ c = '\r' ∨ c = '\u0085' then ⟨p.offset + c.utf8Size, p.line + 1, 0⟩
  else ⟨p.offset + c.utf8Size, p.line, p.column + 1⟩

structure Letter where
  char : Char
  place : Place

def Letter.column (l : Letter) : Nat := l.place.column

/-- Where the reader of characters is, and whether it has just read a carriage return. A line feed
    that follows one ends no other line. -/
structure Position where
  place : Place
  returned : Bool

def Position.next (p : Position) (c : Char) : Position × List Letter :=
  if p.returned ∧ c = '\n' then
    (⟨{ p.place with offset := p.place.offset + 1 }, false⟩, [])
  else
    let read := if c = '\r' ∨ c = '\u0085' then '\n' else c
    (⟨p.place.after c, c = '\r'⟩, [⟨read, p.place⟩])

def placing : Text.Machine Char Letter where
  State := Position
  start := ⟨.start, false⟩
  step := Position.next
  finish _ := []

def letters? (bytes : List UInt8) : Option (List Letter) := do
  let cs ← Text.Utf8.decode? bytes
  if cs.all isAllowed then some (placing.run cs) else none

/-! ## What follows -/

/-- Whether a word ends here: at a blank, a line break or the end of the text. -/
def endsWord : List Letter → Bool
  | [] => true
  | l :: _ => isBlank l.char || isBreak l.char

def nextIs (p : Char → Bool) : List Letter → Bool
  | [] => false
  | l :: _ => p l.char

/-- Three marks of a kind at the start of a line. -/
def isTriple (mark : Char) : List Letter → Bool
  | a :: b :: c :: rest =>
    a.column = 0 && a.char = mark && b.char = mark && c.char = mark && endsWord rest
  | _ => false

/-- Three dashes or three dots begin or end a document. -/
def isDocumentMark (ls : List Letter) : Bool := isTriple '-' ls || isTriple '.' ls

/-- The longest beginning whose characters satisfy a condition, and the rest. -/
def spanText (p : Char → Bool) (ls : List Letter) : List Char × List Letter :=
  let r := ls.span fun l => p l.char
  (r.1.map Letter.char, r.2)

def skipWhile (p : Char → Bool) (ls : List Letter) : List Letter := ls.dropWhile fun l => p l.char

/-- The rest of a line that has nothing more to say: blanks, a comment and the line break. -/
def restOfLine? (ls : List Letter) : Option (List Letter) :=
  let ls := skipWhile isBlank ls
  let ls := if nextIs (· = '#') ls then skipWhile (fun c => !isBreak c) ls else ls
  match ls with
  | [] => some []
  | l :: ls => if isBreak l.char then some ls else none

end Intake.Yaml
