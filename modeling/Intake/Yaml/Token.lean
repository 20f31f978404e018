/-
  Intake.Yaml.Token — what a text consists of between blanks and comments.

  Blocks are nested by indentation alone, so their beginnings and ends are tokens that stand for
  no characters.
-/

import Intake.Yaml.Scalar
import Intake.Yaml.Tag

namespace Intake.Yaml

inductive Token where
  /-- The version that the text says it is written in. -/
  | version
  /-- What a handle stands for. -/
  | handle (name : String) (start : Tag)
  | documentStart
  | documentEnd
  | textEnd
  | blockSequence
  | blockMapping
  | blockEnd
  | flowSequence
  | flowSequenceEnd
  | flowMapping
  | flowMappingEnd
  /-- The sign before an item of a sequence. -/
  | item
  | comma
  /-- What follows is a key. -/
  | key
  /-- What follows is the value of a key. -/
  | value
  | anchor (name : String)
  | alias (name : String)
  | tag (t : Tag.Written)
  | scalar (text : String) (form : Form)

/-! ## Directives -/

def number? (ls : List Letter) : Option (Nat × List Letter) :=
  let (digits, rest) := spanText Char.isDigit ls
  if digits.isEmpty ∨ 9 < digits.length then none
  else some (digits.foldl (fun n c => 10 * n + (c.toNat - 48)) 0, rest)

/-- The version of a text, which is 1.1 or 1.2. -/
def version? (ls : List Letter) : Option (List Letter) := do
  let (major, rest) ← number? ls
  if !nextIs (· = '.') rest then none
  let (minor, rest) ← number? (rest.drop 1)
  if major = 1 ∧ (minor = 1 ∨ minor = 2) then some rest else none

def namedHandle? (ls : List Letter) : Option ((String × Tag) × List Letter) := do
  let (name, rest) ← Tag.handle? ls
  if !nextIs isBlank rest then none
  let (start, rest) ← Tag.somePart? true (skipWhile isBlank rest)
  if endsWord rest then some ((name, start), rest) else none

/-- A line that begins with a percent sign, after that sign. -/
def directive? (ls : List Letter) : Option (Token × List Letter) := do
  let (name, rest) := spanText isNameChar ls
  if !endsWord rest then none
  let start := skipWhile isBlank rest
  if name = "YAML".toList then
    return (.version, ← restOfLine? (← version? start))
  else if name = "TAG".toList then
    let ((handle, tag), rest) ← namedHandle? start
    return (.handle handle tag, ← restOfLine? rest)
  else none

end Intake.Yaml
