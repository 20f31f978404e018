/-
  Intake.Yaml.Tag — the names that stand before nodes: tags, anchors, and the handles that
  shorten tags.

  A tag is written in full between angle brackets, or as a handle that stands for its beginning
  and the rest. Bytes that cannot stand in a tag are written with a percent sign and two digits.
-/

import Intake.Numeric.Hex
import Intake.Yaml.Scalar
import Intake.Yaml.Text

namespace Intake.Yaml

def isNameChar (c : Char) : Bool := c.isAlphanum || c = '_' || c = '-'

def anchorName? (ls : List Letter) : Option (String × List Letter) :=
  let (name, rest) := spanText isNameChar ls
  let ends := endsWord rest || nextIs (fun c => "?:,]\x7d%@\x60".toList.contains c) rest
  if !name.isEmpty ∧ ends then some (String.ofList name, rest) else none

namespace Tag

/-! ## Bytes -/

/-- Whether a character may stand in a tag; `listed` says that marks of lists may. -/
def isTagChar (listed : Bool) (c : Char) : Bool :=
  isNameChar c || ";/?:@&=+$.!~*\x27()%".toList.contains c ||
    (listed && (c = ',' || c = '[' || c = ']'))

/-- How many bytes follow one that begins a character. -/
def following? (byte : Nat) : Option Nat :=
  if byte < 0x80 then some 0
  else if byte < 0xC0 then none
  else if byte < 0xE0 then some 1
  else if byte < 0xF0 then some 2
  else if byte < 0xF8 then some 3
  else none

/-- How many bytes of a character are missing after a byte, if as many were missing before it. -/
def missing? (before byte : Nat) : Option Nat :=
  if before = 0 then following? byte
  else if 0x80 ≤ byte ∧ byte < 0xC0 then some (before - 1)
  else none

/-- The bytes of a part of a tag, last first, and what follows it. -/
def bytesFrom (listed : Bool) (missing : Nat) (out : List UInt8) :
    List Letter → Option (List UInt8 × List Letter)
  | [] => if missing = 0 then some (out, []) else none
  | l :: ls =>
    if l.char = '%' then
      match ls with
      | a :: b :: rest => do
        let byte := 16 * (← Numeric.hexDigit? a.char) + (← Numeric.hexDigit? b.char)
        bytesFrom listed (← missing? missing byte) (UInt8.ofNat byte :: out) rest
      | _ => none
    else if missing ≠ 0 then none
    else if isTagChar listed l.char then
      bytesFrom listed 0 (UInt8.ofNat l.char.toNat :: out) ls
    else some (out, l :: ls)

/-- A part of a tag. A zero byte ends the name, though not what is written. -/
def part? (listed : Bool) (ls : List Letter) : Option (Tag × List Letter) := do
  let (bytes, rest) ← bytesFrom listed 0 [] ls
  return (bytes.reverse.takeWhile (· ≠ 0), rest)

def somePart? (listed : Bool) (ls : List Letter) : Option (Tag × List Letter) :=
  if nextIs (isTagChar listed) ls then part? listed ls else none

/-! ## Handles -/

/-- A tag as it is written: in full, or with a handle before the rest. -/
structure Written where
  handle : Option String
  rest : Tag

/-- A handle: a word between exclamation marks, two of them, or one. -/
def handle? (ls : List Letter) : Option (String × List Letter) :=
  match ls with
  | [] => none
  | l :: ls =>
    if l.char ≠ '!' then none
    else
      let (word, after) := spanText isNameChar ls
      if nextIs (· = '!') after then some (String.ofList ('!' :: word ++ ['!']), after.drop 1)
      else some ("!", ls)

def written? (ls : List Letter) : Option (Written × List Letter) :=
  match ls with
  | m :: a :: rest =>
    if a.char = '<' then do
      let (tag, rest) ← somePart? true rest
      if nextIs (· = '>') rest then some (⟨none, tag⟩, rest.drop 1) else none
    else afterHandle (m :: a :: rest)
  | _ => afterHandle ls
where
  /-- The rest of a tag after its handle; an exclamation mark alone is a tag of its own. -/
  afterHandle (ls : List Letter) : Option (Written × List Letter) := do
    let (handle, rest) ← handle? ls
    if handle = "!" then
      let (tag, rest) ← part? false rest
      if tag.isEmpty then some (⟨none, Tag.ofString "!"⟩, rest) else some (⟨some handle, tag⟩, rest)
    else
      let (tag, rest) ← somePart? false rest
      some (⟨some handle, tag⟩, rest)

/-- The tag that begins here; between brackets a comma may follow it at once. -/
def read? (flow : Bool) (ls : List Letter) : Option (Written × List Letter) := do
  let (tag, rest) ← written? ls
  if endsWord rest || (flow && nextIs (· = ',') rest) then some (tag, rest) else none

/-- What handles stand for, the last named first. -/
abbrev Handles := List (String × Tag)

def commonHandles : Handles := [("!", Tag.ofString "!"), ("!!", Scalar.coreTags)]

/-- The tag that is meant, if its handle is known. -/
def Written.resolve? (w : Written) (handles : Handles) : Option Tag :=
  match w.handle with
  | none => some w.rest
  | some handle => (handles ++ commonHandles).lookup handle |>.map (· ++ w.rest)

end Tag

end Intake.Yaml
