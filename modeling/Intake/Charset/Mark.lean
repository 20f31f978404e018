/-
  Intake.Charset.Mark — byte-order marks: the bytes at the start of a text that say which of the
  Unicode encodings it is in.

  A mark that belongs to another encoding than the text's own is data. While a text is read byte by
  byte, `headless` removes a mark of whichever encoding and `markless` one that is known.
-/

import Intake.Charset.Basic
import Intake.Text.Machine

namespace Intake.Charset

def mark : Charset → List UInt8
  | utf8 => [0xEF, 0xBB, 0xBF]
  | utf16le => [0xFF, 0xFE]
  | utf16be => [0xFE, 0xFF]
  | _ => []

def marked? (bytes : List UInt8) : Option Charset :=
  [utf8, utf16le, utf16be].find? fun c => c.mark.isPrefixOf bytes

def markLength (bytes : List UInt8) : Nat :=
  match marked? bytes with
  | some c => c.mark.length
  | none => 0

/-- The length of an encoding's own mark at the start of the bytes. -/
def ownMarkLength (c : Charset) (bytes : List UInt8) : Nat :=
  if marked? bytes = some c then c.mark.length else 0

/-- No mark is longer than this. -/
def headLength : Nat := 3

/-- Removes the mark at the start of a text, whichever it is: the first bytes are held back until
    they are a head, or all there are. -/
def headless : Text.Machine UInt8 UInt8 where
  State := Option (List UInt8)
  start := some []
  step := fun held b =>
    match held with
    | none => (none, [b])
    | some head =>
      let head := head ++ [b]
      if head.length < headLength then (some head, []) else (none, head.drop (markLength head))
  finish := fun held =>
    match held with
    | none => []
    | some head => head.drop (markLength head)

/-- Removes a mark at the start of a text: bytes are held back as long as they may become the mark. -/
def markless (mark : List UInt8) : Text.Machine UInt8 UInt8 where
  State := Option (List UInt8)
  start := some []
  step := fun held b =>
    match held with
    | none => (none, [b])
    | some head =>
      let head := head ++ [b]
      if head = mark then (none, [])
      else if head.isPrefixOf mark then (some head, [])
      else (none, head)
  finish := fun held => held.getD []

end Intake.Charset
