/-
  Intake.Text.Utf8 — texts as bytes: the UTF-8 form of a text, its length in bytes, the longest
  beginning that fits into a number of bytes, and the reading of bytes as UTF-8.

  `decoder` reads one byte at a time and reports a malformed sequence where no character can
  begin with the bytes so far; such a sequence ends before the byte that rules it out.
-/

import Intake.Text.Machine

namespace Intake.Text.Utf8

def encode (cs : List Char) : List UInt8 := cs.flatMap String.utf8EncodeChar

def byteLength (cs : List Char) : Nat := cs.foldr (fun c n => c.utf8Size + n) 0

/-- The longest beginning of a text that fits into `limit` bytes. -/
def takeBytes (limit : Nat) : List Char → List Char
  | [] => []
  | c :: cs => if c.utf8Size ≤ limit then c :: takeBytes (limit - c.utf8Size) cs else []

/-! ## Reading -/

/-- Where the reader stands: between characters, or with `missing` more bytes to come, the next
    one between `low` and `high`, after bytes that amount to `value`. -/
inductive Position where
  | between
  | inside (missing : Nat) (low high : UInt8) (value : Nat)
  deriving DecidableEq

def first (b : UInt8) : Position × List Symbol :=
  if b < 0x80 then (.between, [some (Char.ofNat b.toNat)])
  else if 0xC2 ≤ b ∧ b ≤ 0xDF then (.inside 1 0x80 0xBF (b.toNat - 0xC0), [])
  else if b = 0xE0 then (.inside 2 0xA0 0xBF 0, [])
  else if b = 0xED then (.inside 2 0x80 0x9F 0xD, [])
  else if 0xE1 ≤ b ∧ b ≤ 0xEF then (.inside 2 0x80 0xBF (b.toNat - 0xE0), [])
  else if b = 0xF0 then (.inside 3 0x90 0xBF 0, [])
  else if b = 0xF4 then (.inside 3 0x80 0x8F 4, [])
  else if 0xF1 ≤ b ∧ b ≤ 0xF3 then (.inside 3 0x80 0xBF (b.toNat - 0xF0), [])
  else (.between, [none])

def next : Position → UInt8 → Position × List Symbol
  | .between, b => first b
  | .inside missing low high value, b =>
    if low ≤ b ∧ b ≤ high then
      let value' := value * 64 + (b.toNat - 0x80)
      if missing ≤ 1 then (.between, [some (Char.ofNat value')])
      else (.inside (missing - 1) 0x80 0xBF value', [])
    else
      let r := first b
      (r.1, none :: r.2)

def last : Position → List Symbol
  | .between => []
  | .inside .. => [none]

def decoder : Machine UInt8 Symbol where
  State := Position
  start := .between
  step := next
  finish := last

def decode? (bytes : List UInt8) : Option (List Char) := (decoder.run bytes).mapM id

def decodeString? (bytes : List UInt8) : Option String := (decode? bytes).map String.ofList

/-- Whether some continuation of the bytes is UTF-8: nothing so far is malformed. -/
def isOpening (bytes : List UInt8) : Bool := (decoder.before bytes).all Option.isSome

/-- How many leading bytes are whole characters before the first malformed sequence. -/
def validLength (bytes : List UInt8) : Nat :=
  byteLength ((decoder.run bytes).takeWhile Option.isSome |>.filterMap id)

end Intake.Text.Utf8
