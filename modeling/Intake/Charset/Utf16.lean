/-
  Intake.Charset.Utf16 — texts in two-byte units, in either byte order.

  A character outside the basic plane is a high unit followed by a low one. A unit of such a pair
  that stands alone is malformed, and so is a half unit or half pair at the end of the text.
-/

import Intake.Text.Machine

namespace Intake.Charset.Utf16

inductive ByteOrder where
  | little
  | big
  deriving DecidableEq, Repr

def ByteOrder.unit (order : ByteOrder) (first second : UInt8) : Nat :=
  match order with
  | .little => first.toNat + 256 * second.toNat
  | .big => 256 * first.toNat + second.toNat

def isHigh (unit : Nat) : Bool := 0xD800 ≤ unit && unit ≤ 0xDBFF

def isLow (unit : Nat) : Bool := 0xDC00 ≤ unit && unit ≤ 0xDFFF

/-- The first byte of a unit, and the high unit that waits for its partner. -/
structure Pending where
  byte : Option UInt8
  high : Option Nat
  deriving DecidableEq

def lone (unit : Nat) : Pending × List Text.Symbol :=
  if isHigh unit then (⟨none, some unit⟩, [])
  else if isLow unit then (⟨none, none⟩, [none])
  else (⟨none, none⟩, [some (Char.ofNat unit)])

/-- A unit after the high unit `high`. -/
def after (high unit : Nat) : Pending × List Text.Symbol :=
  if isLow unit then
    (⟨none, none⟩, [some (Char.ofNat (0x10000 + (high - 0xD800) * 0x400 + (unit - 0xDC00)))])
  else
    let r := lone unit
    (r.1, none :: r.2)

def next (order : ByteOrder) (s : Pending) (b : UInt8) : Pending × List Text.Symbol :=
  match s.byte with
  | none => (⟨some b, s.high⟩, [])
  | some first =>
    match s.high with
    | none => lone (order.unit first b)
    | some high => after high (order.unit first b)

def last (s : Pending) : List Text.Symbol :=
  if s.byte.isSome || s.high.isSome then [none] else []

def decoder (order : ByteOrder) : Text.Machine UInt8 Text.Symbol where
  State := Pending
  start := ⟨none, none⟩
  step := next order
  finish := last

end Intake.Charset.Utf16
