/-
  Intake.Proofs.Charset.Excerpt — decoders with an excerpt of their tables.

  What is proved of files holds with any decoders of the encodings whose tables are not part of this
  library. An example needs some: these know ASCII and one character each, and read a text of those
  as the whole tables would. They are in force only where `Excerpt` is opened.
-/

import Intake.Proofs.Charset.Inspect

namespace Intake.Excerpt

/-- A lead byte, the byte after it, and the character they stand for. -/
abbrev Table := List (UInt8 × UInt8 × Char)

def find? (table : Table) (lead b : UInt8) : Text.Symbol :=
  (table.find? fun entry => entry.1 = lead ∧ entry.2.1 = b).map (·.2.2)

def ascii (b : UInt8) : Text.Symbol := some (Char.ofNat b.toNat)

/-- ASCII, and pairs whose lead byte is not ASCII. -/
def pairs (table : Table) : Text.Machine UInt8 Text.Symbol where
  State := Option UInt8
  start := none
  step := fun lead b =>
    match lead with
    | none => if b < 0x80 then (none, [ascii b]) else (some b, [])
    | some lead => (none, [find? table lead b])
  finish := fun lead => if lead.isSome then [none] else []

/-- ASCII, and pairs from one escape sequence to another; the bytes of a sequence or a pair so far
    are held back. -/
def escaped (table : Table) : Text.Machine UInt8 Text.Symbol where
  State := Bool × List UInt8
  start := (false, [])
  step := fun s b =>
    match s.2 ++ [b] with
    | [0x1B] | [0x1B, 0x24] | [0x1B, 0x28] => ((s.1, s.2 ++ [b]), [])
    | [0x1B, 0x24, 0x42] => ((true, []), [])
    | [0x1B, 0x28, 0x42] => ((false, []), [])
    | [first] => if s.1 then ((true, [first]), []) else ((false, []), [ascii first])
    | [lead, second] => ((s.1, []), [find? table lead second])
    | _ => ((s.1, []), [none])
  finish := fun s => if s.2.isEmpty then [] else [none]

scoped instance codecs : Codecs where
  shiftJis := pairs [(0x83, 0x7C, 'ポ')]
  eucJp := pairs [(0xA4, 0xA2, 'あ')]
  iso2022Jp := escaped [(0x24, 0x22, 'あ')]
  eucKr := pairs [(0xB0, 0xA1, '가')]
  gbk := pairs [(0xC4, 0xE3, '你')]
  gb18030 := pairs [(0xC4, 0xE3, '你')]
  big5 := pairs [(0xA7, 0x41, '你')]

/-- A text between marks of the pairs: the marks are no part of it. -/
example : Charset.iso2022Jp.decode [0x61, 0x1B, 0x24, 0x42, 0x24, 0x22, 0x1B, 0x28, 0x42, 0x62] = ['a', 'あ', 'b'] := by
  decide +kernel

end Intake.Excerpt
