/-
  Intake.Charset.Decoder — reading bytes in an encoding.

  Two readings of one file stand side by side. `decoder` reads bytes as they are. `inspector` is
  how a file is looked at and converted: it first drops a byte-order mark, of whichever encoding,
  and after it a mark of the file's own encoding. In a text that has been read a replacement
  character stands for each malformed sequence.

  The tables of the multi-byte encodings of East Asia are not part of this library. Their decoders
  are given from outside, as machines: nothing is asked of them but that they read byte by byte, so
  that a text does not depend on the pieces in which its bytes come.
-/

import Intake.Charset.Mark
import Intake.Charset.SingleByte
import Intake.Charset.Utf16
import Intake.Text.Utf8

namespace Intake

/-- The decoders of the encodings whose tables are not part of this library. -/
class Codecs where
  shiftJis : Text.Machine UInt8 Text.Symbol
  eucJp : Text.Machine UInt8 Text.Symbol
  iso2022Jp : Text.Machine UInt8 Text.Symbol
  eucKr : Text.Machine UInt8 Text.Symbol
  gbk : Text.Machine UInt8 Text.Symbol
  gb18030 : Text.Machine UInt8 Text.Symbol
  big5 : Text.Machine UInt8 Text.Symbol

namespace Charset

/-- Any text of an unsafe encoding is one malformed sequence. -/
def refuse : Text.Machine UInt8 Text.Symbol where
  State := Bool
  start := false
  step := fun refused _ => (true, if refused then [] else [none])
  finish := fun _ => []

/-- The upper half of the bytes lies in the private use area. -/
def userDefinedDecoder : Text.Machine UInt8 Text.Symbol where
  State := Unit
  start := ()
  step := fun _ b =>
    ((), [some (Char.ofNat (if b < 0x80 then b.toNat else 0xF780 + (b.toNat - 0x80)))])
  finish := fun _ => []

def replacementCharacter : Char := '\ufffd'

/-- A text with every malformed sequence replaced. -/
def legible (symbols : List Text.Symbol) : List Char :=
  symbols.map fun symbol => symbol.getD replacementCharacter

def writer : Text.Machine Text.Symbol UInt8 where
  State := Unit
  start := ()
  step := fun _ symbol => ((), String.utf8EncodeChar (symbol.getD replacementCharacter))
  finish := fun _ => []

variable [Codecs]

/-- Reads bytes in an encoding, a mark as the character it is. -/
def decoder : Charset → Text.Machine UInt8 Text.Symbol
  | utf8 => Text.Utf8.decoder
  | utf16le => Utf16.decoder .little
  | utf16be => Utf16.decoder .big
  | single s => s.decoder
  | shiftJis => Codecs.shiftJis
  | eucJp => Codecs.eucJp
  | iso2022Jp => Codecs.iso2022Jp
  | eucKr => Codecs.eucKr
  | gbk => Codecs.gbk
  | gb18030 => Codecs.gb18030
  | big5 => Codecs.big5
  | replacement => refuse
  | userDefined => userDefinedDecoder

/-- Reads a file in an encoding, without its marks. -/
def inspector (c : Charset) : Text.Machine UInt8 Text.Symbol :=
  headless.andThen ((markless c.mark).andThen c.decoder)

def decode (c : Charset) (bytes : List UInt8) : List Char := legible (c.decoder.run bytes)

/-- The text of a file, without its marks. -/
def inspect (c : Charset) (bytes : List UInt8) : List Char := legible (c.inspector.run bytes)

/-- The text of the first bytes of a file, of which more may follow. -/
def inspectBefore (c : Charset) (bytes : List UInt8) : List Char := legible (c.inspector.before bytes)

def inspectBytes (c : Charset) (bytes : List UInt8) : List UInt8 :=
  Text.Utf8.encode (c.inspect bytes)

def converter (c : Charset) : Text.Machine UInt8 UInt8 := c.inspector.andThen writer

end Charset

end Intake
