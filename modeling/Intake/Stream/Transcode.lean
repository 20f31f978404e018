/-
  Intake.Stream.Transcode — a source converted to UTF-8 while it is read.

  The text is taken from a reader a buffer at a time and collected until the reader has no more. An
  interrupted read is tried again; a failed one fails the whole.
-/

import Intake.Charset.Decoder
import Intake.Stream.Copy
import Intake.Stream.Reader

namespace Intake.Stream

/-- All that a reader gives. -/
def Reader.drain {m : Text.Machine UInt8 UInt8} (r : Reader m) : Except String (List UInt8) :=
  match _hread : r.read bufferBytes with
  | (none, _) => .ok []
  | (some (.data bytes), r') => do return bytes ++ (← r'.drain)
  | (some .interrupted, r') => r'.drain
  | (some (.failed message), _) => .error message
termination_by (r.size, r.ready.length)
decreasing_by all_goals
  exact (Prod.lex_def).mpr (Reader.read_takes (by decide) _hread)

def transcode [Codecs] (c : Charset) (source : List ReadEvent) : Except String (List UInt8) :=
  (Reader.start c.converter source).drain

end Intake.Stream
