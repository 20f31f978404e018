/-
  Intake.Charset.Detect — the encoding of a file about which nothing is known.

  A byte-order mark decides. Without one, bytes that are the beginning of a UTF-8 text are taken
  for UTF-8, since a sample may end inside a character, and all others for windows-1252.
-/

import Intake.Charset.Mark
import Intake.Text.Utf8

namespace Intake.Charset

def sampleBytes : Nat := 65536

def detect (sample : List UInt8) : Charset :=
  match marked? sample with
  | some c => c
  | none => if Text.Utf8.isOpening sample then utf8 else single .windows1252

/-- The encoding of a whole file. -/
def detectFile (contents : List UInt8) : Charset := detect (contents.take sampleBytes)

end Intake.Charset
