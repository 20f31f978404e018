/-
  Intake.Text.Blank — white space and control characters, and the trimming of texts.

  White space is the property White_Space of the Unicode standard. Trimming is done on lists of
  characters; `Text.trim` is the same on strings.
-/

import Intake.Text.CodeRanges

namespace Intake.Text

/-- The characters with the property White_Space. -/
def blankRanges : CodeRanges :=
  ⟨[(0x09, 0x0D), (0x20, 0x20), (0x85, 0x85), (0xA0, 0xA0), (0x1680, 0x1680), (0x2000, 0x200A),
    (0x2028, 0x2029), (0x202F, 0x202F), (0x205F, 0x205F), (0x3000, 0x3000)]⟩

def isBlank (c : Char) : Bool := blankRanges.contains c

/-- A control character: the code points below space, DEL, and the second control block. -/
def isControl (c : Char) : Bool :=
  c.toNat < 0x20 || (0x7F ≤ c.toNat && c.toNat < 0xA0)

def trimStart (cs : List Char) : List Char := cs.dropWhile isBlank

def trimEnd (cs : List Char) : List Char := (cs.reverse.dropWhile isBlank).reverse

/-- The text without the white space at either end. -/
def trimChars (cs : List Char) : List Char := trimEnd (trimStart cs)

def trim (s : String) : String := String.ofList (trimChars s.toList)

end Intake.Text
