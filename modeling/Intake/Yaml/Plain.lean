/-
  Intake.Yaml.Plain — scalars without quotes.

  One goes on until something ends it that means something else; where no bracket is open, also
  until a line begins too far left.
-/

import Intake.Yaml.Gap
import Intake.Yaml.Text

namespace Intake.Yaml

def isFlowMark (c : Char) : Bool := c = ',' || c = '[' || c = ']' || c = '\x7b' || c = '\x7d'

/-- Characters that begin something other than a plain scalar. -/
def indicators : List Char :=
  ['-', '?', ':', ',', '[', ']', '\x7b', '\x7d', '#', '&', '*', '!', '|', '>', '\x27', '\"', '%',
   '@', '\x60']

namespace Plain

def begins (flow : Bool) : List Letter → Bool
  | [] => false
  | l :: ls =>
    if l.char = '-' then !nextIs isBlank ls
    else if l.char = '?' ∨ l.char = ':' then !flow && !endsWord ls
    else !indicators.contains l.char && !isBlank l.char && !isBreak l.char

/-- Whether a plain scalar ends before these characters; `least` is the first column its lines may
    begin in. -/
def endsAt (flow : Bool) (least : Nat) (g : Gap) (l : Letter) (ls : List Letter) : Bool :=
  (l.char = ':' && endsWord ls) || (flow && isFlowMark l.char) ||
    (l.char = '#' && !g.isEmpty) || (g.crossed && !flow && l.column < least) ||
    isDocumentMark (l :: ls)

/-- A colon inside brackets that can neither end a key nor belong to a text. -/
def refuses (flow : Bool) (l : Letter) (ls : List Letter) : Bool :=
  flow && l.char = ':' && nextIs (fun c => isFlowMark c || c = '?') ls

/-- A plain scalar: its text, whether a line has ended after it, and what follows. -/
structure Reading where
  text : List Char
  crossed : Bool
  rest : List Letter

/-- The rest of a plain scalar; `out` is the text so far, last first. -/
def readFrom (flow : Bool) (least : Nat) (out : List Char) (g : Gap) :
    List Letter → Option Reading
  | [] => some ⟨out.reverse, g.crossed, []⟩
  | l :: ls =>
    if isBreak l.char then readFrom flow least out (g.lineBreak l.char) ls
    else if isBlank l.char then
      if g.crossed ∧ l.column < least ∧ l.char = '\t' then none
      else readFrom flow least out (g.blank l.char) ls
    else if endsAt flow least g l ls then some ⟨out.reverse, g.crossed, l :: ls⟩
    else if refuses flow l ls then none
    else readFrom flow least (l.char :: (g.fold ++ out)) .empty ls

def read? (flow : Bool) (least : Nat) (ls : List Letter) : Option Reading :=
  readFrom flow least [] .empty ls

end Plain

end Intake.Yaml
