/-
  Intake.Yaml.Gap — what stands between two words of a scalar, and what it is read as.

  Blanks within a line stay. Around line breaks they are dropped, and the breaks are folded: a line
  feed alone is a space, and of several breaks that begin with one the first is dropped.
-/

namespace Intake.Yaml

/-- Blanks and line breaks in a row, each last first. -/
structure Gap where
  blanks : List Char
  /-- Whether a line has ended. -/
  crossed : Bool
  /-- The line break that ended the first line, unless it was escaped. -/
  first : Option Char
  more : List Char

namespace Gap

def empty : Gap := ⟨[], false, none, []⟩

/-- Nothing but a line break that an escape takes away. -/
def escaped : Gap := ⟨[], true, none, []⟩

def isEmpty (g : Gap) : Bool := g.blanks.isEmpty && !g.crossed

/-- A blank at the start of a line counts for nothing. -/
def blank (g : Gap) (c : Char) : Gap :=
  if g.crossed then g else { g with blanks := c :: g.blanks }

/-- Blanks at the end of a line count for nothing. -/
def lineBreak (g : Gap) (c : Char) : Gap :=
  if g.crossed then { g with more := c :: g.more } else ⟨[], true, some c, []⟩

def fold (g : Gap) : List Char :=
  if !g.crossed then g.blanks
  else
    match g.first with
    | none => g.more
    | some c => if c ≠ '\n' then g.more ++ [c] else if g.more.isEmpty then [' '] else g.more

end Gap

end Intake.Yaml
