/-
  Intake.Yaml.Lexer — the tokens of a text.

  A key without a sign of its own is known only by the colon after it. So the lexer remembers where
  such a key may have begun, one place for each bracket that is open, and when it finds the colon
  puts a token before that place. The key has to lie on one line and to be at most 1024 bytes
  before its colon.
-/

import Intake.Yaml.Block
import Intake.Yaml.Plain
import Intake.Yaml.Quoted
import Intake.Yaml.Token

namespace Intake.Yaml

/-- A place where a key may have begun. -/
structure Candidate where
  /-- Whether nothing but a key can stand there. -/
  required : Bool
  /-- How many tokens are before it. -/
  index : Nat
  place : Place

/-- How many bytes there may be from a key to its colon. -/
def longestKey : Nat := 1024

def Candidate.isStale (k : Candidate) (p : Place) : Bool :=
  k.place.line < p.line || k.place.offset + longestKey < p.offset

structure Lexer where
  tokens : Array Token
  /-- The columns of the blocks that are open, the innermost first. -/
  columns : List Nat
  candidate : Option Candidate
  /-- The candidates outside of each bracket that is open, the innermost first. -/
  outer : List (Option Candidate)
  /-- Whether a key or an entry of a block may begin. -/
  keyAllowed : Bool

namespace Lexer

def start : Lexer := ⟨#[], [], none, [], true⟩

/-- Whether a bracket is open; then indentation does not count. -/
def inFlow (s : Lexer) : Bool := !s.outer.isEmpty

/-- The first column in which something that belongs to the innermost block may begin. -/
def least (s : Lexer) : Nat :=
  match s.columns with
  | [] => 0
  | n :: _ => n + 1

def emit (s : Lexer) (t : Token) : Lexer := { s with tokens := s.tokens.push t }

/-! ## Keys -/

/-- Gives the candidate up, unless only a key can stand there. -/
def dropCandidate (s : Lexer) : Option Lexer :=
  if s.candidate.any Candidate.required then none else some { s with candidate := none }

def fresh? (p : Place) : Option Candidate → Option (Option Candidate)
  | none => some none
  | some k => if !k.isStale p then some (some k) else if k.required then none else some none

def expire (s : Lexer) (p : Place) : Option Lexer := do
  let candidate ← fresh? p s.candidate
  let outer ← s.outer.mapM (fresh? p)
  return { s with candidate, outer }

def nominate (s : Lexer) (p : Place) : Option Lexer :=
  if s.keyAllowed then
    let required := !s.inFlow && s.columns.head? = some p.column
    s.dropCandidate.map fun s => { s with candidate := some ⟨required, s.tokens.size, p⟩ }
  else some s

/-! ## Blocks -/

def openBlock (s : Lexer) (t : Token) (index column : Nat) : Lexer :=
  if s.inFlow ∨ column < s.least then s
  else { s with columns := column :: s.columns, tokens := s.tokens.insertIdxIfInBounds index t }

/-- Closes the innermost blocks while their columns satisfy a condition. -/
def closeBlocks (s : Lexer) (p : Nat → Bool) : Lexer :=
  if s.inFlow then s
  else
    let closed := s.columns.takeWhile p
    { s with
      columns := s.columns.drop closed.length
      tokens := s.tokens ++ (List.replicate closed.length Token.blockEnd).toArray }

/-- Before a line that belongs to no block. -/
def leaveBlocks (s : Lexer) : Option Lexer :=
  (s.closeBlocks fun _ => true).dropCandidate.map fun s => { s with keyAllowed := false }

/-! ## Signs -/

def openBracket (s : Lexer) (t : Token) (p : Place) : Option Lexer :=
  (s.nominate p).map fun s =>
    { s with candidate := none, outer := s.candidate :: s.outer, keyAllowed := true }.emit t

def closeBracket (s : Lexer) (t : Token) : Option Lexer :=
  s.dropCandidate.map fun s =>
    let s := match s.outer with
      | [] => s
      | candidate :: outer => { s with candidate, outer }
    { s with keyAllowed := false }.emit t

def comma (s : Lexer) : Option Lexer :=
  s.dropCandidate.map fun s => { s with keyAllowed := true }.emit .comma

def item (s : Lexer) (p : Place) : Option Lexer :=
  if !s.inFlow ∧ !s.keyAllowed then none
  else
    (s.openBlock .blockSequence s.tokens.size p.column).dropCandidate.map fun s =>
      { s with keyAllowed := true }.emit .item

def key (s : Lexer) (p : Place) : Option Lexer :=
  if !s.inFlow ∧ !s.keyAllowed then none
  else
    (s.openBlock .blockMapping s.tokens.size p.column).dropCandidate.map fun s =>
      { s with keyAllowed := !s.inFlow }.emit .key

/-- The colon after a key, or before the value of a key that has a sign. -/
def value (s : Lexer) (p : Place) : Option Lexer :=
  match s.candidate with
  | some k =>
    let s := { s with
      tokens := s.tokens.insertIdxIfInBounds k.index .key
      candidate := none
      keyAllowed := false }
    some ((s.openBlock .blockMapping k.index k.place.column).emit .value)
  | none =>
    if !s.inFlow ∧ !s.keyAllowed then none
    else
      let s := s.openBlock .blockMapping s.tokens.size p.column
      some ({ s with keyAllowed := !s.inFlow }.emit .value)

/-- A token that may be a key, or stand before one. -/
def word (s : Lexer) (p : Place) (t : Token) : Option Lexer :=
  (s.nominate p).map fun s => { s with keyAllowed := false }.emit t

def scalarOf (text : List Char) (form : Form) : Token := .scalar (String.ofList text) form

/-- A block scalar; a key may begin after it. -/
def block (s : Lexer) (literal : Bool) (ls : List Letter) : Option (Lexer × List Letter) := do
  let s ← s.dropCandidate
  let (text, rest) ← Block.read? literal s.least ls
  let form := if literal then Form.literal else Form.folded
  return ({ s with keyAllowed := true }.emit (scalarOf text form), rest)

/-- A plain scalar; a key may begin after it if a line has ended. -/
def plain (s : Lexer) (p : Place) (ls : List Letter) : Option (Lexer × List Letter) := do
  let r ← Plain.read? s.inFlow s.least ls
  let s ← s.word p (scalarOf r.text .plain)
  return ({ s with keyAllowed := r.crossed }, r.rest)

/-! ## Texts -/

/-- Skips blanks, comments and line breaks; also says whether a key may begin after them. Where one
    may, tabs are no blanks, unless indentation does not count. -/
def skipGaps (flow keyAllowed comment : Bool) : List Letter → Bool × List Letter
  | [] => (keyAllowed, [])
  | l :: ls =>
    if isBreak l.char then skipGaps flow (keyAllowed || !flow) false ls
    else if comment then skipGaps flow keyAllowed true ls
    else if l.char = '#' then skipGaps flow keyAllowed true ls
    else if l.char = ' ' ∨ (l.char = '\t' ∧ (flow ∨ !keyAllowed)) ∨
        (l.char = orderMark ∧ l.column = 0) then
      skipGaps flow keyAllowed false ls
    else (keyAllowed, l :: ls)

def next (s : Lexer) (l : Letter) (ls : List Letter) : Option (Lexer × List Letter) :=
  let p := l.place
  let c := l.char
  let flow := s.inFlow
  if p.column = 0 ∧ c = '%' then do
    let s ← s.leaveBlocks
    let (t, rest) ← directive? ls
    return (s.emit t, rest)
  else if isTriple '-' (l :: ls) then
    s.leaveBlocks.map fun s => (s.emit .documentStart, ls.drop 2)
  else if isTriple '.' (l :: ls) then
    s.leaveBlocks.map fun s => (s.emit .documentEnd, ls.drop 2)
  else if c = '[' then (s.openBracket .flowSequence p).map (·, ls)
  else if c = '\x7b' then (s.openBracket .flowMapping p).map (·, ls)
  else if c = ']' then (s.closeBracket .flowSequenceEnd).map (·, ls)
  else if c = '\x7d' then (s.closeBracket .flowMappingEnd).map (·, ls)
  else if c = ',' then s.comma.map (·, ls)
  else if c = '-' ∧ endsWord ls then (s.item p).map (·, ls)
  else if c = '?' ∧ (flow ∨ endsWord ls) then (s.key p).map (·, ls)
  else if c = ':' ∧ (flow ∨ endsWord ls) then (s.value p).map (·, ls)
  else if c = '*' then do
    let (name, rest) ← anchorName? ls
    return (← s.word p (.alias name), rest)
  else if c = '&' then do
    let (name, rest) ← anchorName? ls
    return (← s.word p (.anchor name), rest)
  else if c = '!' then do
    let (tag, rest) ← Tag.read? flow (l :: ls)
    return (← s.word p (.tag tag), rest)
  else if c = '|' ∧ !flow then s.block true ls
  else if c = '>' ∧ !flow then s.block false ls
  else if c = '\x27' then do
    let (text, rest) ← Quoted.single? ls
    return (← s.word p (scalarOf text .quoted), rest)
  else if c = '\"' then do
    let (text, rest) ← Quoted.double? ls
    return (← s.word p (scalarOf text .quoted), rest)
  else if Plain.begins flow (l :: ls) then s.plain p (l :: ls)
  else none

/-- The tokens of the rest of a text. Every token reads a character, so there are no more of them
    than characters. -/
def tokensFrom (fuel : Nat) (s : Lexer) (ls : List Letter) : Option (List Token) :=
  match fuel with
  | 0 => none
  | fuel + 1 =>
    let (keyAllowed, ls) := skipGaps s.inFlow s.keyAllowed false ls
    let s := { s with keyAllowed }
    match ls with
    | [] => s.leaveBlocks.map fun s => (s.emit .textEnd).tokens.toList
    | l :: ls => do
      let s ← s.expire l.place
      let (s, rest) ← (s.closeBlocks (l.column < ·)).next l ls
      tokensFrom fuel s rest

end Lexer

/-- The tokens of a text, if it has no fault that a single token shows. -/
def tokens? (ls : List Letter) : Option (List Token) :=
  Lexer.tokensFrom (ls.length + 1) .start ls

end Intake.Yaml
