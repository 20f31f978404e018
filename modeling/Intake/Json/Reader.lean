/-
  Intake.Json.Reader — JSON values from text.

  The text is cut into tokens one character at a time (`lexer`), and the tokens are put together
  with a stack of the arrays and objects that are still open (`Assembly`). A value may lie at
  most `maxDepth` containers deep. Numbers without fraction and exponent are integers when they
  lie between `-2^63` and `2^64 - 1`; all others, and `-0`, are floating point numbers.
-/

import Intake.Json.Value
import Intake.Numeric.Hex
import Intake.Text.Machine
import Intake.Text.Utf8

namespace Intake.Json.Reader

/-! ## Numbers -/

/-- A number as it is written: the digits before and after the point, and the exponent. -/
structure Numeral where
  negative : Bool
  whole : List Nat
  fraction : Option (List Nat)
  exponent : Option (Bool × List Nat)

def digit? (c : Char) : Option Nat := if c.isDigit then some (c.toNat - 48) else none

def digits (cs : List Char) : List Nat × List Char :=
  ((cs.takeWhile Char.isDigit).filterMap digit?, cs.dropWhile Char.isDigit)

/-- Reads a whole text as a number: no leading zero, and a digit on each side of a point. -/
def numeral? (cs : List Char) : Option Numeral := do
  let (negative, cs) := match cs with
    | '-' :: rest => (true, rest)
    | cs => (false, cs)
  let (whole, cs) := digits cs
  if whole = [] ∨ (whole.head? = some 0 ∧ whole.length > 1) then none
  else
    let (fraction, cs) := match cs with
      | '.' :: rest => (some (digits rest).1, (digits rest).2)
      | cs => (none, cs)
    if fraction = some [] then none
    else
      let marked := cs.head? = some 'e' ∨ cs.head? = some 'E'
      if marked then
        let (down, cs) := match cs.tail with
          | '-' :: rest => (true, rest)
          | '+' :: rest => (false, rest)
          | cs => (false, cs)
        let (exponent, cs) := digits cs
        if exponent = [] ∨ cs ≠ [] then none
        else some ⟨negative, whole, fraction, some (down, exponent)⟩
      else if cs ≠ [] then none
      else some ⟨negative, whole, fraction, none⟩

/-- The leading digits as a number below `2^64`, and how many digits did not fit. -/
def significand (m : Nat) : List Nat → Nat × Nat
  | [] => (m, 0)
  | d :: ds => if m * 10 + d < Nat.pow 2 64 then significand (m * 10 + d) ds else (m, ds.length + 1)

def natOfDigits (ds : List Nat) : Nat := ds.foldl (fun m d => m * 10 + d) 0

/-- The digits a significand takes in, and the power of ten it then stands for. -/
def Numeral.scaled (n : Numeral) : Nat × Int :=
  let (m, missing) := significand 0 n.whole
  match n.fraction with
  | none => (m, missing)
  | some ds =>
    let (m', dropped) := significand m ds
    (m', (missing : Int) - ((ds.length - dropped : Nat) : Int))

/-- Exponents from here on are out of range whatever the significand. -/
def maxExponent : Nat := Nat.pow 2 31 - 1

def Numeral.real? (n : Numeral) : Option Numeric.Binary64 :=
  let (m, scale) := n.scaled
  match n.exponent with
  | none => Numeric.Binary64.ofDecimal n.negative (UInt64.ofNat m) scale
  | some (down, ds) =>
    let e := natOfDigits ds
    if e > maxExponent then
      if m ≠ 0 ∧ !down then none
      else Numeric.Binary64.ofDecimal n.negative 0 0
    else
      let shifted := if down then scale - e else scale + e
      Numeric.Binary64.ofDecimal n.negative (UInt64.ofNat m) shifted

def Numeral.value? (n : Numeral) : Option Number :=
  let whole := natOfDigits n.whole
  if n.fraction = none ∧ n.exponent = none ∧
      (if n.negative then 0 < whole ∧ whole ≤ Nat.pow 2 63 else whole < Nat.pow 2 64) then
    some (.int (if n.negative then -(whole : Int) else whole))
  else n.real?.map .real

/-! ## Tokens -/

inductive Token where
  | openArray
  | closeArray
  | openObject
  | closeObject
  | colon
  | comma
  | string (s : String)
  | scalar (v : Json)

/-- Where the lexer stands inside a string. -/
inductive Part where
  | plain
  | escape
  /-- Inside the four digits of an escape, after the first half of a pair if there was one. -/
  | unicode (missing : Nat) (value : Nat) (lead : Option Nat)
  /-- After the first half of a pair, whose second half must follow. -/
  | paired (lead : Nat)
  | pairedEscape (lead : Nat)

inductive LexState where
  | between
  | word (reversed : List Char)
  | number (reversed : List Char)
  | text (part : Part) (reversed : List Char)
  | failed

def isNumberChar (c : Char) : Bool :=
  c.isDigit || c = '-' || c = '+' || c = '.' || c = 'e' || c = 'E'

def word? (cs : List Char) : Option Token :=
  if cs = "null".toList then some (.scalar .null)
  else if cs = "true".toList then some (.scalar (.bool true))
  else if cs = "false".toList then some (.scalar (.bool false))
  else none

def number? (cs : List Char) : Option Token :=
  ((numeral? cs).bind Numeral.value?).map fun n => .scalar (.number n)

def lexBetween (c : Char) : LexState × List (Option Token) :=
  if c = ' ' || c = '\n' || c = '\t' || c = '\r' then (.between, [])
  else if c = '[' then (.between, [some .openArray])
  else if c = ']' then (.between, [some .closeArray])
  else if c = '\x7b' then (.between, [some .openObject])
  else if c = '\x7d' then (.between, [some .closeObject])
  else if c = ':' then (.between, [some .colon])
  else if c = ',' then (.between, [some .comma])
  else if c = '\"' then (.text .plain [], [])
  else if c = '-' || c.isDigit then (.number [c], [])
  else if c.isLower then (.word [c], [])
  else (.failed, [none])

def endUnicode (value : Nat) (lead : Option Nat) (rev : List Char) : LexState :=
  match lead with
  | none =>
    if 0xDC00 ≤ value ∧ value ≤ 0xDFFF then .failed
    else if 0xD800 ≤ value ∧ value ≤ 0xDBFF then .text (.paired value) rev
    else .text .plain (Char.ofNat value :: rev)
  | some high =>
    if 0xDC00 ≤ value ∧ value ≤ 0xDFFF then
      .text .plain (Char.ofNat (0x10000 + (high - 0xD800) * 0x400 + (value - 0xDC00)) :: rev)
    else .failed

def lexPart (part : Part) (rev : List Char) (c : Char) : LexState :=
  match part with
  | .plain =>
    if c = '\\' then .text .escape rev
    else if c.toNat < 0x20 then .failed
    else .text .plain (c :: rev)
  | .escape =>
    match c with
    | '\"' | '\\' | '/' => .text .plain (c :: rev)
    | 'b' => .text .plain ('\x08' :: rev)
    | 'f' => .text .plain ('\x0c' :: rev)
    | 'n' => .text .plain ('\n' :: rev)
    | 'r' => .text .plain ('\r' :: rev)
    | 't' => .text .plain ('\t' :: rev)
    | 'u' => .text (.unicode 4 0 none) rev
    | _ => .failed
  | .unicode missing value lead =>
    match Numeric.hexDigit? c with
    | none => .failed
    | some d =>
      if missing ≤ 1 then endUnicode (value * 16 + d) lead rev
      else .text (.unicode (missing - 1) (value * 16 + d) lead) rev
  | .paired lead => if c = '\\' then .text (.pairedEscape lead) rev else .failed
  | .pairedEscape lead => if c = 'u' then .text (.unicode 4 0 (some lead)) rev else .failed

def isPlain : Part → Bool
  | .plain => true
  | _ => false

/-- A token that the next character ends. -/
def ended : LexState → List (Option Token)
  | .between => []
  | .word rev => [word? rev.reverse]
  | .number rev => [number? rev.reverse]
  | .text .. => [none]
  | .failed => [none]

def lex (s : LexState) (c : Char) : LexState × List (Option Token) :=
  match s with
  | .between => lexBetween c
  | .word rev =>
    if c.isLower then (.word (c :: rev), [])
    else
      let next := lexBetween c
      (next.1, ended s ++ next.2)
  | .number rev =>
    if isNumberChar c then (.number (c :: rev), [])
    else
      let next := lexBetween c
      (next.1, ended s ++ next.2)
  | .text part rev =>
    if isPlain part ∧ c = '\"' then (.between, [some (.string (String.ofList rev.reverse))])
    else (lexPart part rev c, [])
  | .failed => (.failed, [])

/-- The tokens of a text, and `none` where there is no token. -/
def lexer : Text.Machine Char (Option Token) where
  State := LexState
  start := .between
  step := lex
  finish := ended

/-! ## Values -/

def maxDepth : Nat := 127

/-- A container that is still open; an object waits for the value of `key`. -/
inductive Frame where
  | array (reversed : List Json)
  | object (done : Members) (key : String)

inductive Expected where
  | value
  | firstItem
  | firstKey
  | key
  | colon
  | separator
  | nothing (v : Json)

structure Assembly where
  stack : List Frame
  expected : Expected

namespace Assembly

/-- A finished value goes into the container around it. -/
def complete (v : Json) : List Frame → Assembly
  | [] => ⟨[], .nothing v⟩
  | .array done :: rest => ⟨.array (v :: done) :: rest, .separator⟩
  | .object done key :: rest => ⟨.object (done.insert key v) key :: rest, .separator⟩

def openFrame (stack : List Frame) (frame : Frame) (expected : Expected) : Option Assembly :=
  if stack.length < maxDepth then some ⟨frame :: stack, expected⟩ else none

def value (stack : List Frame) : Token → Option Assembly
  | .scalar v => some (complete v stack)
  | .string s => some (complete (.string s) stack)
  | .openArray => openFrame stack (.array []) .firstItem
  | .openObject => openFrame stack (.object [] "") .firstKey
  | _ => none

def push (a : Assembly) (t : Token) : Option Assembly :=
  match a.expected, a.stack, t with
  | .value, stack, t => value stack t
  | .firstItem, .array _ :: rest, .closeArray => some (complete (.array []) rest)
  | .firstItem, stack, t => value stack t
  | .firstKey, .object .. :: rest, .closeObject => some (complete (.object []) rest)
  | .firstKey, .object done _ :: rest, .string key => some ⟨.object done key :: rest, .colon⟩
  | .key, .object done _ :: rest, .string key => some ⟨.object done key :: rest, .colon⟩
  | .colon, stack, .colon => some ⟨stack, .value⟩
  | .separator, .array done :: rest, .closeArray => some (complete (.array done.reverse) rest)
  | .separator, .array done :: rest, .comma => some ⟨.array done :: rest, .value⟩
  | .separator, .object done _ :: rest, .closeObject => some (complete (.object done) rest)
  | .separator, .object done key :: rest, .comma => some ⟨.object done key :: rest, .key⟩
  | _, _, _ => none

def result? (a : Assembly) : Option Json :=
  match a.expected with
  | .nothing v => some v
  | _ => none

end Assembly

def assemble (tokens : List (Option Token)) : Option Json :=
  let push (a : Option Assembly) (t : Option Token) : Option Assembly := do (← a).push (← t)
  (tokens.foldl push (some ⟨[], .value⟩)).bind Assembly.result?

end Reader

/-- The value a text spells out, with nothing but blanks around it. -/
def parse? (cs : List Char) : Option Json := Reader.assemble (Reader.lexer.run cs)

def parseBytes? (bytes : List UInt8) : Option Json := (Text.Utf8.decode? bytes).bind parse?

end Intake.Json
