/-
  Intake.Json.Writer — the text of JSON values: compact, without blanks, and indented, with each
  item and member on a line of its own, two spaces deeper than what it belongs to.
-/

import Intake.Json.Value
import Intake.Numeric.Shortest

namespace Intake.Json

def Number.text : Number → String
  | .int n => toString n
  | .real x => x.text

def hexDigit (n : Nat) : Char := Char.ofNat (if n < 10 then 48 + n else 87 + n)

/-- A character inside a string: quotes, backslashes and control characters are escaped. -/
def escapeChar (c : Char) : List Char :=
  match c with
  | '\"' => ['\\', '\"']
  | '\\' => ['\\', '\\']
  | '\x08' => ['\\', 'b']
  | '\x0c' => ['\\', 'f']
  | '\n' => ['\\', 'n']
  | '\r' => ['\\', 'r']
  | '\t' => ['\\', 't']
  | _ =>
    if c.toNat < 0x20 then
      ['\\', 'u', '0', '0', hexDigit (c.toNat / 16), hexDigit (c.toNat % 16)]
    else [c]

def quoteChars (cs : List Char) : List Char := ['\"'] ++ cs.flatMap escapeChar ++ ['\"']

def bracketed (cs : List Char) : List Char := '[' :: cs ++ [']']

def braced (cs : List Char) : List Char := '\x7b' :: cs ++ ['\x7d']

mutual

def compactChars : Json → List Char
  | null => "null".toList
  | bool b => (if b then "true" else "false").toList
  | number n => n.text.toList
  | string s => quoteChars s.toList
  | array items => bracketed (compactItems items)
  | object members => braced (compactMembers members)

def compactItems : List Json → List Char
  | [] => []
  | [v] => compactChars v
  | v :: vs => compactChars v ++ ',' :: compactItems vs

def compactMembers : List (String × Json) → List Char
  | [] => []
  | [(k, v)] => quoteChars k.toList ++ ':' :: compactChars v
  | (k, v) :: ms => quoteChars k.toList ++ ':' :: compactChars v ++ ',' :: compactMembers ms

end

def compact (v : Json) : String := String.ofList (compactChars v)

def lineAt (depth : Nat) : List Char := '\n' :: List.replicate (2 * depth) ' '

mutual

/-- The indented text of a value that stands `depth` containers deep. -/
def indented (depth : Nat) : Json → List Char
  | null => "null".toList
  | bool b => (if b then "true" else "false").toList
  | number n => n.text.toList
  | string s => quoteChars s.toList
  | array items =>
    bracketed (if items.isEmpty then [] else indentedItems (depth + 1) items ++ lineAt depth)
  | object members =>
    braced (if members.isEmpty then [] else indentedMembers (depth + 1) members ++ lineAt depth)

def indentedItems (depth : Nat) : List Json → List Char
  | [] => []
  | [v] => lineAt depth ++ indented depth v
  | v :: vs => lineAt depth ++ indented depth v ++ ',' :: indentedItems depth vs

def indentedMembers (depth : Nat) : List (String × Json) → List Char
  | [] => []
  | [(k, v)] => lineAt depth ++ quoteChars k.toList ++ ':' :: ' ' :: indented depth v
  | (k, v) :: ms =>
    lineAt depth ++ quoteChars k.toList ++ ':' :: ' ' :: indented depth v ++
      ',' :: indentedMembers depth ms

end

def report (v : Json) : String := String.ofList (indented 0 v ++ ['\n'])

end Intake.Json
