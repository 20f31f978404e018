/-
  Intake.Command.Character — the characters of a dialect as they are given on the command line.
-/

namespace Intake.Command

inductive CharacterError where
  | empty
  | several
  | notAscii
  deriving DecidableEq, Repr

def CharacterError.message : CharacterError → String
  | empty => "Value cannot be empty"
  | several => "Value must be a single character"
  | notAscii => "Value must be ASCII"

/-- The byte of a text of one ASCII character. -/
def parseCharacter (s : String) : Except CharacterError UInt8 :=
  match s.toList with
  | [] => .error .empty
  | [c] => if c.toNat < 128 then .ok (UInt8.ofNat c.toNat) else .error .notAscii
  | _ => .error .several

def delimiterWords : List (String × UInt8) :=
  [("tab", 0x09), ("\\t", 0x09), ("comma", 0x2C), ("pipe", 0x7C), ("semicolon", 0x3B)]

/-- The byte of a delimiter, given as itself or in a word. -/
def parseDelimiter (s : String) : Except CharacterError UInt8 :=
  match delimiterWords.find? fun w => w.1 = s with
  | some w => .ok w.2
  | none => parseCharacter s

end Intake.Command
