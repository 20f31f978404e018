/-
  Intake.Yaml.Scalar — single values: how one is written, and what it means.

  A tag says what kind of value a scalar is. A plain scalar without one may mean that there is no
  value, or a truth value.
-/

import Intake.Text.Utf8

namespace Intake.Yaml

/-- How a scalar is written. The text of a plain one may mean a value of another kind. -/
inductive Form where
  | plain
  | quoted
  | literal
  | folded
  deriving DecidableEq, Repr

abbrev Tag := List UInt8

def Tag.ofString (s : String) : Tag := Text.Utf8.encode s.toList

structure Scalar where
  text : String
  form : Form
  tag : Option Tag
  deriving DecidableEq, Repr

namespace Scalar

/-- The tags of the kinds that every document knows begin so. -/
def coreTags : Tag := Tag.ofString "tag:yaml.org,2002:"

def nullTag : Tag := coreTags ++ Tag.ofString "null"

def boolTag : Tag := coreTags ++ Tag.ofString "bool"

def isNullWord (s : String) : Bool := s = "~" || s = "null" || s = "Null" || s = "NULL"

def boolWord? (s : String) : Option Bool :=
  if s = "true" ∨ s = "True" ∨ s = "TRUE" then some true
  else if s = "false" ∨ s = "False" ∨ s = "FALSE" then some false
  else none

/-- Whether the scalar says that there is no value; none if its tag says so and its text not. -/
def isNull? (s : Scalar) : Option Bool :=
  if s.form ≠ .plain then some false
  else
    match s.tag with
    | none => some (s.text = "" || isNullWord s.text)
    | some tag =>
      if tag = nullTag then (if isNullWord s.text then some true else none) else some false

/-- The truth value a scalar spells out: a plain one, or a literal block with the tag for it. -/
def bool? (s : Scalar) : Option Bool :=
  match s.form, s.tag with
  | .plain, _ => boolWord? s.text
  | .literal, some tag => if tag = boolTag then boolWord? s.text else none
  | _, _ => none

def char? (s : Scalar) : Option Char :=
  match s.text.toList with
  | [c] => some c
  | _ => none

end Scalar

end Intake.Yaml
