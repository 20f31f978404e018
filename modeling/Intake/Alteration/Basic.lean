/-
  Intake.Alteration.Basic — a change of one column of a table.

  A change holds only what is to be done. The default value and the description can be left as
  they are, cleared, or set.
-/

import Intake.Json.Value

namespace Intake.Alteration

/-- What happens to something that can be left alone, cleared, or set. -/
inductive Patch (α : Type) where
  | unset
  | clear
  | set (value : α)
  deriving DecidableEq, Repr

namespace Patch

variable {α β : Type}

/-- What a value that is there says: to set it, or if it is null to clear. -/
def ofOption : Option α → Patch α
  | some a => set a
  | none => clear

def isSet : Patch α → Bool
  | set _ => true
  | _ => false

/-- What the value that is to be set says itself. -/
def bind (p : Patch α) (f : α → Patch β) : Patch β :=
  match p with
  | unset => unset
  | clear => clear
  | set a => f a

end Patch

structure TypeChange where
  name : Option String
  options : Option Json

structure Change where
  attnum : Int
  typeChange : Option TypeChange
  notNull : Option Bool
  name : Option String
  defaultValue : Patch Json
  delete : Option Bool
  description : Patch String

def Change.requestedType (c : Change) : Option String := c.typeChange.bind TypeChange.name

def Change.setsDefault (c : Change) : Bool := c.defaultValue.isSet

def isColumnNumber (n : Int) : Bool := 1 ≤ n && n ≤ 32767

end Intake.Alteration
