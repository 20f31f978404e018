/-
  Intake.Yaml.Node — the contents of a document: scalars, sequences and mappings.

  A node can be given a name and stand for itself again under that name. Names are numbered: a node
  gets the number of names so far, also where its name is not new, and an alias stands for the last
  node that got the number its name has there.
-/

import Intake.Yaml.Event
import Intake.Yaml.Lexer

namespace Intake.Yaml

inductive Node where
  | scalar (s : Scalar)
  | sequence (items : List Node)
  | mapping (entries : List (Node × Node))
  /-- The node of this number. -/
  | alias (number : Nat)
  deriving Inhabited

/-- A document, and for each number the scalar that got it, if it was one, the last first. -/
structure Document where
  root : Node
  numbered : List (Nat × Option Scalar)

def Document.scalar? (d : Document) : Node → Option Scalar
  | .scalar s => some s
  | .alias number => (d.numbered.lookup number).bind id
  | _ => none

def Document.entries? (d : Document) : Option (List (Node × Node)) :=
  match d.root with
  | .mapping entries => some entries
  | _ => none

/-! ## From events -/

/-- A collection that has not ended, its contents last first; a mapping may wait for the value of a
    key. -/
inductive Collection where
  | sequence (items : List Node)
  | mapping (entries : List (Node × Node)) (key : Option Node)

def Collection.add (n : Node) : Collection → Collection
  | .sequence items => .sequence (n :: items)
  | .mapping entries none => .mapping entries (some n)
  | .mapping entries (some key) => .mapping ((key, n) :: entries) none

def Collection.close : Collection → Node
  | .sequence items => .sequence items.reverse
  | .mapping entries _ => .mapping entries.reverse

structure Assembly where
  stack : List Collection
  root : Option Node
  /-- The numbers of the names. -/
  names : List (String × Nat)
  numbered : List (Nat × Option Scalar)

namespace Assembly

def start : Assembly := ⟨[], none, [], []⟩

def add (a : Assembly) (n : Node) : Assembly :=
  match a.stack with
  | [] => { a with root := some n }
  | c :: stack => { a with stack := c.add n :: stack }

/-- Numbers a node that has a name. -/
def number (a : Assembly) (anchor : Option String) (s : Option Scalar) : Assembly :=
  match anchor with
  | none => a
  | some name =>
    let number := a.names.length
    { a with
      names := (name, number) :: a.names.filter (·.1 ≠ name)
      numbered := (number, s) :: a.numbered }

def enter (a : Assembly) (c : Collection) : Assembly := { a with stack := c :: a.stack }

def leave (a : Assembly) : Assembly :=
  match a.stack with
  | [] => a
  | c :: stack => { a with stack }.add c.close

def push (a : Assembly) : Event → Option Assembly
  | .scalar anchor s => some ((a.number anchor (some s)).add (.scalar s))
  | .alias name => (a.names.lookup name).map fun number => a.add (.alias number)
  | .sequence anchor => some ((a.number anchor none).enter (.sequence []))
  | .mapping anchor => some ((a.number anchor none).enter (.mapping [] none))
  | .sequenceEnd | .mappingEnd => some a.leave

end Assembly

/-- The document of its events, if every alias has a name that was given before. -/
def Document.ofEvents? (events : List Event) : Option Document := do
  let a ← events.foldlM Assembly.push .start
  return ⟨← a.root, a.numbered⟩

def Document.parse? (ls : List Letter) : Option Document := do
  Document.ofEvents? (← Event.ofTokens? (← tokens? ls))

def Document.read? (bytes : List UInt8) : Option Document := (letters? bytes).bind Document.parse?

end Intake.Yaml
