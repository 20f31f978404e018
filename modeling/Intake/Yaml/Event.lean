/-
  Intake.Yaml.Event — a document as the beginnings and ends of its nodes, in order.

  The grammar reads one token at a time and needs none in advance: a token first ends what cannot go
  on with it (`settle`), among it nodes that are not there, and is then read (`read`). Nodes that
  are still open wait on a stack.
-/

import Intake.Yaml.Scalar
import Intake.Yaml.Token

namespace Intake.Yaml

inductive Event where
  | scalar (anchor : Option String) (s : Scalar)
  | alias (name : String)
  | sequence (anchor : Option String)
  | sequenceEnd
  | mapping (anchor : Option String)
  | mappingEnd

/-- What stands before a node: a name for it and a tag. -/
structure Properties where
  anchor : Option String
  tag : Option Tag

def Properties.none : Properties := ⟨.none, .none⟩

def Properties.isNone (p : Properties) : Bool := p.anchor.isNone && p.tag.isNone

def Properties.empty (p : Properties) : Event := .scalar p.anchor ⟨"", .plain, p.tag⟩

/-- Where a node is wanted. -/
inductive Slot where
  | document
  /-- An item of a block. -/
  | item
  /-- An item in the column of the key it belongs to. -/
  | looseItem
  /-- A key or a value of a block. -/
  | entry
  /-- Between brackets, where there has to be a node. -/
  | flow
  | flowKey
  | flowValue
  /-- The value of the only key of an item between brackets. -/
  | pairValue
  deriving DecidableEq

namespace Slot

def inBlock : Slot → Bool
  | .document | .item | .looseItem | .entry => true
  | _ => false

/-- Whether a token begins a node here, or goes on with one that has properties. -/
def begins (slot : Slot) (p : Properties) : Token → Bool
  | .scalar .. | .flowSequence | .flowMapping => true
  | .blockSequence | .blockMapping => slot.inBlock
  | .item => slot = .entry
  | .alias _ => p.isNone
  | .anchor _ => p.anchor.isNone
  | .tag _ => p.tag.isNone
  | _ => false

/-- Whether a token says that there is no node here. -/
def isEmptyBefore : Slot → Token → Bool
  | .document, .version | .document, .handle .. | .document, .documentStart
  | .document, .documentEnd | .document, .textEnd => true
  | .item, .item | .item, .blockEnd => true
  | .looseItem, .item | .looseItem, .key | .looseItem, .value | .looseItem, .blockEnd => true
  | .entry, .key | .entry, .value | .entry, .blockEnd => true
  | .flowKey, .value | .flowKey, .comma | .flowKey, .flowMappingEnd => true
  | .flowValue, .comma | .flowValue, .flowMappingEnd => true
  | .pairValue, .comma | .pairValue, .flowSequenceEnd => true
  | _, _ => false

end Slot

/-- What may come next. -/
inductive Expected where
  /-- Directives or a document; `directed` says that there were directives. -/
  | start (directed : Bool)
  | node (slot : Slot) (p : Properties)
  /-- The sign of an item of a block, or its end. -/
  | item
  | looseItem
  /-- The sign of a key of a block, or its end. -/
  | key
  | value
  /-- An item between brackets, or the closing one. -/
  | flowItem
  /-- A comma or the closing bracket. -/
  | afterItem
  | pairKey
  | pairValue
  | pairEnd
  | flowKey
  | flowValue
  /-- Nothing that belongs to a key without a colon. -/
  | noValue
  | afterEntry
  | documentEnd
  | nothing

structure Grammar where
  expected : Expected
  /-- What is expected after the nodes that are open, the innermost first. -/
  stack : List Expected
  events : Array Event
  handles : Tag.Handles
  /-- Whether the version has been stated. -/
  versioned : Bool

namespace Grammar

def begin : Grammar := ⟨.start false, [], #[], [], false⟩

def emit (g : Grammar) (e : Event) : Grammar := { g with events := g.events.push e }

def expect (g : Grammar) (e : Expected) : Grammar := { g with expected := e }

/-- A node has begun that is read before what `later` expects. -/
def into (g : Grammar) (e later : Expected) : Grammar :=
  { g with expected := e, stack := later :: g.stack }

def leave (g : Grammar) : Grammar :=
  match g.stack with
  | [] => g.expect .nothing
  | e :: stack => { g with expected := e, stack }

/-- Ends what cannot go on with a token, given what waits outside of it. -/
def settleFrom (t : Token) (g : Grammar) : List Expected → Grammar
  | [] => { g with stack := [] }
  | e :: stack =>
    let pop (g : Grammar) : Grammar := settleFrom t (g.expect e) stack
    let stay (g : Grammar) : Grammar := { g with stack := e :: stack }
    match g.expected, t with
    | .node slot p, t =>
      if slot.begins p t then stay g
      else if p.isNone ∧ !slot.isEmptyBefore t then stay g
      else pop (g.emit p.empty)
    | .looseItem, .item => stay g
    | .looseItem, _ => pop (g.emit .sequenceEnd)
    | .value, .value => stay g
    | .value, _ => stay ((g.emit Properties.none.empty).expect .key)
    | .pairValue, .value => stay g
    | .pairValue, _ => stay (((g.emit Properties.none.empty).emit .mappingEnd).expect .afterItem)
    | .pairEnd, _ => stay ((g.emit .mappingEnd).expect .afterItem)
    | .flowValue, .value => stay g
    | .flowValue, _ => stay ((g.emit Properties.none.empty).expect .afterEntry)
    | .noValue, _ => stay ((g.emit Properties.none.empty).expect .afterEntry)
    | _, _ => stay g

def settle (g : Grammar) (t : Token) : Grammar := settleFrom t g g.stack

/-- Reads a token that begins a node, or goes on with one that has properties. -/
def readNode (g : Grammar) (slot : Slot) (p : Properties) (t : Token) : Option Grammar :=
  if !slot.begins p t then none
  else
    match t with
    | .scalar text form => some (g.emit (.scalar p.anchor ⟨text, form, p.tag⟩)).leave
    | .alias name => some (g.emit (.alias name)).leave
    | .anchor name => some (g.expect (.node slot { p with anchor := some name }))
    | .tag tag =>
      (tag.resolve? g.handles).map fun tag => g.expect (.node slot { p with tag := some tag })
    | .flowSequence => some ((g.emit (.sequence p.anchor)).expect .flowItem)
    | .flowMapping => some ((g.emit (.mapping p.anchor)).expect .flowKey)
    | .blockSequence => some ((g.emit (.sequence p.anchor)).expect .item)
    | .blockMapping => some ((g.emit (.mapping p.anchor)).expect .key)
    | .item => some ((g.emit (.sequence p.anchor)).into (.node .looseItem .none) .looseItem)
    | _ => none

/-- Reads a token that begins a node before what `later` expects. -/
def enter (g : Grammar) (slot : Slot) (later : Expected) (t : Token) : Option Grammar :=
  readNode { g with stack := later :: g.stack } slot .none t

def want (g : Grammar) (slot : Slot) (later : Expected) : Grammar :=
  g.into (.node slot .none) later

/-- Reads a token with which something can go on. The comma, colon or bracket after the sign of a
    key that is not there, in an item between brackets, is read with it. -/
def read (g : Grammar) (t : Token) : Option Grammar :=
  match g.expected, t with
  | .start _, .version =>
    if g.versioned then none else some ({ g with versioned := true }.expect (.start true))
  | .start _, .handle name tag =>
    if (g.handles.lookup name).isSome then none
    else some ({ g with handles := (name, tag) :: g.handles }.expect (.start true))
  | .start _, .documentStart => some (g.want .document .documentEnd)
  | .start directed, t => if directed then none else g.enter .document .documentEnd t
  | .node slot p, t => g.readNode slot p t
  | .item, .item => some (g.want .item .item)
  | .item, .blockEnd => some (g.emit .sequenceEnd).leave
  | .looseItem, .item => some (g.want .looseItem .looseItem)
  | .key, .key => some (g.want .entry .value)
  | .key, .blockEnd => some (g.emit .mappingEnd).leave
  | .value, .value => some (g.want .entry .key)
  | .flowItem, .flowSequenceEnd => some (g.emit .sequenceEnd).leave
  | .flowItem, .key => some ((g.emit (.mapping none)).expect .pairKey)
  | .flowItem, t => g.enter .flow .afterItem t
  | .afterItem, .comma => some (g.expect .flowItem)
  | .afterItem, .flowSequenceEnd => some (g.emit .sequenceEnd).leave
  | .pairKey, .value | .pairKey, .comma | .pairKey, .flowSequenceEnd =>
    some ((g.emit Properties.none.empty).expect .pairValue)
  | .pairKey, t => g.enter .flow .pairValue t
  | .pairValue, .value => some (g.want .pairValue .pairEnd)
  | .flowKey, .flowMappingEnd => some (g.emit .mappingEnd).leave
  | .flowKey, .key => some (g.want .flowKey .flowValue)
  | .flowKey, t => g.enter .flow .noValue t
  | .flowValue, .value => some (g.want .flowValue .afterEntry)
  | .afterEntry, .comma => some (g.expect .flowKey)
  | .afterEntry, .flowMappingEnd => some (g.emit .mappingEnd).leave
  | .documentEnd, .documentEnd => some g
  | .documentEnd, .textEnd => some (g.expect .nothing)
  | _, _ => none

def step (g : Grammar) (t : Token) : Option Grammar := (g.settle t).read t

end Grammar

def Event.ofTokens? (tokens : List Token) : Option (List Event) := do
  let g ← tokens.foldlM Grammar.step .begin
  match g.expected with
  | .nothing => some g.events.toList
  | _ => none

end Intake.Yaml
