/-
  Intake.Stream.Reader — a source read as the bytes that a machine makes of it.

  A reader takes from its source as much at once as its input buffer holds and has the machine
  convert it. It gives out what is converted as far as there is room for it, and goes on taking
  until it has something to give. The machine keeps its state between reads, so an interruption of
  the source can be passed on and reading can go on after it. When the source is at its end the
  machine gives the rest of its output.
-/

import Intake.Stream.Source
import Intake.Text.Machine

namespace Intake.Stream

structure Reader (m : Text.Machine UInt8 UInt8) where
  source : List ReadEvent
  state : m.State
  /-- What is converted and not yet given out. -/
  ready : List UInt8
  /-- Whether the machine has given the rest of its output. -/
  done : Bool

namespace Reader

variable {m : Text.Machine UInt8 UInt8}

def inputBytes : Nat := 8192

def start (m : Text.Machine UInt8 UInt8) (source : List ReadEvent) : Reader m :=
  ⟨source, m.start, [], false⟩

/-- Has bytes converted, after which the source is `rest`. -/
def convert (r : Reader m) (bytes : List UInt8) (rest : List ReadEvent) : Reader m :=
  let next := m.feed (r.state, #[]) bytes
  { r with source := rest, state := next.1, ready := next.2.toList }

def finish (r : Reader m) : Reader m := { r with ready := m.finish r.state, done := true }

/-- What reads take from a reader, apart from what is ready. -/
def size (r : Reader m) : Nat := weight r.source + (!r.done).toNat

/-- One read with room for so many bytes: what it gives, or nothing at the end, and the reader after
    it. -/
def read (room : Nat) (r : Reader m) : Option ReadEvent × Reader m :=
  if r.ready ≠ [] then (some (.data (r.ready.take room)), { r with ready := r.ready.drop room })
  else if r.done then (none, r)
  else
    match _hread : Stream.read inputBytes r.source with
    | (some (.data bytes), rest) => read room (r.convert bytes rest)
    | (some event, rest) => (some event, { r with source := rest })
    | (none, _) => read room r.finish
termination_by r.size
decreasing_by
  · exact Nat.add_lt_add_right (weight_read (by decide) _hread) _
  · simp_all [size, finish]

/-- A read that gives something takes it from the reader. -/
theorem read_takes {room : Nat} {r r' : Reader m} {event : ReadEvent} (hroom : 0 < room)
    (h : r.read room = (some event, r')) :
    r'.size < r.size ∨ r'.size = r.size ∧ r'.ready.length < r.ready.length := by
  fun_induction read room r with
  | case1 r hready =>
    obtain ⟨-, rfl⟩ := Prod.mk.inj h
    have hlength := List.length_pos_iff.mpr hready
    refine .inr ⟨rfl, ?_⟩
    simp only [List.length_drop]
    omega
  | case2 => cases h
  | case3 r hready hdone bytes rest hread ih =>
    have hless : (r.convert bytes rest).size < r.size :=
      Nat.add_lt_add_right (weight_read (by decide) hread) _
    have hmore := ih h
    omega
  | case4 r hready hdone event rest hdata hread =>
    obtain ⟨-, rfl⟩ := Prod.mk.inj h
    exact .inl (Nat.add_lt_add_right (weight_read (by decide) hread) _)
  | case5 r hready hdone rest hread ih =>
    have hless : r.finish.size < r.size := by simp_all [size, finish]
    have hmore := ih h
    omega

end Reader

end Intake.Stream
