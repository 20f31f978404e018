/-
  Intake.Stream.Source — what comes out of a source that is read piece by piece.

  A read gives some bytes, is interrupted, or fails. An interrupted read says nothing about the
  source and is tried again by those who can. After the last event the source is at its end. Bytes
  that come at once and do not fit into the room there is are given by more than one read.
-/

namespace Intake.Stream

inductive ReadEvent where
  | data (bytes : List UInt8)
  | interrupted
  | failed (message : String)
  deriving DecidableEq, Repr

/-- What an interrupted read is called where it is not tried again. -/
def interruption : String := "operation interrupted"

def ofBytes (bytes : List UInt8) : List ReadEvent := [.data bytes]

/-- One read with room for so many bytes: what it gives, or nothing at the end, and the source after
    it. -/
def read (room : Nat) : List ReadEvent → Option ReadEvent × List ReadEvent
  | [] => (none, [])
  | .data [] :: rest => read room rest
  | .data bytes :: rest =>
    match bytes.drop room with
    | [] => (some (.data bytes), rest)
    | left => (some (.data (bytes.take room)), .data left :: rest)
  | event :: rest => (some event, rest)

/-- What reads take from a source, until it is at its end. -/
def weight : List ReadEvent → Nat
  | [] => 0
  | .data bytes :: rest => bytes.length + 1 + weight rest
  | _ :: rest => weight rest + 1

theorem weight_read {room : Nat} {events rest : List ReadEvent} {event : ReadEvent} (hroom : 0 < room)
    (h : read room events = (some event, rest)) : weight rest < weight events := by
  fun_induction read room events with
  | case1 => cases h
  | case2 rest' ih =>
    have := ih h
    simp only [weight, List.length_nil]
    omega
  | case3 bytes rest' hne hleft =>
    obtain ⟨-, rfl⟩ := Prod.mk.inj h
    simp only [weight]
    omega
  | case4 bytes rest' hne hleft =>
    obtain ⟨-, rfl⟩ := Prod.mk.inj h
    have hlength : bytes.length ≠ 0 := fun h0 => hne (List.eq_nil_of_length_eq_zero h0)
    simp only [weight, List.length_drop]
    omega
  | case5 event' rest' hdata hevent =>
    obtain ⟨-, rfl⟩ := Prod.mk.inj h
    cases event' with
    | data bytes => exact absurd rfl (hevent bytes)
    | interrupted => exact Nat.lt_succ_self _
    | failed message => exact Nat.lt_succ_self _

/-- All bytes up to the end or the first failure. -/
def delivered : List ReadEvent → List UInt8
  | [] => []
  | .data bytes :: rest => bytes ++ delivered rest
  | .interrupted :: rest => delivered rest
  | .failed _ :: _ => []

def failure? : List ReadEvent → Option String
  | [] => none
  | .failed message :: _ => some message
  | _ :: rest => failure? rest

end Intake.Stream
