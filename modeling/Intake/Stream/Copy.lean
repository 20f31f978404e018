/-
  Intake.Stream.Copy — bytes copied from a source to a sink.

  What a read gives is written at once, in pieces no longer than the buffer. Interrupted reads are
  tried again. At the end of the source the sink is flushed, and a copy whose sink fails then has
  failed. `copyWithoutMark` first collects the bytes that a byte-order mark would take, and there an
  interruption ends the copy.
-/

import Intake.Charset.Mark
import Intake.Stream.Source

namespace Intake.Stream

def bufferBytes : Nat := 65536

/-- The pieces in which bytes are read and written. -/
def pieces : List UInt8 → List (List UInt8)
  | [] => []
  | b :: bs =>
    (b :: bs).take bufferBytes :: pieces ((b :: bs).drop bufferBytes)
termination_by bytes => bytes.length
decreasing_by simp only [List.length_drop, List.length_cons, bufferBytes]; omega

/-- Something that takes bytes and can refuse them, also when it is to pass on those it holds. -/
structure Sink (σ : Type) where
  write : List UInt8 → StateM σ (Except String Unit)
  flush : StateM σ (Except String Unit)

variable {σ : Type}

def writePieces (sink : Sink σ) : List (List UInt8) → ExceptT String (StateM σ) Unit
  | [] => pure ()
  | piece :: rest => do
    ExceptT.mk (sink.write piece)
    writePieces sink rest

def copyChunks (sink : Sink σ) : List ReadEvent → ExceptT String (StateM σ) Nat
  | [] => do
    ExceptT.mk sink.flush
    return 0
  | .data bytes :: rest => do
    writePieces sink (pieces bytes)
    let copied ← copyChunks sink rest
    return bytes.length + copied
  | .interrupted :: rest => copyChunks sink rest
  | .failed message :: _ => throw message

/-- The first bytes of a source, `count` of them if it has as many, and the rest of it. -/
def takeHead (count : Nat) : List ReadEvent → Except String (List UInt8 × List ReadEvent)
  | [] => .ok ([], [])
  | .data bytes :: rest =>
    if count < bytes.length then .ok (bytes.take count, .data (bytes.drop count) :: rest)
    else if count = bytes.length then .ok (bytes, rest)
    else do
      let (head, rest) ← takeHead (count - bytes.length) rest
      return (bytes ++ head, rest)
  | .interrupted :: _ => .error interruption
  | .failed message :: _ => .error message

/-- Copies a source to its end, without a mark of the encoding it is in; the number of bytes. -/
def copyWithoutMark (c : Charset) (sink : Sink σ) (events : List ReadEvent) :
    ExceptT String (StateM σ) Nat := do
  let (head, rest) ← ExceptT.mk (pure (takeHead Charset.headLength events))
  let kept := head.drop (c.ownMarkLength head)
  writePieces sink (pieces kept)
  let copied ← copyChunks sink rest
  return kept.length + copied

end Intake.Stream
