/-
  Intake.Proofs.Stream.Copy — what a copy writes, whatever the sink does.

  The bytes come out in order and none twice. A copy that succeeds has written all of them, each
  piece accepted, and flushed the sink after them; one that fails has written a part, and either the
  source failed or the last piece was refused, or has written all and could not flush the sink.

  Proved:
  - `writePieces_runs`, `copyChunks_runs`: so for a copy in pieces.
  - `copyWithoutMark_runs`: and for one that drops a mark, once the head of the source is there.
  - `takeHead_ok`, `takeHead_failed`: when the head is there, and what is then left of the source.
-/

import Intake.Proofs.Charset.Mark
import Intake.Proofs.Database.Traced
import Intake.Stream.Copy

namespace Intake.Stream

open Database (Exchange Traced Runs noted runs_noted runs_pure)

variable {σ : Type}

def logged (sink : Sink σ) : Sink (Traced σ) where
  write := fun bytes => noted (sink.write bytes) (.write bytes)
  flush := noted sink.flush .flush

def taken (pieces : List (List UInt8)) : List Exchange := pieces.map fun piece => .write piece (.ok ())

theorem taken_append (ps qs : List (List UInt8)) : taken (ps ++ qs) = taken ps ++ taken qs :=
  List.map_append

theorem flatten_pieces (bytes : List UInt8) : (pieces bytes).flatten = bytes := by
  fun_induction pieces bytes with
  | case1 => rfl
  | case2 b bs ih => rw [List.flatten_cons, ih, List.take_append_drop]

/-- How the writing of some bytes ends. -/
inductive Written (bytes : List UInt8) : Except String Unit → List Exchange → Prop
  | whole (ps : List (List UInt8)) (h : ps.flatten = bytes) : Written bytes (.ok ()) (taken ps)
  | refused (ps : List (List UInt8)) (p : List UInt8) (m : String) (h : ps.flatten ++ p <+: bytes) :
      Written bytes (.error m) (taken ps ++ [.write p (.error m)])

/-- How a copy of a source ends that gives some bytes, up to a fault if it has one. -/
inductive Copied (bytes : List UInt8) (fault : Option String) : Except String Nat → List Exchange → Prop
  | whole (ps : List (List UInt8)) (h : ps.flatten = bytes) (hfault : fault = none) :
      Copied bytes fault (.ok bytes.length) (taken ps ++ [.flush (.ok ())])
  | unflushed (ps : List (List UInt8)) (m : String) (h : ps.flatten = bytes) (hfault : fault = none) :
      Copied bytes fault (.error m) (taken ps ++ [.flush (.error m)])
  | broken (ps : List (List UInt8)) (m : String) (h : ps.flatten = bytes) (hfault : fault = some m) :
      Copied bytes fault (.error m) (taken ps)
  | refused (ps : List (List UInt8)) (p : List UInt8) (m : String) (h : ps.flatten ++ p <+: bytes) :
      Copied bytes fault (.error m) (taken ps ++ [.write p (.error m)])

theorem writePieces_runs (sink : Sink σ) (ps : List (List UInt8)) :
    Runs (writePieces sink ps).run (writePieces (logged sink) ps).run (Written ps.flatten) := by
  -- a piece that is refused ends the writing, so only the pieces before it are in the log
  induction ps with
  | nil => exact runs_pure (.whole [] rfl)
  | cons p ps ih =>
    refine Runs.bind (P := fun r log => log = [.write p r]) (runs_noted fun _ => rfl) ?_ ?_
    · rintro m - rfl
      exact .refused [] p m (List.prefix_append _ _)
    · rintro ⟨⟩ - rfl
      rw [List.flatten_cons]
      refine ih.mono fun r log h => ?_
      cases h with
      | whole qs h => exact .whole (p :: qs) (by rw [List.flatten_cons, h])
      | refused qs q m h =>
        refine .refused (p :: qs) q m ?_
        rw [List.flatten_cons, List.append_assoc]
        exact (List.prefix_append_right_inj _).mpr h

theorem Copied.after {bytes rest : List UInt8} {fault : Option String} {r : Except String Nat}
    {log more : List Exchange} (hw : Written bytes (.ok ()) log) (hc : Copied rest fault r more) :
    Copied (bytes ++ rest) fault (r.map (bytes.length + ·)) (log ++ more) := by
  cases hw with
  | whole ps hp =>
    cases hc with
    | whole qs h hfault =>
      rw [← List.append_assoc, ← taken_append, Except.map, ← List.length_append]
      exact .whole (ps ++ qs) (by rw [List.flatten_append, hp, h]) hfault
    | unflushed qs m h hfault =>
      rw [← List.append_assoc, ← taken_append]
      exact .unflushed (ps ++ qs) m (by rw [List.flatten_append, hp, h]) hfault
    | broken qs m h hfault =>
      rw [← taken_append]
      exact .broken (ps ++ qs) m (by rw [List.flatten_append, hp, h]) hfault
    | refused qs q m h =>
      rw [← List.append_assoc, ← taken_append]
      refine .refused (ps ++ qs) q m ?_
      rw [List.flatten_append, hp, List.append_assoc]
      exact (List.prefix_append_right_inj _).mpr h

theorem copyAfter_runs {sink : Sink σ} {bytes : List UInt8} {events : List ReadEvent}
    (h : Runs (copyChunks sink events).run (copyChunks (logged sink) events).run
      (Copied (delivered events) (failure? events))) :
    Runs (do
        writePieces sink (pieces bytes)
        let copied ← copyChunks sink events
        return bytes.length + copied : ExceptT String (StateM σ) Nat).run
      (do
        writePieces (logged sink) (pieces bytes)
        let copied ← copyChunks (logged sink) events
        return bytes.length + copied : ExceptT String (StateM (Traced σ)) Nat).run
      (Copied (bytes ++ delivered events) (failure? events)) := by
  have hpieces := writePieces_runs sink (pieces bytes)
  rw [flatten_pieces] at hpieces
  refine hpieces.bind ?_ ?_
  · intro m log hw
    cases hw with
    | refused ps p m hp => exact .refused ps p m (hp.trans (List.prefix_append _ _))
  · rintro ⟨⟩ log hw
    refine h.bind (fun m more hc => Copied.after hw hc) fun n more hc => ?_
    refine runs_pure ?_
    rw [List.append_nil]
    exact Copied.after hw hc

/-- A source that is at its end is copied when the sink is flushed. -/
theorem copyEnd_runs (sink : Sink σ) :
    Runs (copyChunks sink []).run (copyChunks (logged sink) []).run (Copied [] none) := by
  refine Runs.bind (P := fun r log => log = [.flush r]) (runs_noted fun _ => rfl) ?_ ?_
  · rintro m - rfl
    exact .unflushed [] m rfl rfl
  · rintro ⟨⟩ - rfl
    exact runs_pure (.whole [] rfl rfl)

theorem copyChunks_runs (sink : Sink σ) (events : List ReadEvent) :
    Runs (copyChunks sink events).run (copyChunks (logged sink) events).run
      (Copied (delivered events) (failure? events)) := by
  induction events with
  | nil => exact copyEnd_runs sink
  | cons event events ih =>
    cases event with
    | data bytes => exact copyAfter_runs ih
    | interrupted => exact ih
    | failed m => exact runs_pure (.broken [] m rfl rfl)

/-- A head that cannot be read ends the copy before anything is written. -/
theorem copyWithoutMark_runs (c : Charset) (sink : Sink σ) (events : List ReadEvent) :
    Runs (copyWithoutMark c sink events).run (copyWithoutMark c (logged sink) events).run
      fun r log =>
        match takeHead Charset.headLength events with
        | .error m => r = .error m ∧ log = []
        | .ok (head, rest) =>
          Copied (head.drop (c.ownMarkLength head) ++ delivered rest) (failure? rest) r log := by
  refine Runs.bind (P := fun r log => r = takeHead Charset.headLength events ∧ log = [])
    (runs_pure ⟨rfl, rfl⟩) ?_ ?_
  · rintro m - ⟨hm, rfl⟩
    rw [← hm]
    exact ⟨rfl, rfl⟩
  · rintro ⟨head, rest⟩ - ⟨hok, rfl⟩
    rw [← hok]
    exact copyAfter_runs (copyChunks_runs sink rest)

/-! ## The head of a source -/

/-- What a source gives in place of bytes before it has given so many, if it does not come to its end. -/
def obstacle? : Nat → List ReadEvent → Option ReadEvent
  | _, [] => none
  | count, .data bytes :: rest => if count ≤ bytes.length then none else obstacle? (count - bytes.length) rest
  | _, event :: _ => some event

/-- With nothing in the way the head is there, and the rest of the source is still to come. -/
theorem takeHead_ok {count : Nat} {events : List ReadEvent} (h : obstacle? count events = none) :
    ∃ rest, takeHead count events = .ok ((delivered events).take count, rest) ∧
      delivered rest = (delivered events).drop count ∧ failure? rest = failure? events := by
  induction events generalizing count with
  | nil => exact ⟨[], by simp [takeHead, delivered], by simp [delivered], rfl⟩
  | cons event events ih =>
    cases event with
    | data bytes =>
      rw [takeHead, delivered]
      by_cases hlt : count < bytes.length
      · rw [if_pos hlt, List.take_append_of_le_length (by omega), List.drop_append_of_le_length (by omega)]
        exact ⟨_, rfl, rfl, rfl⟩
      rw [if_neg hlt]
      by_cases heq : count = bytes.length
      · rw [if_pos heq, heq, List.take_left, List.drop_left]
        exact ⟨_, rfl, rfl, rfl⟩
      · rw [obstacle?, if_neg (by omega)] at h
        obtain ⟨rest, hhead, hrest, hfault⟩ := ih h
        have htake : (bytes ++ delivered events).take count =
            bytes ++ (delivered events).take (count - bytes.length) := by
          rw [List.take_append, List.take_of_length_le (by omega)]
        have hdrop : (bytes ++ delivered events).drop count = (delivered events).drop (count - bytes.length) := by
          rw [List.drop_append, List.drop_of_length_le (by omega), List.nil_append]
        rw [if_neg heq, hhead, htake, hdrop]
        exact ⟨rest, rfl, hrest, hfault⟩
    | interrupted => simp [obstacle?] at h
    | failed m => simp [obstacle?] at h

theorem takeHead_failed {count : Nat} {events : List ReadEvent} {m : String}
    (h : obstacle? count events = some (.failed m)) : takeHead count events = .error m := by
  induction events generalizing count with
  | nil => simp [obstacle?] at h
  | cons event events ih =>
    cases event with
    | data bytes =>
      rw [obstacle?] at h
      split at h
      · cases h
      · rw [takeHead, if_neg (by omega), if_neg (by omega), ih h]
        rfl
    | interrupted => simp [obstacle?] at h
    | failed m' =>
      simp only [obstacle?, Option.some.injEq, ReadEvent.failed.injEq] at h
      rw [takeHead, h]

end Intake.Stream
