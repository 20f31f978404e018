/-
  Intake.Proofs.Stream.Limited — a copy into a sink that has a limit.

  The sink holds what it has taken. It takes a piece as a whole, or refuses it as a whole if that would take it
  past its limit. So what it holds after a copy is made of the first pieces of the source, as many of them in a row
  as the limit allows, and where all of them fit the source alone says how the copy ends.

  Proved:
  - `copyChunks_filter`: interruptions make no difference to a copy, whatever the sink.
  - `fitting_within`, `fitting_all`, `fitting_stops`: which pieces a limit allows.
  - `writePieces_limited`: one read, written to such a sink.
  - `copyChunks_limited`, `copyChunks_roomy`: a whole source, by its events, and where there is room for all of it.
  - `copyChunks_ends`: so a copy ends in exactly one of three ways.
-/

import Intake.Proofs.Stream.Copy
import Mathlib.Logic.ExistsUnique

namespace Intake.Stream

/-! ## The pieces of a source -/

/-- The pieces in which a source is copied, up to its end or its first failure. -/
def chunks : List ReadEvent → List (List UInt8)
  | [] => []
  | .data bytes :: rest => pieces bytes ++ chunks rest
  | .interrupted :: rest => chunks rest
  | .failed _ :: _ => []

theorem flatten_chunks (events : List ReadEvent) : (chunks events).flatten = delivered events := by
  induction events with
  | nil => rfl
  | cons event events ih =>
    cases event with
    | data bytes => simp [chunks, delivered, flatten_pieces, ih]
    | interrupted => exact ih
    | failed m => rfl

theorem mem_pieces_length {bytes p : List UInt8} (h : p ∈ pieces bytes) : 0 < p.length ∧ p.length ≤ bufferBytes := by
  fun_induction pieces bytes with
  | case1 => simp at h
  | case2 b bs ih =>
    rcases List.mem_cons.mp h with rfl | h
    · simp only [List.length_take, List.length_cons, bufferBytes]
      omega
    · exact ih h

theorem mem_chunks_length {events : List ReadEvent} {p : List UInt8} (h : p ∈ chunks events) :
    0 < p.length ∧ p.length ≤ bufferBytes := by
  induction events with
  | nil => simp [chunks] at h
  | cons event events ih =>
    cases event with
    | data bytes =>
      rcases List.mem_append.mp h with h | h
      · exact mem_pieces_length h
      · exact ih h
    | interrupted => exact ih h
    | failed m => simp [chunks] at h

/-- Interruptions make no difference, whatever the sink. -/
theorem copyChunks_filter {σ : Type} (sink : Sink σ) (events : List ReadEvent) :
    copyChunks sink (events.filter (· ≠ .interrupted)) = copyChunks sink events := by
  induction events with
  | nil => rfl
  | cons event events ih =>
    cases event with
    | data bytes =>
      rw [List.filter_cons_of_pos (by simp), copyChunks, copyChunks, ih]
    | interrupted => exact ih
    | failed m => rfl

/-! ## The pieces that fit -/

/-- The first pieces, as many in a row as fit behind `held` bytes. -/
def fitting (limit held : Nat) : List (List UInt8) → List (List UInt8)
  | [] => []
  | p :: ps => if held + p.length ≤ limit then p :: fitting limit (held + p.length) ps else []

section

variable {limit held : Nat}

theorem fitting_within (hheld : held ≤ limit) (ps : List (List UInt8)) :
    held + (fitting limit held ps).flatten.length ≤ limit := by
  induction ps generalizing held with
  | nil => simpa [fitting] using hheld
  | cons p ps ih =>
    rw [fitting]
    by_cases hp : held + p.length ≤ limit
    · have hrest := ih hp
      rw [if_pos hp]
      simp only [List.flatten_cons, List.length_append]
      omega
    · rw [if_neg hp]
      simpa using hheld

theorem fitting_all {ps : List (List UInt8)} (h : held + ps.flatten.length ≤ limit) : fitting limit held ps = ps := by
  induction ps generalizing held with
  | nil => rfl
  | cons p ps ih =>
    simp only [List.flatten_cons, List.length_append] at h
    rw [fitting, if_pos (by omega), ih (by omega)]

theorem fitting_stops {ps : List (List UInt8)} (h : limit < held + ps.flatten.length) (hheld : held ≤ limit) :
    ∃ p rest, ps = fitting limit held ps ++ p :: rest ∧
      limit < held + ((fitting limit held ps).flatten ++ p).length := by
  induction ps generalizing held with
  | nil =>
    simp only [List.flatten_nil, List.length_nil] at h
    omega
  | cons p ps ih =>
    rw [fitting]
    by_cases hp : held + p.length ≤ limit
    · simp only [List.flatten_cons, List.length_append] at h
      have hrest : limit < held + p.length + ps.flatten.length := by omega
      obtain ⟨q, rest, hps, hq⟩ := ih hrest hp
      rw [if_pos hp]
      refine ⟨q, rest, ?_, ?_⟩
      · rw [List.cons_append, ← hps]
      · simp only [List.flatten_cons, List.length_append] at hq ⊢
        omega
    · rw [if_neg hp]
      exact ⟨p, ps, rfl, by simpa using hp⟩

theorem fitting_append {ps : List (List UInt8)} (h : held + ps.flatten.length ≤ limit) (qs : List (List UInt8)) :
    fitting limit held (ps ++ qs) = ps ++ fitting limit (held + ps.flatten.length) qs := by
  induction ps generalizing held with
  | nil => rfl
  | cons p ps ih =>
    simp only [List.flatten_cons, List.length_append] at h
    rw [List.cons_append, fitting, if_pos (by omega), ih (by omega), List.flatten_cons, List.length_append,
      Nat.add_assoc, List.cons_append]

/-- What comes after a piece that does not fit is not looked at. -/
theorem fitting_append_stopped {ps : List (List UInt8)} (h : limit < held + ps.flatten.length) (hheld : held ≤ limit)
    (qs : List (List UInt8)) : fitting limit held (ps ++ qs) = fitting limit held ps := by
  induction ps generalizing held with
  | nil =>
    simp only [List.flatten_nil, List.length_nil] at h
    omega
  | cons p ps ih =>
    simp only [List.flatten_cons, List.length_append] at h
    rw [List.cons_append, fitting, fitting]
    by_cases hp : held + p.length ≤ limit
    · rw [if_pos hp, if_pos hp, ih (by omega) hp]
    · rw [if_neg hp, if_neg hp]

end

/-! ## A sink with a limit -/

/-- Holds what it takes, and refuses a piece that would take it past its limit. -/
def limited (limit : Nat) (refusal : String) : Sink (List UInt8) where
  write := fun bytes => do
    let held ← get
    if held.length + bytes.length ≤ limit then
      set (held ++ bytes)
      return .ok ()
    else return .error refusal
  flush := return .ok ()

def countOf (events : List ReadEvent) : Except String Nat :=
  match failure? events with
  | none => .ok (delivered events).length
  | some m => .error m

theorem countOf_data (bytes : List UInt8) (events : List ReadEvent) :
    countOf (.data bytes :: events) = (countOf events).map (bytes.length + ·) := by
  show (match failure? events with
    | none => .ok (bytes ++ delivered events).length
    | some m => .error m) = (countOf events).map (bytes.length + ·)
  rw [countOf, List.length_append]
  cases failure? events with
  | none => rfl
  | some m => rfl

variable (refusal : String) {limit : Nat}

theorem limited_run (limit : Nat) (bytes held : List UInt8) :
    (ExceptT.mk ((limited limit refusal).write bytes)).run.run held =
      if held.length + bytes.length ≤ limit then (.ok (), held ++ bytes) else (.error refusal, held) := by
  show (if held.length + bytes.length ≤ limit then _ else _ : StateM (List UInt8) (Except String Unit)).run held = _
  split
  · rfl
  · rfl

/-- One read: the pieces that fit are taken, and the first one that does not ends the writing. -/
theorem writePieces_limited (ps : List (List UInt8)) {held : List UInt8} (hheld : held.length ≤ limit) :
    (writePieces (limited limit refusal) ps).run.run held =
      (if held.length + ps.flatten.length ≤ limit then .ok () else .error refusal,
        held ++ (fitting limit held.length ps).flatten) := by
  induction ps generalizing held with
  | nil =>
    have hroom : held.length + ([] : List (List UInt8)).flatten.length ≤ limit := hheld
    rw [if_pos hroom]
    show (Except.ok (), held) = (Except.ok (), held ++ [])
    rw [List.append_nil]
  | cons p ps ih =>
    have hwrite := limited_run refusal limit p held
    rw [writePieces, List.flatten_cons, List.length_append, fitting]
    by_cases hp : held.length + p.length ≤ limit
    · rw [if_pos hp] at hwrite
      have hroom : (held ++ p).length ≤ limit := by simpa using hp
      rw [run_bind_ok hwrite, ih hroom, if_pos hp, List.length_append, Nat.add_assoc, List.flatten_cons,
        List.append_assoc]
    · rw [if_neg hp] at hwrite
      rw [run_bind_error hwrite, if_neg hp, if_neg (by omega), List.flatten_nil, List.append_nil]

/-- A whole source: what the sink holds after it, and whether the sink or the source says how the copy ends. -/
theorem copyChunks_limited (events : List ReadEvent) {held : List UInt8} (hheld : held.length ≤ limit) :
    (copyChunks (limited limit refusal) events).run.run held =
      (if held.length + (delivered events).length ≤ limit then countOf events else .error refusal,
        held ++ (fitting limit held.length (chunks events)).flatten) := by
  induction events generalizing held with
  | nil =>
    have hroom : held.length + (delivered []).length ≤ limit := hheld
    rw [if_pos hroom]
    show (Except.ok 0, held) = (Except.ok 0, held ++ [])
    rw [List.append_nil]
  | cons event events ih =>
    cases event with
    | data bytes =>
      have hwrite := writePieces_limited refusal (pieces bytes) hheld
      rw [flatten_pieces] at hwrite
      rw [copyChunks, chunks, delivered, List.length_append]
      by_cases hbytes : held.length + bytes.length ≤ limit
      · have hall : held.length + (pieces bytes).flatten.length ≤ limit := by rwa [flatten_pieces]
        have hroom : (held ++ bytes).length ≤ limit := by simpa using hbytes
        rw [if_pos hbytes, fitting_all hall, flatten_pieces] at hwrite
        rw [run_bind_ok hwrite, fitting_append hall, flatten_pieces, List.flatten_append, flatten_pieces]
        rw [run_map, ih hroom, countOf_data, List.length_append, Nat.add_assoc, List.append_assoc]
        split
        · rfl
        · rfl
      · have hmore : limit < held.length + (pieces bytes).flatten.length := by
          rw [flatten_pieces]
          omega
        rw [if_neg hbytes] at hwrite
        rw [run_bind_error hwrite, fitting_append_stopped hmore hheld, if_neg (by omega)]
    | interrupted => exact ih hheld
    | failed m =>
      have hroom : held.length + (delivered (.failed m :: events)).length ≤ limit := hheld
      rw [if_pos hroom]
      show (Except.error m, held) = (Except.error m, held ++ [])
      rw [List.append_nil]

theorem copyChunks_roomy {events : List ReadEvent} (h : (delivered events).length ≤ limit) :
    (copyChunks (limited limit refusal) events).run.run [] = (countOf events, delivered events) := by
  have hempty : ([] : List UInt8).length ≤ limit := Nat.zero_le limit
  have hrun := copyChunks_limited refusal events hempty
  have hall : 0 + (chunks events).flatten.length ≤ limit := by
    rw [flatten_chunks]
    omega
  rw [List.length_nil, Nat.zero_add, if_pos h, fitting_all hall, flatten_chunks, List.nil_append] at hrun
  exact hrun

/-! ## Three ways to end -/

/-- How a copy into a sink with a limit can end. -/
inductive Ending where
  | whole
  | broken
  | refused
  deriving DecidableEq, Repr

/-- What the endings say of the result of a copy and of what the sink holds after it: everything was copied; the
    source failed and everything before that was copied; or only the pieces before the first one that the limit
    does not allow. -/
inductive Ends (limit : Nat) (refusal : String) (events : List ReadEvent) :
    Ending → Except String Nat × List UInt8 → Prop
  | whole (hfault : failure? events = none) (hroom : (delivered events).length ≤ limit) :
      Ends limit refusal events .whole (.ok (delivered events).length, delivered events)
  | broken (m : String) (hfault : failure? events = some m) (hroom : (delivered events).length ≤ limit) :
      Ends limit refusal events .broken (.error m, delivered events)
  | refused (before after : List (List UInt8)) (p : List UInt8) (hpieces : chunks events = before ++ p :: after)
      (hroom : before.flatten.length ≤ limit) (hfull : limit < (before.flatten ++ p).length) :
      Ends limit refusal events .refused (.error refusal, before.flatten)

/-- The ending that a source has: the sink refuses a source that is longer than the limit, and any other source
    ends by itself. -/
def endingOf (limit : Nat) (events : List ReadEvent) : Ending :=
  if limit < (delivered events).length then .refused
  else
    match failure? events with
    | none => .whole
    | some _ => .broken

section

variable {refusal} {events : List ReadEvent} {e : Ending} {run : Except String Nat × List UInt8}

theorem Ends.eq (h : Ends limit refusal events e run) : e = endingOf limit events := by
  unfold endingOf
  cases h with
  | whole hfault hroom => rw [if_neg (by omega), hfault]
  | broken m hfault hroom => rw [if_neg (by omega), hfault]
  | refused before after p hpieces hroom hfull =>
    have hlong : limit < (delivered events).length := by
      rw [← flatten_chunks, hpieces]
      simp only [List.length_append, List.flatten_append, List.flatten_cons] at hfull ⊢
      omega
    rw [if_pos hlong]

theorem Ends.starts (h : Ends limit refusal events e run) : run.2 <+: delivered events ∧ run.2.length ≤ limit := by
  cases h with
  | whole _ hroom => exact ⟨List.prefix_refl _, hroom⟩
  | broken m _ hroom => exact ⟨List.prefix_refl _, hroom⟩
  | refused before after p hpieces hroom _ =>
    refine ⟨?_, hroom⟩
    rw [← flatten_chunks, hpieces, List.flatten_append]
    exact List.prefix_append _ _

end

theorem copyChunks_ending (limit : Nat) (refusal : String) (events : List ReadEvent) :
    ∃ e, Ends limit refusal events e ((copyChunks (limited limit refusal) events).run.run []) := by
  by_cases hroom : (delivered events).length ≤ limit
  · rw [copyChunks_roomy refusal hroom, countOf]
    cases hfault : failure? events with
    | none => exact ⟨.whole, .whole hfault hroom⟩
    | some m => exact ⟨.broken, .broken m hfault hroom⟩
  · have hmore : limit < 0 + (chunks events).flatten.length := by
      rw [flatten_chunks]
      omega
    obtain ⟨p, after, hpieces, hfull⟩ := fitting_stops hmore (Nat.zero_le limit)
    have hwithin := fitting_within (Nat.zero_le limit) (chunks events)
    have hempty : ([] : List UInt8).length ≤ limit := Nat.zero_le limit
    have hrun := copyChunks_limited refusal events hempty
    rw [List.length_nil, Nat.zero_add, if_neg hroom, List.nil_append] at hrun
    rw [hrun]
    rw [Nat.zero_add] at hfull hwithin
    exact ⟨.refused, .refused _ after p hpieces hwithin hfull⟩

/-- A copy into a sink with a limit ends in exactly one of three ways, and the sink then holds a beginning of the
    bytes of the source, within its limit: everything, if the source comes to its end or to a failure before
    the limit is passed, and otherwise the pieces before the first that is refused. Interruptions of the source
    make no difference, to this sink or to any other. -/
theorem copyChunks_ends (limit : Nat) (refusal : String) (events : List ReadEvent) :
    (∃! e, Ends limit refusal events e ((copyChunks (limited limit refusal) events).run.run [])) ∧
    ((copyChunks (limited limit refusal) events).run.run []).2 <+: delivered events ∧
    ((copyChunks (limited limit refusal) events).run.run []).2.length ≤ limit ∧
    (∀ p ∈ chunks events, 0 < p.length ∧ p.length ≤ bufferBytes) ∧
    ∀ {σ : Type} (sink : Sink σ), copyChunks sink (events.filter (· ≠ .interrupted)) = copyChunks sink events := by
  obtain ⟨e, he⟩ := copyChunks_ending limit refusal events
  obtain ⟨hstarts, hwithin⟩ := he.starts
  refine ⟨⟨e, he, fun e' he' => he'.eq.trans he.eq.symm⟩, hstarts, hwithin, fun p hp => mem_chunks_length hp, ?_⟩
  intro σ sink
  exact copyChunks_filter sink events

end Intake.Stream
