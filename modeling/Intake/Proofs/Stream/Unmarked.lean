/-
  Intake.Proofs.Stream.Unmarked — a copy that drops a mark, beside a copy of everything.

  Whether a source starts with a mark is seen from its first bytes. They are collected before anything is written,
  and what is left of them is then written at once. So a source that fails before they are there leaves the sink
  as it was, while a copy in pieces would have written what came before the failure; and a source that is nothing
  but a mark of its encoding leaves nothing to copy, though it may be shorter than the head.

  Proved:
  - `copyWithoutMark_eq`: dropping a mark is copying another source, with any sink.
  - `upcoming_unmarked`: what that source gives.
  - `copyWithoutMark_filter`: interruptions behind the head make no difference.
  - `copyWithoutMark_copies`: so all but the mark is copied, if nothing comes in the way of the head.
  - `mark_alone_not_copied`: a source of two bytes of which nothing is copied, and one that fails too early.
-/

import Intake.Proofs.Stream.Limited

namespace Intake.Stream

open Charset (headLength)

/-! ## A source without its first bytes -/

def skip : Nat → List ReadEvent → List ReadEvent
  | _, [] => []
  | count, .data bytes :: rest => .data (bytes.drop count) :: skip (count - bytes.length) rest
  | count, event :: rest => event :: skip count rest

theorem delivered_skip (count : Nat) (events : List ReadEvent) :
    delivered (skip count events) = (delivered events).drop count := by
  induction events generalizing count with
  | nil => simp [skip, delivered]
  | cons event events ih =>
    cases event with
    | data bytes => rw [skip, delivered, delivered, ih, List.drop_append]
    | interrupted => exact ih count
    | failed m => simp [skip, delivered]

theorem failure?_skip (count : Nat) (events : List ReadEvent) : failure? (skip count events) = failure? events := by
  induction events generalizing count with
  | nil => rfl
  | cons event events ih =>
    cases event with
    | data bytes => exact ih _
    | interrupted => exact ih count
    | failed m => rfl

/-- What is copied of a source: what is left of its head comes at once, and then the rest. -/
def unmarked (c : Charset) (events : List ReadEvent) : List ReadEvent :=
  match takeHead headLength events with
  | .ok (head, rest) => .data (head.drop (c.ownMarkLength head)) :: rest
  | .error m => [.failed m]

section

variable (c : Charset) {events : List ReadEvent}

theorem upcoming_unmarked (h : obstacle? headLength events = none) :
    delivered (unmarked c events) = (delivered events).drop (c.ownMarkLength (delivered events)) ∧
      failure? (unmarked c events) = failure? events := by
  obtain ⟨rest, hhead, hrest, hfault⟩ := takeHead_ok h
  rw [unmarked, hhead]
  constructor
  · rw [delivered, hrest, Charset.drop_ownMark_head]
  · exact hfault

/-- Dropping a mark is copying what is left, with any sink. -/
theorem copyWithoutMark_eq {σ : Type} (sink : Sink σ) (events : List ReadEvent) :
    copyWithoutMark c sink events = copyChunks sink (unmarked c events) := by
  rw [copyWithoutMark, unmarked]
  cases takeHead headLength events with
  | ok found => rfl
  | error m => rfl

/-! ## Interruptions -/

theorem takeHead_filter {count : Nat} (h : obstacle? count events ≠ some .interrupted) :
    takeHead count (events.filter (· ≠ .interrupted)) =
      (takeHead count events).map fun found => (found.1, found.2.filter (· ≠ .interrupted)) := by
  induction events generalizing count with
  | nil => rfl
  | cons event events ih =>
    cases event with
    | data bytes =>
      rw [List.filter_cons_of_pos (by simp), takeHead, takeHead]
      by_cases hlt : count < bytes.length
      · rw [if_pos hlt, if_pos hlt, Except.map, List.filter_cons_of_pos (by simp)]
      rw [if_neg hlt, if_neg hlt]
      by_cases heq : count = bytes.length
      · rw [if_pos heq, if_pos heq, Except.map]
      · rw [obstacle?, if_neg (by omega)] at h
        rw [if_neg heq, if_neg heq, ih h]
        cases takeHead (count - bytes.length) events with
        | ok found => rfl
        | error m => rfl
    | interrupted => exact absurd rfl h
    | failed m => rfl

theorem unmarked_filter (h : obstacle? headLength events ≠ some .interrupted) :
    unmarked c (events.filter (· ≠ .interrupted)) = (unmarked c events).filter (· ≠ .interrupted) := by
  rw [unmarked, unmarked, takeHead_filter h]
  cases takeHead headLength events with
  | ok found => exact (List.filter_cons_of_pos (by simp)).symm
  | error m => rfl

theorem copyWithoutMark_filter {σ : Type} (sink : Sink σ) (h : obstacle? headLength events ≠ some .interrupted) :
    copyWithoutMark c sink (events.filter (· ≠ .interrupted)) = copyWithoutMark c sink events := by
  rw [copyWithoutMark_eq, copyWithoutMark_eq, unmarked_filter c h, copyChunks_filter]

/-! ## All but the mark -/

/-- Of less than a head only a mark of its own encoding is dropped, and then nothing is left. -/
theorem drop_ownMark_short {bytes : List UInt8} (h : bytes.length < headLength) :
    bytes.drop (c.ownMarkLength bytes) = if bytes = c.mark then [] else bytes := by
  rw [Charset.ownMarkLength]
  by_cases hmarked : Charset.marked? bytes = some c
  · have hshort : bytes.length ≤ c.mark.length := by
      have hmark := Charset.length_mark_ge hmarked
      simp only [headLength] at h
      omega
    have hwhole : bytes = c.mark := ((Charset.marked?_starts hmarked).eq_of_length_le hshort).symm
    rw [if_pos hmarked, if_pos hwhole, List.drop_of_length_le hshort]
  · rw [if_neg hmarked, List.drop_zero]
    by_cases hwhole : bytes = c.mark
    · -- a mark that is found in no text is empty
      subst hwhole
      cases c with
      | utf8 => exact absurd rfl hmarked
      | utf16le => exact absurd rfl hmarked
      | utf16be => exact absurd rfl hmarked
      | _ => rfl
    · rw [if_neg hwhole]

end

/-- How a copy that drops a mark stands to a copy of everything. -/
structure CopiesUnmarked (c : Charset) (events : List ReadEvent) : Prop where
  /-- With any sink it is the copy of one source, -/
  copied : ∀ {σ : Type} (sink : Sink σ), copyWithoutMark c sink events = copyChunks sink (unmarked c events)
  /-- and interruptions behind the head make no difference. -/
  steady : ∀ {σ : Type} (sink : Sink σ),
    copyWithoutMark c sink (events.filter (· ≠ .interrupted)) = copyWithoutMark c sink events
  /-- A source that fails before its head is there gives its failure and nothing else. -/
  early : ∀ m, obstacle? headLength events = some (.failed m) → unmarked c events = [.failed m]
  /-- Any other gives all its bytes but a mark of its own encoding, up to the end or the failure that it has. -/
  given : obstacle? headLength events = none →
    delivered (unmarked c events) = (delivered events).drop (c.ownMarkLength (delivered events)) ∧
      failure? (unmarked c events) = failure? events
  /-- Where there is room for all of that it makes no difference that the head is collected first. -/
  roomy : obstacle? headLength events = none → ∀ limit refusal, (delivered events).length ≤ limit →
    (copyWithoutMark c (limited limit refusal) events).run.run [] =
      (copyChunks (limited limit refusal) (skip (c.ownMarkLength (delivered events)) events)).run.run [] ∧
    (copyWithoutMark c (limited limit refusal) events).run.run [] =
      (countOf (skip (c.ownMarkLength (delivered events)) events),
        (delivered events).drop (c.ownMarkLength (delivered events)))
  /-- A source that is shorter than the head is copied whole, unless it is a mark of its own encoding. -/
  short : (delivered events).length < headLength →
    (delivered events).drop (c.ownMarkLength (delivered events)) =
      if delivered events = c.mark then [] else delivered events

/-- If its head is not interrupted, a source is copied with all but a mark of its own encoding. -/
theorem copyWithoutMark_copies (c : Charset) {events : List ReadEvent}
    (h : obstacle? headLength events ≠ some .interrupted) : CopiesUnmarked c events where
  copied := fun sink => copyWithoutMark_eq c sink events
  steady := fun sink => copyWithoutMark_filter c sink h
  early := by
    intro m hm
    rw [unmarked, takeHead_failed hm]
  given := upcoming_unmarked c
  roomy := by
    intro hclear limit refusal hroom
    obtain ⟨hbytes, hfault⟩ := upcoming_unmarked c hclear
    have hless : ((delivered events).drop (c.ownMarkLength (delivered events))).length ≤ limit := by
      rw [List.length_drop]
      omega
    have hcount : countOf (unmarked c events) = countOf (skip (c.ownMarkLength (delivered events)) events) := by
      rw [countOf, countOf, hbytes, hfault, delivered_skip, failure?_skip]
    have hrun : (copyWithoutMark c (limited limit refusal) events).run.run [] =
        (countOf (skip (c.ownMarkLength (delivered events)) events),
          (delivered events).drop (c.ownMarkLength (delivered events))) := by
      rw [copyWithoutMark_eq, copyChunks_roomy _ (by rwa [hbytes]), hcount, hbytes]
    refine ⟨hrun.trans ?_, hrun⟩
    rw [copyChunks_roomy _ (by rwa [delivered_skip]), delivered_skip]
  short := drop_ownMark_short c

def splitMark : List ReadEvent :=
  [.data [0xEF], .data [0xBB, 0xBF, 0x61], .interrupted, .data [0x62], .failed "lost"]

theorem copyWithoutMark_of_split_mark :
    obstacle? headLength splitMark ≠ some .interrupted ∧
    (copyWithoutMark .utf8 (limited 9 "full") splitMark).run.run [] = (.error "lost", [0x61, 0x62]) ∧
    (copyWithoutMark .utf8 (limited 9 "full") (splitMark.filter (· ≠ .interrupted))).run.run [] =
      (.error "lost", [0x61, 0x62]) := by
  have hhead : obstacle? headLength splitMark ≠ some .interrupted := by decide
  have hcopies := copyWithoutMark_copies .utf8 hhead
  obtain ⟨-, hrun⟩ := hcopies.roomy (by decide) 9 "full" (by decide)
  refine ⟨hhead, hrun, ?_⟩
  rw [hcopies.steady]
  exact hrun

/-- Of a mark of two bytes nothing is copied, though it is shorter than the head. And nothing is copied of a
    source that fails while its head is collected, where a copy in pieces keeps what came before. -/
theorem mark_alone_not_copied :
    (delivered (ofBytes [0xFF, 0xFE])).length < headLength ∧
    (copyWithoutMark .utf16le (limited 2 "full") (ofBytes [0xFF, 0xFE])).run.run [] = (.ok 0, []) ∧
    Charset.ownMarkLength .utf8 (delivered [.data [0x61], .failed "lost"]) = 0 ∧
    (copyWithoutMark .utf8 (limited 2 "full") [.data [0x61], .failed "lost"]).run.run [] = (.error "lost", []) ∧
    (copyChunks (limited 2 "full") [.data [0x61], .failed "lost"]).run.run [] = (.error "lost", [0x61]) := by
  refine ⟨by decide, ?_, by decide, ?_, ?_⟩
  · rw [copyWithoutMark_eq, copyChunks_roomy _ (by decide)]
    rfl
  · rw [copyWithoutMark_eq, copyChunks_roomy _ (by decide)]
    rfl
  · rw [copyChunks_roomy _ (by decide)]
    rfl

end Intake.Stream
