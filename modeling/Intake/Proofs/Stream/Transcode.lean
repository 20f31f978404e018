/-
  Intake.Proofs.Stream.Transcode — a converted source depends on its bytes only.

  What is still to come of a source, or of a reader, is some bytes and then the end or a failure. One
  read takes what it gives from there and changes nothing else (`read_gives`, `Reader.read_gives`):
  the pieces in which bytes come, the room there is for them and the interruptions in between do not
  show in what is left. So the collected text is the conversion of all bytes at once.

  Proved:
  - `Reader.drain_eq`: all that a reader gives is what is still to come of it.
  - `transcode_eq`: the text of a source is that of its bytes, unless it fails.
  - `transcode_of_pieces`: so however its bytes come.
  - `transcode_text`: which of the bytes are read.
-/

import Intake.Proofs.Charset.Excerpt
import Intake.Proofs.Text.Utf8
import Intake.Stream.Transcode

namespace Intake.Stream

/-! ## One read -/

/-- What a read may give of the bytes and the failure that are still to come, and what is then still to
    come. -/
inductive Gives : List UInt8 × Option String → Option ReadEvent → List UInt8 × Option String → Prop
  | data (bytes rest : List UInt8) (fault : Option String) (h : bytes ≠ []) :
      Gives (bytes ++ rest, fault) (some (.data bytes)) (rest, fault)
  | interrupted (rest : List UInt8) (fault : Option String) :
      Gives (rest, fault) (some .interrupted) (rest, fault)
  | failed (message : String) (after : List UInt8 × Option String) :
      Gives ([], some message) (some (.failed message)) after
  | ended (after : List UInt8 × Option String) : Gives ([], none) none after

theorem gives_take {room : Nat} (hroom : 0 < room) {bytes : List UInt8} (hne : bytes ≠ []) (rest : List UInt8)
    (fault : Option String) :
    Gives (bytes ++ rest, fault) (some (.data (bytes.take room))) (bytes.drop room ++ rest, fault) := by
  have htake : bytes.take room ≠ [] := by
    intro h
    rcases List.take_eq_nil_iff.mp h with h | h
    · omega
    · exact hne h
  have h := Gives.data (bytes.take room) (bytes.drop room ++ rest) fault htake
  rw [← List.append_assoc, List.take_append_drop] at h
  exact h

variable {before after : List UInt8 × Option String}

theorem Gives.of_data {bytes : List UInt8} (h : Gives before (some (.data bytes)) after) :
    before = (bytes ++ after.1, after.2) := by
  cases h
  rfl

theorem Gives.of_interrupted (h : Gives before (some .interrupted) after) : before = after := by
  cases h
  rfl

theorem Gives.of_failed {message : String} (h : Gives before (some (.failed message)) after) :
    before = ([], some message) := by
  cases h
  rfl

theorem Gives.of_ended (h : Gives before none after) : before = ([], none) := by
  cases h
  rfl

/-- What is still to come of a source. -/
def upcoming (events : List ReadEvent) : List UInt8 × Option String := (delivered events, failure? events)

theorem read_gives {room : Nat} (hroom : 0 < room) (events : List ReadEvent) :
    Gives (upcoming events) (read room events).1 (upcoming (read room events).2) := by
  fun_induction read room events with
  | case1 => exact .ended _
  | case2 rest ih => exact ih
  | case3 bytes rest hne hleft => exact .data bytes (delivered rest) (failure? rest) hne
  | case4 bytes rest hne hleft => exact gives_take hroom hne (delivered rest) (failure? rest)
  | case5 event rest hdata hevent =>
    cases event with
    | data bytes => exact absurd rfl (hevent bytes)
    | interrupted => exact .interrupted _ _
    | failed message => exact .failed message _

theorem gives_of_read {room : Nat} {events rest : List ReadEvent} {event : Option ReadEvent} (hroom : 0 < room)
    (h : read room events = (event, rest)) : Gives (upcoming events) event (upcoming rest) := by
  have hgives := read_gives hroom events
  rw [h] at hgives
  exact hgives

namespace Reader

variable {m : Text.Machine UInt8 UInt8}

/-- What the machine has still to give for the bytes of the source. Where the source fails the machine
    does not come to its end. -/
def converted (r : Reader m) : List UInt8 :=
  if r.done then []
  else
    match failure? r.source with
    | none => m.outputFrom r.state (delivered r.source)
    | some _ => (m.feed (r.state, #[]) (delivered r.source)).2.toList

def fault (r : Reader m) : Option String := if r.done then none else failure? r.source

def upcoming (r : Reader m) : List UInt8 × Option String := (r.ready ++ r.converted, r.fault)

theorem upcoming_of_not_done {r : Reader m} (hready : r.ready = []) (hdone : r.done = false) :
    r.upcoming = (match failure? r.source with
      | none => m.outputFrom r.state (delivered r.source)
      | some _ => (m.feed (r.state, #[]) (delivered r.source)).2.toList, failure? r.source) := by
  simp [upcoming, converted, fault, hready, hdone]

/-- An interruption of the source leaves what is to come as it is. -/
theorem upcoming_source {r : Reader m} {rest : List ReadEvent} (hbytes : delivered r.source = delivered rest)
    (hfault : failure? r.source = failure? rest) : Reader.upcoming { r with source := rest } = r.upcoming := by
  simp [upcoming, converted, fault, hbytes, hfault]

theorem upcoming_convert {r : Reader m} {bytes : List UInt8} {rest : List ReadEvent} (hready : r.ready = [])
    (hdone : r.done = false) (hbytes : delivered r.source = bytes ++ delivered rest)
    (hfault : failure? r.source = failure? rest) : (r.convert bytes rest).upcoming = r.upcoming := by
  rw [upcoming_of_not_done hready hdone, hbytes, hfault]
  cases hrest : failure? rest with
  | none =>
    rw [Text.Machine.outputFrom_append]
    simp [upcoming, converted, fault, convert, hdone, hrest]
  | some message =>
    rw [Text.Machine.feed_append, Text.Machine.feed_output]
    simp [upcoming, converted, fault, convert, hdone, hrest]

theorem upcoming_finish {r : Reader m} (hready : r.ready = []) (hdone : r.done = false)
    (hbytes : delivered r.source = []) (hfault : failure? r.source = none) :
    r.finish.upcoming = r.upcoming := by
  rw [upcoming_of_not_done hready hdone, hbytes, hfault]
  simp [upcoming, converted, fault, finish, Text.Machine.outputFrom_nil]

theorem read_gives {room : Nat} (hroom : 0 < room) (r : Reader m) :
    Gives r.upcoming (r.read room).1 (r.read room).2.upcoming := by
  -- the reader goes on while the machine has nothing to give, and what is to come stays the same
  fun_induction read room r with
  | case1 r hready => exact gives_take hroom hready r.converted r.fault
  | case2 r hready hdone =>
    have hempty : r.upcoming = ([], none) := by
      simp [upcoming, converted, fault, Decidable.not_not.mp hready, hdone]
    rw [hempty]
    exact .ended _
  | case3 r hready hdone bytes rest hread ih =>
    have hgives := Stream.gives_of_read (by decide) hread
    obtain ⟨hbytes, hfault⟩ := Prod.mk.inj hgives.of_data
    rw [← upcoming_convert (Decidable.not_not.mp hready) (Bool.eq_false_iff.mpr hdone) hbytes hfault]
    exact ih
  | case4 r hready hdone event rest hdata hread =>
    have hgives := Stream.gives_of_read (by decide) hread
    have hready := Decidable.not_not.mp hready
    have hdone := Bool.eq_false_iff.mpr hdone
    cases event with
    | data bytes => exact absurd rfl (hdata bytes)
    | interrupted =>
      obtain ⟨hbytes, hfault⟩ := Prod.mk.inj hgives.of_interrupted
      rw [← upcoming_source hbytes hfault]
      exact .interrupted _ _
    | failed message =>
      obtain ⟨hbytes, hfault⟩ := Prod.mk.inj hgives.of_failed
      rw [upcoming_of_not_done hready hdone, hbytes, hfault]
      exact .failed message _
  | case5 r hready hdone rest hread ih =>
    have hgives := Stream.gives_of_read (by decide) hread
    obtain ⟨hbytes, hfault⟩ := Prod.mk.inj hgives.of_ended
    rw [← upcoming_finish (Decidable.not_not.mp hready) (Bool.eq_false_iff.mpr hdone) hbytes hfault]
    exact ih

theorem gives_of_read {room : Nat} {r r' : Reader m} {event : Option ReadEvent} (hroom : 0 < room)
    (h : r.read room = (event, r')) : Gives r.upcoming event r'.upcoming := by
  have hgives := read_gives hroom r
  rw [h] at hgives
  exact hgives

/-! ## All of it -/

def outcome : List UInt8 × Option String → Except String (List UInt8)
  | (bytes, none) => .ok bytes
  | (_, some message) => .error message

theorem outcome_append (bytes : List UInt8) (after : List UInt8 × Option String) :
    (do return bytes ++ (← outcome after)) = outcome (bytes ++ after.1, after.2) := by
  obtain ⟨rest, fault⟩ := after
  cases fault <;> rfl

theorem drain_eq (r : Reader m) : r.drain = outcome r.upcoming := by
  fun_induction drain r with
  | case1 r r' hread =>
    rw [(gives_of_read (by decide) hread).of_ended, outcome]
  | case2 r bytes r' hread ih =>
    rw [(gives_of_read (by decide) hread).of_data, ih, outcome_append]
  | case3 r r' hread ih =>
    rw [(gives_of_read (by decide) hread).of_interrupted, ih]
  | case4 r message r' hread =>
    rw [(gives_of_read (by decide) hread).of_failed, outcome]

end Reader

/-! ## A whole source -/

theorem transcode_eq [Codecs] (c : Charset) (events : List ReadEvent) :
    transcode c events =
      match failure? events with
      | some message => .error message
      | none => .ok (c.inspectBytes (delivered events)) := by
  rw [transcode, Reader.drain_eq, Reader.upcoming_of_not_done rfl rfl]
  change Reader.outcome (match failure? events with
    | none => c.converter.run (delivered events)
    | some _ => _, failure? events) = _
  cases failure? events with
  | none => rw [Reader.outcome, Charset.run_converter]
  | some message => rw [Reader.outcome]

theorem delivered_ofBytes (bytes : List UInt8) : delivered (ofBytes bytes) = bytes := List.append_nil bytes

theorem transcode_ofBytes [Codecs] (c : Charset) (bytes : List UInt8) :
    transcode c (ofBytes bytes) = .ok (c.inspectBytes bytes) := by
  rw [transcode_eq, delivered_ofBytes]
  rfl

/-- Interruptions neither hold bytes nor end a source. -/
theorem upcoming_filter (events : List ReadEvent) :
    upcoming (events.filter (· ≠ .interrupted)) = upcoming events := by
  induction events with
  | nil => rfl
  | cons event events ih =>
    obtain ⟨hbytes, hfault⟩ := Prod.mk.inj ih
    cases event with
    | data bytes =>
      rw [List.filter_cons_of_pos (by simp)]
      exact Prod.ext (congrArg (bytes ++ ·) hbytes) hfault
    | interrupted => exact ih
    | failed message => rfl

/-- A source that fails before its end gives its failure. Any other gives its text in UTF-8, as if all its
    bytes had come at once, and whether and where it was interrupted does not matter. -/
theorem transcode_of_pieces [Codecs] (c : Charset) (events : List ReadEvent) :
    (match failure? events with
      | some message => transcode c events = .error message
      | none =>
        transcode c events = transcode c (ofBytes (delivered events)) ∧
        transcode c events = .ok (c.inspectBytes (delivered events)) ∧
        Text.Utf8.decode? (c.inspectBytes (delivered events)) = some (c.inspect (delivered events))) ∧
    transcode c (events.filter (· ≠ .interrupted)) = transcode c events := by
  constructor
  · have hwhole := transcode_eq c events
    cases hfailure : failure? events with
    | some message =>
      rw [hfailure] at hwhole
      exact hwhole
    | none =>
      rw [hfailure] at hwhole
      refine ⟨?_, hwhole, Text.Utf8.decode?_encode _⟩
      rw [hwhole, transcode_ofBytes]
  · obtain ⟨hbytes, hfault⟩ := Prod.mk.inj (upcoming_filter events)
    rw [transcode_eq, transcode_eq, hbytes, hfault]

section

open scoped Excerpt

/-- A character of two bytes between escape sequences, with a cut in each of them. -/
def cutPair : List ReadEvent :=
  [.data [0x1B, 0x24], .interrupted, .data [0x42, 0x24], .data [0x22, 0x1B], .interrupted, .data [0x28, 0x42, 0x62]]

theorem transcode_of_cut_pair :
    transcode .iso2022Jp cutPair = .ok (Text.Utf8.encode ['あ', 'b']) ∧
    transcode .iso2022Jp (cutPair.filter (· ≠ .interrupted)) = .ok (Text.Utf8.encode ['あ', 'b']) ∧
    transcode .iso2022Jp (cutPair ++ [.failed "lost"]) = .error "lost" := by
  obtain ⟨hpieces, hsteady⟩ := transcode_of_pieces .iso2022Jp cutPair
  obtain ⟨hlost, -⟩ := transcode_of_pieces .iso2022Jp (cutPair ++ [.failed "lost"])
  have hfailure : failure? cutPair = none := rfl
  have htext : Charset.iso2022Jp.inspect (delivered cutPair) = ['あ', 'b'] := by decide +kernel
  rw [hfailure] at hpieces
  obtain ⟨-, hwhole, -⟩ := hpieces
  rw [Charset.inspectBytes, htext] at hwhole
  exact ⟨hwhole, hsteady.trans hwhole, hlost⟩

end

/-! ## Which bytes are read -/

/-- What is read of a file is what follows the marks that inspection drops. These are the file's own mark,
    if it has one, just where the file starts with no other and not with its own twice. -/
theorem transcode_text [Codecs] (c : Charset) (bytes : List UInt8) :
    transcode c (ofBytes bytes) = .ok (Text.Utf8.encode (c.decode (bytes.drop (c.strippedLength bytes)))) ∧
      (c.strippedLength bytes = c.ownMarkLength bytes ↔ c.OwnMarkOnly bytes) := by
  refine ⟨?_, Charset.strippedLength_eq_iff⟩
  rw [transcode_ofBytes, Charset.inspectBytes, Charset.inspect_eq]

section

open scoped Excerpt

/-- A file in UTF-16 whose first characters are written like the mark of UTF-8 loses them, and what follows
    is read out of step. A file with its own mark twice loses the second one too, which is a character. -/
theorem transcode_drops_characters :
    transcode .utf16le (ofBytes [0xEF, 0xBB, 0xBF, 0x00]) = .ok (Text.Utf8.encode ['\ufffd']) ∧
      Charset.utf16le.decode ([0xEF, 0xBB, 0xBF, 0x00].drop
        (Charset.utf16le.ownMarkLength [0xEF, 0xBB, 0xBF, 0x00])) = ['\ubbef', '\u00bf'] ∧
    transcode .utf16be (ofBytes [0xFE, 0xFF, 0xFE, 0xFF, 0x00, 0x78]) = .ok (Text.Utf8.encode ['x']) ∧
      Charset.utf16be.decode ([0xFE, 0xFF, 0xFE, 0xFF, 0x00, 0x78].drop
        (Charset.utf16be.ownMarkLength [0xFE, 0xFF, 0xFE, 0xFF, 0x00, 0x78])) = ['\ufeff', 'x'] := by
  rw [transcode_ofBytes, transcode_ofBytes, Charset.inspectBytes, Charset.inspectBytes]
  have hforeign : Charset.utf16le.inspect [0xEF, 0xBB, 0xBF, 0x00] = ['\ufffd'] := by decide +kernel
  have htwice : Charset.utf16be.inspect [0xFE, 0xFF, 0xFE, 0xFF, 0x00, 0x78] = ['x'] := by decide +kernel
  rw [hforeign, htwice]
  refine ⟨rfl, by decide +kernel, rfl, by decide +kernel⟩

end

end Intake.Stream
