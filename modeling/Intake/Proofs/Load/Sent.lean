/-
  Intake.Proofs.Load.Sent — what is sent of an opened file.

  A file that is converted is read to its end before anything is sent, so one that fails is not
  sent. A file that is sent as it is loses its own mark, and a failure is met only in sending it:
  what comes before the failure is sent, but nothing if not even the place of a mark was read.

  Proved:
  - `openSource_eq`, `openSource_ok`: when an opened file gives a source, and which.
  - `opened_of_ok`: the text that a source holds is the whole text of the file.
  - `send_runs`: what is written of a source, and how the sending ends.
  - `sentOf_whole`: only a file that can be read as a whole is sent to its end.
-/

import Intake.Proofs.Load.Plan
import Intake.Proofs.Stream.Copy
import Intake.Proofs.Stream.Transcode

namespace Intake.Load

open Database (Exchange Runs)
open Storage (Entry Files Reading)
open Intake.Stream (Copied)

variable {σ : Type}

/-! ## The bytes of a file -/

theorem delivered_eventsOf (entry : Entry) : Stream.delivered (eventsOf entry) = entry.reading.bytes := by
  unfold eventsOf
  cases entry.reading.failure? with
  | none => exact List.append_nil _
  | some e => exact List.append_nil _

theorem failure?_eventsOf (entry : Entry) :
    Stream.failure? (eventsOf entry) = entry.reading.failure?.map Storage.FileError.message := by
  unfold eventsOf
  cases entry.reading.failure? with
  | none => rfl
  | some e => rfl

variable [Codecs]

/-- The bytes that are sent of a file with these contents. -/
def Prepared.sent (p : Prepared) (contents : List UInt8) : List UInt8 :=
  if p.transfer.transcodes then p.transfer.source.inspectBytes contents
  else contents.drop (p.transfer.source.ownMarkLength contents)

/-- The bytes that are sent of a file as far as it can be read. A file that fails before it is seen whether it
    starts with a mark is not sent at all. -/
def Prepared.sentOf (p : Prepared) (r : Reading) : List UInt8 :=
  if r.failure?.isSome ∧ r.bytes.length < Charset.headLength then [] else p.sent r.bytes

/-! ## Opening a source -/

/-- What an opened file is sent from. A file that fails is noticed only in sending it, unless it is converted. -/
theorem openSource_eq {files : Files} {p : Prepared} {entry : Entry} (h : files.openEntry p.path = .ok entry) :
    openSource files p =
      if p.transfer.transcodes then
        match entry.reading.failure? with
        | none => .ok (.transcoded (p.transfer.source.inspectBytes entry.reading.bytes))
        | some e => .error (.transcoding p.path e.message)
      else .ok (.direct p.transfer.source (eventsOf entry)) := by
  have hfile : openFile files p.path = .ok entry := mapError_ok_iff.mpr h
  unfold openSource
  rw [hfile]
  show (if p.transfer.transcodes = true then _ else _ : Except LoadError Source) = _
  by_cases ht : p.transfer.transcodes = true
  · rw [if_pos ht, if_pos ht, Stream.transcode_eq, failure?_eventsOf, delivered_eventsOf]
    cases entry.reading.failure? with
    | none => rfl
    | some e => rfl
  · rw [if_neg ht, if_neg ht]
    rfl

theorem openSource_read {files : Files} {p : Prepared} {contents : List UInt8}
    (h : files.read p.path = .ok contents) :
    openSource files p = .ok (if p.transfer.transcodes then .transcoded (p.transfer.source.inspectBytes contents)
      else .direct p.transfer.source (Stream.ofBytes contents)) := by
  rw [openSource_eq (Files.read_ok_iff.mp h)]
  by_cases ht : p.transfer.transcodes = true
  · rw [if_pos ht, if_pos ht]
    rfl
  · rw [if_neg ht, if_neg ht]
    rfl

theorem openSource_ok {files : Files} {p : Prepared} {source : Source} (h : openSource files p = .ok source) :
    ∃ entry, files.openEntry p.path = .ok entry ∧
      (p.transfer.transcodes = true ∧ entry.reading.failure? = none ∧
          source = .transcoded (p.transfer.source.inspectBytes entry.reading.bytes) ∨
        p.transfer.transcodes = false ∧ source = .direct p.transfer.source (eventsOf entry)) := by
  obtain ⟨entry, hfile, -⟩ := bind_ok_iff.mp h
  have hopen := mapError_ok_iff.mp hfile
  refine ⟨entry, hopen, ?_⟩
  rw [openSource_eq hopen] at h
  by_cases ht : p.transfer.transcodes = true
  · rw [if_pos ht] at h
    cases hfailure : entry.reading.failure? with
    | none =>
      rw [hfailure] at h
      exact .inl ⟨ht, rfl, (Except.ok.inj h).symm⟩
    | some e =>
      rw [hfailure] at h
      cases h
  · rw [if_neg ht] at h
    exact .inr ⟨Bool.eq_false_iff.mpr ht, (Except.ok.inj h).symm⟩

/-- The source could be opened, and it is the whole text of the file if it is converted. -/
def Opened (files : Files) (p : Prepared) : Prop :=
  ∃ source, openSource files p = .ok source ∧
    (p.transfer.transcodes = true → ∃ contents, files.read p.path = .ok contents ∧
      source = .transcoded (p.transfer.source.inspectBytes contents))

theorem opened_of_ok {files : Files} {p : Prepared} {source : Source} (h : openSource files p = .ok source) :
    Opened files p := by
  refine ⟨source, h, fun ht => ?_⟩
  obtain ⟨entry, hopen, ⟨-, hwhole, hsource⟩ | ⟨hnot, -⟩⟩ := openSource_ok h
  · obtain ⟨contents, rfl⟩ := Entry.failure?_eq_none_iff.mp hwhole
    exact ⟨contents, Files.read_ok_iff.mpr hopen, hsource⟩
  · rw [ht] at hnot
    cases hnot

/-! ## Sending it -/

def Sent (files : Files) (p : Prepared) (r : Except String Nat) (log : List Exchange) : Prop :=
  ∃ entry, files.openEntry p.path = .ok entry ∧
    Copied (p.sentOf entry.reading) (entry.reading.failure?.map Storage.FileError.message) r log

/-- A file that is sent as it is loses its mark, unless it fails before that is seen. -/
theorem copied_direct {p : Prepared} (ht : p.transfer.transcodes = false) (entry : Entry) {r : Except String Nat}
    {log : List Exchange}
    (h : match Stream.takeHead Charset.headLength (eventsOf entry) with
      | .error m => r = .error m ∧ log = []
      | .ok (head, rest) =>
        Copied (head.drop (p.transfer.source.ownMarkLength head) ++ Stream.delivered rest) (Stream.failure? rest) r log) :
    Copied (p.sentOf entry.reading) (entry.reading.failure?.map Storage.FileError.message) r log := by
  unfold Prepared.sentOf
  by_cases hearly : entry.reading.failure?.isSome ∧ entry.reading.bytes.length < Charset.headLength
  · obtain ⟨hfault, hshort⟩ := hearly
    obtain ⟨e, he⟩ := Option.isSome_iff_exists.mp hfault
    have hobstacle : Stream.obstacle? Charset.headLength (eventsOf entry) = some (.failed e.message) := by
      rw [eventsOf, he, Stream.obstacle?, if_neg (by omega)]
      rfl
    rw [Stream.takeHead_failed hobstacle] at h
    obtain ⟨rfl, rfl⟩ := h
    rw [if_pos ⟨hfault, hshort⟩, he]
    exact .broken [] e.message rfl rfl
  · have hclear : Stream.obstacle? Charset.headLength (eventsOf entry) = none := by
      rw [eventsOf, Stream.obstacle?]
      split
      · rfl
      · cases hfailure : entry.reading.failure? with
        | none => rfl
        | some e => exact absurd ⟨by rw [hfailure]; rfl, by omega⟩ hearly
    obtain ⟨rest, hhead, hrest, hfault⟩ := Stream.takeHead_ok hclear
    rw [hhead] at h
    simp only [hrest, hfault, delivered_eventsOf, failure?_eventsOf, Charset.drop_ownMark_head] at h
    rw [if_neg hearly, Prepared.sent, if_neg (by simp [ht])]
    exact h

theorem send_runs (db : Database σ) {files : Files} {p : Prepared} {source : Source}
    (h : openSource files p = .ok source) :
    Runs (send db source).run (send db.traced source).run (Sent files p) := by
  obtain ⟨entry, hopen, ⟨ht, hwhole, rfl⟩ | ⟨ht, rfl⟩⟩ := openSource_ok h
  · -- the converted text holds no mark any more
    refine (Stream.copyChunks_runs (sinkOf db) _).mono fun r log hc => ⟨entry, hopen, ?_⟩
    rw [Prepared.sentOf, hwhole, if_neg (by simp), Prepared.sent, if_pos ht]
    simpa [Stream.ofBytes, Stream.delivered, Stream.failure?] using hc
  · refine (Stream.copyWithoutMark_runs _ (sinkOf db) _).mono fun r log hc => ⟨entry, hopen, ?_⟩
    exact copied_direct ht entry hc

/-- What is sent to its end is all of a file that can be read. -/
theorem sentOf_whole {files : Files} {p : Prepared} {entry : Entry} (hopen : files.openEntry p.path = .ok entry)
    (hfault : entry.reading.failure?.map Storage.FileError.message = none) :
    ∃ contents, files.read p.path = .ok contents ∧ p.sentOf entry.reading = p.sent contents := by
  obtain ⟨contents, rfl⟩ := Entry.failure?_eq_none_iff.mp (Option.map_eq_none_iff.mp hfault)
  exact ⟨contents, Files.read_ok_iff.mpr hopen, rfl⟩

end Intake.Load
