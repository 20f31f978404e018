/-
  Intake.Proofs.Storage.Read — what can be read of an entry.

  A file that is in order is read to its end. A directory gives a failure at once and a damaged file
  one after some of its bytes, so only a file that is in order is read as a whole.

  Proved:
  - `Reading.demand_ok_iff`: a failure is not met where there is enough before it.
  - `Entry.failure?_eq_none_iff`: only a file that is in order has none.
  - `Files.read_ok_iff`: what is opened where a whole file is read.
-/

import Intake.Proofs.Outcome
import Intake.Storage.Files

namespace Intake.Storage

theorem Reading.demand_ok_iff {r : Reading} {enough : Bool} :
    r.demand enough = .ok () ↔ r.failure? = none ∨ enough = true := by
  unfold demand
  cases r.failure? with
  | none => simp
  | some e => cases enough <;> simp

@[simp] theorem Entry.read_file (contents : List UInt8) : (Entry.file contents).read = .ok contents := rfl

theorem Entry.failure?_eq_none_iff {entry : Entry} :
    entry.reading.failure? = none ↔ ∃ contents, entry = .file contents := by
  cases entry <;> simp [reading]

theorem Entry.read_ok_iff {entry : Entry} {contents : List UInt8} :
    entry.read = .ok contents ↔ entry = .file contents := by
  cases entry with
  | directory => exact iff_of_false nofun nofun
  | file contents' => simp
  | damaged readable => exact iff_of_false nofun nofun

namespace Files

variable {files : Files} {path : String}

theorem read_of_open {entry : Entry} (h : files.openEntry path = .ok entry) : files.read path = entry.read := by
  unfold Files.read
  rw [h]
  rfl

theorem read_ok_iff {contents : List UInt8} :
    files.read path = .ok contents ↔ files.openEntry path = .ok (.file contents) := by
  constructor
  · intro h
    obtain ⟨entry, hopen, hread⟩ := bind_ok_iff.mp h
    rw [hopen, Entry.read_ok_iff.mp hread]
  · intro h
    exact read_of_open h

end Files

end Intake.Storage
