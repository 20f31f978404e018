/-
  Intake.Proofs.Load.Again — the plan for a file made again from what it says.

  A plan says how its file is read: with or without a header, in which dialect, and in which encoding. A
  plan that is made from these settings needs nothing to be found out, and it is the same.

  Proved:
  - `layoutOf_again`: the columns of a file, found out once more.
  - `prepare_again`: the plan made from the settings of a plan is that plan, wherever the same file is.
-/

import Intake.Proofs.Delimited.Again
import Intake.Proofs.Load.Agreement

namespace Intake.Load

open Storage (Files)

variable [Codecs] {files files' : Files} {path path' : String} {header : Option Bool}

theorem layoutOf_again {d : Delimited.Dialect} {c : Charset} {layout : Delimited.Layout}
    (h : layoutOf files path d c header = .ok layout) (hsame : files'.openEntry path' = files.openEntry path) :
    layoutOf files' path' d c (some layout.hasHeader) = .ok layout := by
  obtain ⟨entry, rows, hopen, hrows, hreach, rfl⟩ := layoutOf_ok h
  have hone : entry.reading.failure? = none ∨ 1 ≤ (rows.take 1).length := by
    refine hreach.imp_right fun hwanted => ?_
    have hfirst := Delimited.one_le_rowsWanted header
    rw [List.length_take]
    omega
  rw [layoutOf_of_rows (hsame.trans hopen) (Delimited.firstRows_again hrows _) hone, Delimited.layoutOf_again]

/-- A file for which there is a plan has the same plan by its own settings, under any path. -/
theorem prepare_again {dialect : Option Delimited.Dialect} {charset : Option Charset} {p : Prepared}
    (h : prepare files path header dialect charset = .ok p) (hsame : files'.openEntry path' = files.openEntry path) :
    prepare files' path' (some p.hasHeader) (some p.dialect) (some p.transfer.source) = .ok { p with path := path' } := by
  obtain ⟨c, layout, -, hcheck, hlayout, hcolumns, hp⟩ := prepare_made h
  have hsource : p.transfer.source = c := by
    rw [hp]
    exact Charset.source_transfer c
  have hheader : p.hasHeader = layout.hasHeader := by rw [hp]
  rw [prepare_eq, hsource, hheader]
  refine bind_ok_iff.mpr ⟨c, rfl, bind_ok_iff.mpr ⟨p.dialect, rfl, ?_⟩⟩
  unfold planOf
  refine bind_ok_iff.mpr ⟨(), mapError_ok_iff.mpr hcheck, bind_ok_iff.mpr ⟨layout, layoutOf_again hlayout hsame, ?_⟩⟩
  rw [if_neg (by simpa using hcolumns), hp]
  rfl

end Intake.Load
