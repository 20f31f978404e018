/-
  Intake.Proofs.Load.Columns — a file that can be read has columns.

  Whatever a file holds and whatever encoding it is read in, its text is a text: for what is malformed there is a
  character. So its records are texts too, and of all that can be wrong with delimited text nothing is. The first
  record alone says how many columns there are; whether it is a header says only what they are called.

  Proved:
  - `isText_inspectBytes`: the text of a file is one.
  - `columns_of_first_record`: a file has a column for each field of its first record, and none without a record.
-/

import Intake.Proofs.Delimited.Legible
import Intake.Proofs.Load.Again
import Intake.Proofs.Load.Sample

namespace Intake.Load

open Storage (Files)

theorem isText_inspectBytes [Codecs] (c : Charset) (contents : List UInt8) : Text.Utf8.IsText (c.inspectBytes contents) :=
  ⟨c.inspect contents, rfl⟩

/-- The columns of a file that can be read are found, in any encoding and any dialect that is in order: its records are
    read without a failure, and there are as many columns as the first of them has fields, with a header, without one,
    or where that is found out too. There is none just if there is no record. -/
theorem columns_of_first_record [Codecs] {files : Files} {path : String} {contents : List UInt8}
    (hread : files.read path = .ok contents) {d : Delimited.Dialect} (hd : d.check = .ok ()) (c : Charset) :
    ∃ rows : List (List String), Delimited.records d (c.inspectBytes contents) = rows.map .ok ∧
      ∀ header, ∃ found, layoutOf files path d c header = .ok found ∧
        found.headers.length = (rows.head?.map List.length).getD 0 ∧ (found.headers.length = 0 ↔ rows = []) := by
  obtain ⟨rows, hrows, hfields⟩ := Delimited.records_of_text hd (isText_inspectBytes c contents)
  refine ⟨rows, hrows, fun header => ?_⟩
  have hlayout := Delimited.layout_of_rows hrows header
  have hlength := Delimited.length_headers header rows
  refine ⟨_, ?_, hlength, ?_⟩
  · rw [layoutOf_read hread, hlayout]
    rfl
  · rw [hlength]
    cases rows with
    | nil => simp
    | cons first others =>
      have hfirst := hfields first List.mem_cons_self
      simpa using hfirst

/-- An escaped letter of two bytes, a byte that is malformed, and a longer record: `"\é"|?` and `1|2|3`. -/
def uneven : List UInt8 :=
  [0x22, 0x5C, 0xC3, 0xA9, 0x22, 0x7C, 0xFF, 0x0A, 0x31, 0x7C, 0x32, 0x7C, 0x33, 0x0A]

section

open scoped Excerpt

/-- A byte of a character of two bytes separates nothing. -/
example : (layoutOf (onlyFile "rows.csv" [0x83, 0x7C, 0x0A]) "rows.csv" ⟨0x7C, 0x22, none⟩ .shiftJis
      (some true)).toOption.map (·.headers) = some ["ポ"] := by
  decide +kernel

theorem columns_of_uneven :
    (onlyFile "rows.csv" uneven).read "rows.csv" = .ok uneven ∧
    Delimited.Dialect.check ⟨0x7C, 0x22, some 0x5C⟩ = .ok () ∧
    Delimited.records ⟨0x7C, 0x22, some 0x5C⟩ (Charset.utf8.inspectBytes uneven) =
      [.ok ["é", "\ufffd"], .ok ["1", "2", "3"]] ∧
    ∀ header, ∃ found, layoutOf (onlyFile "rows.csv" uneven) "rows.csv" ⟨0x7C, 0x22, some 0x5C⟩ .utf8 header = .ok found ∧
      found.headers.length = 2 := by
  have hread : (onlyFile "rows.csv" uneven).read "rows.csv" = .ok uneven := by with_unfolding_all rfl
  have hcheck : Delimited.Dialect.check ⟨0x7C, 0x22, some 0x5C⟩ = .ok () := rfl
  have hrecords : Delimited.records ⟨0x7C, 0x22, some 0x5C⟩ (Charset.utf8.inspectBytes uneven) =
      [["é", "\ufffd"], ["1", "2", "3"]].map .ok := by
    decide +kernel
  obtain ⟨rows, hrows, hall⟩ := columns_of_first_record hread hcheck .utf8
  have hsame : [["é", "\ufffd"], ["1", "2", "3"]] = rows :=
    (List.map_inj_right fun _ _ => Except.ok.inj).mp (hrecords.symm.trans hrows)
  refine ⟨hread, hcheck, hrecords, fun header => ?_⟩
  obtain ⟨found, hfound, hlength, -⟩ := hall header
  rw [← hsame] at hlength
  exact ⟨found, hfound, hlength⟩

end

end Intake.Load
