/-
  Intake.Proofs.Load.Plan — how the plan for a file comes about, and why there may be none.

  A plan is made step by step: the encoding, the dialect, and then the columns (`prepare_made`). For
  the columns only the first rows are read, so a file may have a plan that cannot be read to its end
  (`layoutOf_ok`). What can go wrong in making it, or in opening the file after it, is wrong with the
  request or with the file; no database has a part in it (`isLocal_prepare`, `isLocal_openSource`).
-/

import Intake.Load.Import
import Intake.Proofs.Storage.Read

namespace Intake.Load

open Storage (Files)

/-! ## The plan -/

/-- The encoding that is prescribed, or the one the file shows. -/
def charsetOf (files : Files) (path : String) : Option Charset → Except LoadError Charset
  | some c => .ok c
  | none => detectCharset files path

section

variable [Codecs]

def dialectOf (files : Files) (path : String) (source : Charset) :
    Option Delimited.Dialect → Except LoadError Delimited.Dialect
  | some d => .ok d
  | none => sniffDialect files path source Delimited.defaultQuote none

def planOf (files : Files) (path : String) (header : Option Bool) (source : Charset)
    (dialect : Delimited.Dialect) : Except LoadError Prepared := do
  dialect.check.mapError .dialect
  let layout ← layoutOf files path dialect source header
  if layout.headers.isEmpty then .error (.noColumns path)
  else
    return ⟨path, source.transfer, dialect, layout.hasHeader, layout.headers,
      Column.names layout.headers⟩

theorem prepare_eq (files : Files) (path : String) (header : Option Bool)
    (dialect : Option Delimited.Dialect) (charset : Option Charset) :
    prepare files path header dialect charset =
      charsetOf files path charset >>= fun source =>
        dialectOf files path source dialect >>= planOf files path header source := by
  cases charset <;> cases dialect <;> rfl

theorem prepare_made {files : Files} {path : String} {header : Option Bool}
    {dialect : Option Delimited.Dialect} {charset : Option Charset} {p : Prepared}
    (h : prepare files path header dialect charset = .ok p) :
    ∃ c layout, charsetOf files path charset = .ok c ∧ p.dialect.check = .ok () ∧
      layoutOf files path p.dialect c header = .ok layout ∧ layout.headers ≠ [] ∧
      p = ⟨path, c.transfer, p.dialect, layout.hasHeader, layout.headers, Column.names layout.headers⟩ := by
  rw [prepare_eq] at h
  obtain ⟨c, hcharset, h⟩ := bind_ok_iff.mp h
  obtain ⟨dialect, -, h⟩ := bind_ok_iff.mp h
  obtain ⟨⟨⟩, hcheck, h⟩ := bind_ok_iff.mp h
  obtain ⟨layout, hlayout, h⟩ := bind_ok_iff.mp h
  by_cases hempty : layout.headers.isEmpty = true
  · rw [if_pos hempty] at h
    cases h
  · rw [if_neg hempty] at h
    cases h
    exact ⟨c, layout, hcharset, mapError_ok_iff.mp hcheck, hlayout, by simpa using hempty, rfl⟩

theorem prepare_ok {files : Files} {path : String} {header : Option Bool}
    {dialect : Option Delimited.Dialect} {charset : Option Charset} {p : Prepared}
    (h : prepare files path header dialect charset = .ok p) :
    p.path = path ∧ p.columns = Column.names p.headers := by
  obtain ⟨c, layout, -, -, -, -, hp⟩ := prepare_made h
  rw [hp]
  exact ⟨rfl, rfl⟩

/-- A plan is made only in a dialect that is in order, and only for a file with columns. -/
theorem prepare_checked {files : Files} {path : String} {header : Option Bool}
    {dialect : Option Delimited.Dialect} {charset : Option Charset} {p : Prepared}
    (h : prepare files path header dialect charset = .ok p) : p.dialect.check = .ok () ∧ p.headers ≠ [] := by
  obtain ⟨c, layout, -, hcheck, -, hcolumns, hp⟩ := prepare_made h
  refine ⟨hcheck, ?_⟩
  rw [hp]
  exact hcolumns

section

variable {files : Files} {path : String} {dialect : Delimited.Dialect} {c : Charset} {header : Option Bool}

theorem layoutOf_read {contents : List UInt8} (h : files.read path = .ok contents) (dialect : Delimited.Dialect)
    (c : Charset) (header : Option Bool) :
    layoutOf files path dialect c header =
      (Delimited.layout dialect header (c.inspectBytes contents)).mapError .record := by
  have hopen : openFile files path = .ok (.file contents) := mapError_ok_iff.mpr (Files.read_ok_iff.mp h)
  unfold layoutOf Delimited.layout
  rw [hopen]
  show ((Delimited.firstRows header (Delimited.records dialect (c.inspectBytes contents))).mapError LoadError.record >>=
    _) = _
  cases Delimited.firstRows header (Delimited.records dialect (c.inspectBytes contents)) with
  | error e => rfl
  | ok rows => rfl

/-- The columns of a file come from its first rows, and no failure is met before these. -/
theorem layoutOf_ok {layout : Delimited.Layout} (h : layoutOf files path dialect c header = .ok layout) :
    ∃ entry rows, files.openEntry path = .ok entry ∧
      Delimited.firstRows header (recordsOf dialect c entry.reading) = .ok rows ∧
      (entry.reading.failure? = none ∨ Delimited.rowsWanted header ≤ rows.length) ∧
      layout = Delimited.layoutOf header rows := by
  obtain ⟨entry, hopen, h⟩ := bind_ok_iff.mp h
  obtain ⟨rows, hrows, h⟩ := bind_ok_iff.mp h
  obtain ⟨⟨⟩, hdemand, h⟩ := bind_ok_iff.mp h
  have hreach := Storage.Reading.demand_ok_iff.mp (mapError_ok_iff.mp hdemand)
  rw [decide_eq_true_eq] at hreach
  exact ⟨entry, rows, mapError_ok_iff.mp hopen, mapError_ok_iff.mp hrows, hreach, (pure_ok_iff.mp h).symm⟩

theorem layoutOf_of_rows {entry : Storage.Entry} {rows : List (List String)} (hopen : files.openEntry path = .ok entry)
    (hrows : Delimited.firstRows header (recordsOf dialect c entry.reading) = .ok rows)
    (hreach : entry.reading.failure? = none ∨ Delimited.rowsWanted header ≤ rows.length) :
    layoutOf files path dialect c header = .ok (Delimited.layoutOf header rows) := by
  have hdemand : entry.reading.demand (Delimited.rowsWanted header ≤ rows.length) = .ok () := by
    refine Storage.Reading.demand_ok_iff.mpr ?_
    rwa [decide_eq_true_eq]
  refine bind_ok_iff.mpr ⟨entry, mapError_ok_iff.mpr hopen, bind_ok_iff.mpr ⟨rows, mapError_ok_iff.mpr hrows, ?_⟩⟩
  exact bind_ok_iff.mpr ⟨(), mapError_ok_iff.mpr hdemand, rfl⟩

/-- A directory has no columns. -/
theorem layoutOf_not_directory {layout : Delimited.Layout} (h : layoutOf files path dialect c header = .ok layout) :
    files.openEntry path ≠ .ok .directory := by
  intro hdirectory
  obtain ⟨entry, rows, hopen, hrows, hreach, -⟩ := layoutOf_ok h
  obtain rfl := Except.ok.inj (hdirectory.symm.trans hopen)
  have hnothing : Delimited.firstRows header (recordsOf dialect c Storage.Entry.directory.reading) = .ok [] := by
    cases header <;> rfl
  obtain rfl := Except.ok.inj (hnothing.symm.trans hrows)
  rcases hreach with hnone | hreach
  · cases hnone
  · cases header <;> cases hreach

end

end

/-! ## Failures that need no database -/

def LoadError.isLocal : LoadError → Bool
  | .createTable .. | .copyStart .. | .stream .. | .finish .. => false
  | _ => true

def IsLocal {α : Type} (x : Except LoadError α) : Prop := ∀ e, x = .error e → e.isLocal = true

section

variable {α β ε : Type}

theorem isLocal_ok (a : α) : IsLocal (.ok a) := nofun

theorem isLocal_error {e : LoadError} (h : e.isLocal = true) : IsLocal (.error e : Except LoadError α) := by
  rintro e' ⟨⟩
  exact h

theorem isLocal_mapError {x : Except ε α} {wrap : ε → LoadError} (h : ∀ e, (wrap e).isLocal = true) :
    IsLocal (x.mapError wrap) := by
  intro e he
  obtain ⟨e', -, rfl⟩ := mapError_error_iff.mp he
  exact h e'

theorem IsLocal.bind {x : Except LoadError α} {f : α → Except LoadError β} (hx : IsLocal x)
    (hf : ∀ a, IsLocal (f a)) : IsLocal (x >>= f) := by
  intro e he
  rcases bind_error_iff.mp he with h | ⟨a, -, h⟩
  · exact hx e h
  · exact hf a e h

end

theorem isLocal_openFile (files : Files) (path : String) : IsLocal (openFile files path) :=
  isLocal_mapError fun _ => rfl

theorem isLocal_detectCharset (files : Files) (path : String) : IsLocal (detectCharset files path) := by
  refine (isLocal_openFile files path).bind fun entry => IsLocal.bind ?_ fun _ => isLocal_ok _
  exact isLocal_mapError fun _ => rfl

variable [Codecs]

theorem isLocal_sniffDelimiter (files : Files) (path : String) (c : Charset) (quote : UInt8) :
    IsLocal (sniffDelimiter files path c quote) := by
  refine (isLocal_openFile files path).bind fun entry => IsLocal.bind ?_ fun _ => ?_
  · exact isLocal_mapError fun _ => rfl
  · cases sample? (textOf c entry.reading) with
    | none => exact isLocal_error rfl
    | some sample => exact isLocal_ok _

theorem isLocal_layoutOf (files : Files) (path : String) (dialect : Delimited.Dialect) (c : Charset)
    (header : Option Bool) : IsLocal (layoutOf files path dialect c header) := by
  refine (isLocal_openFile files path).bind fun entry => IsLocal.bind ?_ fun rows => IsLocal.bind ?_ fun _ => ?_
  · exact isLocal_mapError fun _ => rfl
  · exact isLocal_mapError fun _ => rfl
  · exact isLocal_ok _

theorem isLocal_prepare (files : Files) (path : String) (header : Option Bool)
    (dialect : Option Delimited.Dialect) (charset : Option Charset) :
    IsLocal (prepare files path header dialect charset) := by
  rw [prepare_eq]
  refine IsLocal.bind ?_ fun source => IsLocal.bind ?_ fun dialect => IsLocal.bind ?_ fun _ => ?_
  · cases charset with
    | some c => exact isLocal_ok c
    | none => exact isLocal_detectCharset files path
  · cases dialect with
    | some d => exact isLocal_ok d
    | none => exact (isLocal_sniffDelimiter files path source _).bind fun _ => isLocal_mapError fun _ => rfl
  · exact isLocal_mapError fun _ => rfl
  · refine (isLocal_layoutOf files path dialect source header).bind fun layout => ?_
    split
    · exact isLocal_error rfl
    · exact isLocal_ok _

theorem isLocal_openSource (files : Files) (p : Prepared) : IsLocal (openSource files p) := by
  refine (isLocal_openFile files p.path).bind fun entry => ?_
  split
  · refine IsLocal.bind ?_ fun _ => isLocal_ok _
    exact isLocal_mapError fun _ => rfl
  · exact isLocal_ok _

end Intake.Load
