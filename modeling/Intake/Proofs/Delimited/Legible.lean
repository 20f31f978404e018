/-
  Intake.Proofs.Delimited.Legible — the records of a text are texts.

  The reader takes a text apart byte by byte. The bytes it leaves out, and those at which it ends a field or a record,
  are ASCII: they are characters of the dialect, which has no others, or line ends. All other bytes are kept. So a
  character of several bytes stays whole, wherever the reader stands when it comes, and what is read of a field is a
  text whenever a character has been read.

  Proved:
  - `place_takes`: what a byte can do to the reader.
  - `Takes.legible`, `readFrom_wide`: what is read stays a text, over a character of one byte and over one of several.
  - `readFrom_text`: so each record has fields, and all of them are texts.
  - `records_of_text`: the records of a text are read without a failure.
  - `layout_of_rows`, `length_headers`: so is its layout, and it has as many columns as the first record has fields.
-/

import Intake.Delimited.Layout
import Intake.Proofs.Delimited.Written
import Intake.Proofs.Text.Opening
import Mathlib.Data.Set.List

namespace Intake.Delimited

open Text.Utf8 (IsText encode)

namespace RawRecord

variable {d : Dialect} {s : ReaderState}

/-! ## One byte -/

/-- A byte belongs to the field, or it only moves the reader, or it ends the field or the record. All but the first
    can be said of ASCII bytes alone. -/
inductive Takes (s : ReaderState) (b : UInt8) : ReaderState × List RawRecord → Prop
  | kept (p : Place) : Takes s b (s.keep p b)
  | moved (p : Place) (ascii : b < 0x80) : Takes s b (s.move p)
  | field (ascii : b < 0x80) : Takes s b s.endField
  | record (ascii : b < 0x80) : Takes s b (s.endRecord b)

theorem ascii_of_lineEnd {b : UInt8} (h : isLineEnd b = true) : b < 0x80 := by
  simp only [isLineEnd, Bool.or_eq_true, decide_eq_true_eq] at h
  rcases h with rfl | rfl <;> decide

section

variable (h : d.check = .ok ()) (b : UInt8)
include h

theorem bare_takes : Takes s b (bare d s b) := by
  obtain ⟨hdelimiter, -, -⟩ := ascii_of_check h
  unfold bare
  split
  · rename_i hb
    exact .field (hb ▸ hdelimiter)
  · split
    · exact .record (ascii_of_lineEnd ‹_›)
    · exact .kept .inField

theorem opening_takes : Takes s b (opening d s b) := by
  obtain ⟨-, hquote, -⟩ := ascii_of_check h
  unfold opening
  split
  · rename_i hb
    exact .moved .inQuotes (hb ▸ hquote)
  · exact bare_takes h b

theorem beginning_takes : Takes s b (beginning d s b) := by
  unfold beginning
  split
  · exact .moved .recordStart (ascii_of_lineEnd ‹_›)
  · exact opening_takes h b

theorem place_takes : Takes s b (place d s b) := by
  obtain ⟨-, hquote, hescape⟩ := ascii_of_check h
  unfold place
  cases s.place with
  | recordStart => exact beginning_takes h b
  | afterReturn =>
    simp only
    split
    · rename_i hb
      exact .moved .recordStart (hb ▸ by decide)
    · exact beginning_takes h b
  | fieldStart => exact opening_takes h b
  | inField => exact bare_takes h b
  | inQuotes =>
    simp only
    split
    · rename_i hb
      exact .moved .afterQuote (hb ▸ hquote)
    · split
      · exact .moved .escaped (hescape b ‹_›)
      · exact .kept .inQuotes
  | escaped => exact .kept .inQuotes
  | afterQuote =>
    simp only
    split
    · exact .kept .inQuotes
    · exact bare_takes h b

end

/-! ## Characters -/

/-- What has been read of the record is text. -/
structure Legible (s : ReaderState) : Prop where
  cell : IsText s.cell.reverse
  fields : ∀ field ∈ s.fields, IsText field

structure IsRecord (fields : List (List UInt8)) : Prop where
  nonempty : fields ≠ []
  texts : ∀ field ∈ fields, IsText field

theorem legible_fresh : Legible fresh := ⟨Text.Utf8.isText_nil, by simp [fresh]⟩

theorem Legible.record (hs : Legible s) : IsRecord s.record.fields := by
  refine ⟨by simp [ReaderState.record], ?_⟩
  intro field hfield
  rcases List.mem_cons.mp (List.mem_reverse.mp hfield) with rfl | hbefore
  · exact hs.cell
  · exact hs.fields field hbefore

theorem Legible.extend (hs : Legible s) {bs : List UInt8} (hbs : IsText bs) (p : Place) :
    Legible { s with place := p, cell := bs.reverse ++ s.cell } := by
  refine ⟨?_, hs.fields⟩
  rw [List.reverse_append, List.reverse_reverse]
  exact hs.cell.append hbs

/-- An ASCII byte is a character, so a text remains whatever is done with it. -/
theorem Takes.legible {b : UInt8} {x : ReaderState × List RawRecord} (hx : Takes s b x) (ascii : b < 0x80)
    (hs : Legible s) : Legible x.1 ∧ ∀ r ∈ x.2, IsRecord r.fields := by
  cases hx with
  | kept p =>
    have hchar := Text.Utf8.isText_encodeChar (byteChar b)
    rw [encodeChar_byteChar ascii] at hchar
    exact ⟨hs.extend hchar p, by simp [ReaderState.keep]⟩
  | moved p => exact ⟨⟨hs.cell, hs.fields⟩, by simp [ReaderState.move]⟩
  | field =>
    refine ⟨⟨Text.Utf8.isText_nil, ?_⟩, by simp [ReaderState.endField]⟩
    intro field hfield
    rcases List.mem_cons.mp hfield with rfl | hbefore
    · exact hs.cell
    · exact hs.fields field hbefore
  | record =>
    refine ⟨⟨Text.Utf8.isText_nil, by simp [ReaderState.endRecord]⟩, ?_⟩
    intro r hr
    rw [List.mem_singleton.mp hr]
    exact hs.record

theorem readFrom_wide (h : d.check = .ok ()) {bs : List UInt8} (hbs : ∀ b ∈ bs, 0x80 ≤ b) (s : ReaderState)
    (rest : List UInt8) :
    ∃ p, readFrom d s (bs ++ rest) = readFrom d { s with place := p, cell := bs.reverse ++ s.cell } rest := by
  induction bs generalizing s with
  | nil => exact ⟨s.place, rfl⟩
  | cons b bs ih =>
    obtain ⟨hb, hrest⟩ := List.forall_mem_cons.mp hbs
    have hwide : ¬b < 0x80 := UInt8.not_lt.mpr hb
    have hkept : ∃ p, place d s b = s.keep p b := by
      have htakes := place_takes (s := s) h b
      generalize place d s b = x at htakes
      cases htakes with
      | kept p => exact ⟨p, rfl⟩
      | moved p ascii => exact absurd ascii hwide
      | field ascii => exact absurd ascii hwide
      | record ascii => exact absurd ascii hwide
    obtain ⟨p, hp⟩ := hkept
    obtain ⟨p', hp'⟩ := ih hrest (s.keep p b).1
    refine ⟨p', ?_⟩
    rw [List.cons_append, readFrom_cons, hp]
    show readFrom d (s.keep p b).1 (bs ++ rest) = _
    rw [hp']
    simp [ReaderState.keep]

/-- From a place where what was read is text, each record has fields and all of them are texts. -/
theorem readFrom_text (h : d.check = .ok ()) (hs : Legible s) (cs : List Char) :
    ∀ fields ∈ readFrom d s (encode cs), IsRecord fields := by
  induction cs generalizing s with
  | nil =>
    intro fields hfields
    change fields ∈ readFrom d s [] at hfields
    rw [readFrom_nil, last] at hfields
    split at hfields
    · simp at hfields
    · simp at hfields
    · rw [List.mem_singleton.mp hfields]
      exact hs.record
  | cons c cs ih =>
    rw [Text.Utf8.encode_cons]
    by_cases hc : c.toNat < 0x80
    · obtain ⟨b, hb, rfl⟩ := byteChar_of_ascii hc
      obtain ⟨hnext, hgiven⟩ := (place_takes h b).legible hb hs
      rw [encodeChar_byteChar hb, List.singleton_append, readFrom_cons]
      intro fields hfields
      rcases List.mem_append.mp hfields with hfields | hfields
      · obtain ⟨r, hr, rfl⟩ := List.mem_map.mp hfields
        exact hgiven r hr
      · exact ih hnext fields hfields
    · obtain ⟨p, hp⟩ := readFrom_wide h (Text.Utf8.encodeChar_wide (Nat.not_lt.mp hc)) s (encode cs)
      rw [hp]
      exact ih (hs.extend (Text.Utf8.isText_encodeChar c) p)

/-! ## Texts -/

/-- A mark at the start of a text is a character of it. -/
theorem isText_unmarked {bytes : List UInt8} (h : IsText bytes) :
    IsText (bytes.drop (Charset.utf8.ownMarkLength bytes)) := by
  have hmark : Charset.utf8.mark = encode ['\uFEFF'] := by decide
  unfold Charset.ownMarkLength
  split
  · obtain ⟨rest, rfl⟩ := Charset.marked?_starts ‹_›
    rw [List.drop_left]
    rw [hmark] at h
    exact h.rest
  · exact h

theorem fields_ofBytes (d : Dialect) (bytes : List UInt8) :
    (ofBytes d bytes).map (·.fields) = readFrom d fresh (bytes.drop (Charset.utf8.ownMarkLength bytes)) := by
  have hstart : Alike (reader d (Charset.utf8.ownMarkLength bytes)).start fresh := ⟨rfl, rfl, rfl⟩
  exact readFrom_alike hstart _

theorem exists_row {fields : List (List UInt8)} (h : ∀ field ∈ fields, IsText field) :
    ∃ row, bytesOf row = fields := by
  have hrange : fields ∈ Set.range (List.map fun s : String => encode s.toList) := by
    rw [Set.range_list_map]
    intro field hfield
    obtain ⟨cs, hcs⟩ := h field hfield
    refine ⟨String.ofList cs, ?_⟩
    show encode (String.ofList cs).toList = field
    rw [String.toList_ofList, hcs]
  exact hrange

end RawRecord

open RawRecord

theorem records_of_text {d : Dialect} (h : d.check = .ok ()) {bytes : List UInt8} (ht : IsText bytes) :
    ∃ rows : List (List String), records d bytes = rows.map .ok ∧ ∀ row ∈ rows, row ≠ [] := by
  obtain ⟨cs, hcs⟩ := isText_unmarked ht
  have hrecords := readFrom_text h legible_fresh cs
  rw [hcs, ← fields_ofBytes] at hrecords
  have hrange : (ofBytes d bytes).map (·.fields) ∈ Set.range (List.map bytesOf) := by
    rw [Set.range_list_map]
    intro fields hfields
    exact exists_row (hrecords fields hfields).texts
  obtain ⟨rows, hrows⟩ := hrange
  refine ⟨rows, map_texts hrows.symm, ?_⟩
  rintro row hrow rfl
  exact (hrecords (bytesOf []) (hrows ▸ List.mem_map_of_mem hrow)).nonempty rfl

/-! ## Layouts -/

theorem firstRows_of_rows (header : Option Bool) (rows : List (List String)) :
    firstRows header (rows.map .ok) = .ok (rows.take (rowsWanted header)) := by
  unfold firstRows
  rw [← List.map_take, List.mapM_map]
  exact List.mapM_pure (m := Except RecordError) (f := id) |>.trans (by rw [List.map_id]; rfl)

theorem layout_of_rows {d : Dialect} {bytes : List UInt8} {rows : List (List String)}
    (h : records d bytes = rows.map .ok) (header : Option Bool) :
    layout d header bytes = .ok (layoutOf header (rows.take (rowsWanted header))) := by
  unfold layout
  rw [h]
  exact bind_ok_iff.mpr ⟨_, firstRows_of_rows header rows, rfl⟩

/-- Header or none, there is a column for each field of the first record. -/
theorem length_headers (header : Option Bool) (rows : List (List String)) :
    (layoutOf header (rows.take (rowsWanted header))).headers.length = (rows.head?.map List.length).getD 0 := by
  cases rows with
  | nil => simp [layoutOf]
  | cons first others =>
    have hwanted : ∃ n, rowsWanted header = n + 1 := by
      cases header with
      | none => exact ⟨5, rfl⟩
      | some _ => exact ⟨0, rfl⟩
    obtain ⟨n, hn⟩ := hwanted
    rw [hn, List.take_succ_cons]
    unfold layoutOf
    simp only
    split <;> simp [Column.placeholders]

end Intake.Delimited
