/-
  Intake.Proofs.Delimited.Written — records that are written between quotes are read back.

  Every field is written between quotes, and what would end it early is marked: a quote by a second one,
  or quotes and escapes by an escape before them. Inside quotes the reader keeps whatever is not marked,
  so delimiters, line ends and characters of several bytes are kept too, even where the escape is the
  delimiter. Where the reader has come to in the text is no part of what it reads, so `readFrom` leaves it out.

  Proved:
  - `readFrom_alike`: what is read does not depend on where in the text the reader is.
  - `encode_marked`: a text is marked byte by byte as it is character by character.
  - `read_marked`, `read_field`, `read_line`: what is written is read back, piece by piece.
  - `records_text`: so the records of a text are those it was written from.
-/

import Intake.Delimited.Record
import Intake.Proofs.Charset.Mark
import Intake.Proofs.Delimited.Again
import Intake.Proofs.Text.Ascii
import Intake.Proofs.Text.Machine
import Intake.Proofs.Text.Utf8
import Mathlib.Data.List.Basic

namespace Intake.Delimited

/-! ## Writing -/

namespace Dialect

/-- A character as it stands between quotes. -/
def marked (d : Dialect) (c : Char) : List Char :=
  match d.effectiveEscape with
  | none => if c = byteChar d.quote then [c, c] else [c]
  | some escape => if c = byteChar d.quote ∨ c = byteChar escape then [byteChar escape, c] else [c]

def field (d : Dialect) (s : String) : List Char :=
  byteChar d.quote :: (s.toList.flatMap d.marked ++ [byteChar d.quote])

/-- A record on a line of its own, or on several if it holds line ends. -/
def line (d : Dialect) (fields : List String) : List Char :=
  [byteChar d.delimiter].intercalate (fields.map d.field) ++ ['\n']

def row (d : Dialect) (fields : List String) : List Char := [byteChar d.delimiter].intercalate (fields.map d.field)

theorem row_one (d : Dialect) (field : String) : d.row [field] = d.field field := by
  simp [row]

theorem row_cons (d : Dialect) (field other : String) (more : List String) :
    d.row (field :: other :: more) = d.field field ++ byteChar d.delimiter :: d.row (other :: more) := by
  simp [row, List.intercalate_cons_cons]

theorem line_eq (d : Dialect) (fields : List String) : d.line fields = d.row fields ++ ['\n'] := rfl

def text (d : Dialect) (rows : List (List String)) : List Char := rows.flatMap d.line

end Dialect

/-! ## Reading from a place -/

namespace RawRecord

variable {d : Dialect} {s t : ReaderState}

/-- Two readers that have come to the same place in a record. -/
structure Alike (s t : ReaderState) : Prop where
  place : s.place = t.place
  fields : s.fields = t.fields
  cell : s.cell = t.cell

/-- Two readers that have taken the same byte, and the fields that each gives. -/
def Same (x y : ReaderState × List RawRecord) : Prop :=
  Alike x.1 y.1 ∧ x.2.map (·.fields) = y.2.map (·.fields)

theorem bare_alike (h : Alike s t) (b : UInt8) : Same (bare d s b) (bare d t b) := by
  obtain ⟨-, hfields, hcell⟩ := h
  unfold bare
  by_cases hdelimiter : b = d.delimiter
  · rw [if_pos hdelimiter, if_pos hdelimiter]
    exact ⟨⟨rfl, by simp [ReaderState.endField, hfields, hcell], rfl⟩, rfl⟩
  rw [if_neg hdelimiter, if_neg hdelimiter]
  by_cases hend : isLineEnd b = true
  · rw [if_pos hend, if_pos hend]
    exact ⟨⟨rfl, rfl, rfl⟩, by simp [ReaderState.endRecord, ReaderState.record, hfields, hcell]⟩
  · rw [if_neg hend, if_neg hend]
    exact ⟨⟨rfl, hfields, by simp [ReaderState.keep, hcell]⟩, rfl⟩

theorem keep_alike (h : Alike s t) (p : Place) (b : UInt8) : Same (s.keep p b) (t.keep p b) :=
  ⟨⟨rfl, h.fields, congrArg (b :: ·) h.cell⟩, rfl⟩

theorem move_alike (h : Alike s t) (p : Place) : Same (s.move p) (t.move p) := ⟨⟨rfl, h.fields, h.cell⟩, rfl⟩

theorem opening_alike (h : Alike s t) (b : UInt8) : Same (opening d s b) (opening d t b) := by
  unfold opening
  split
  · exact move_alike h .inQuotes
  · exact bare_alike h b

theorem beginning_alike (h : Alike s t) (b : UInt8) : Same (beginning d s b) (beginning d t b) := by
  unfold beginning
  split
  · exact move_alike h .recordStart
  · exact opening_alike h b

theorem place_alike (h : Alike s t) (b : UInt8) : Same (place d s b) (place d t b) := by
  unfold place
  rw [← h.place]
  cases s.place with
  | recordStart => exact beginning_alike h b
  | afterReturn =>
    simp only
    split
    · exact move_alike h .recordStart
    · exact beginning_alike h b
  | fieldStart => exact opening_alike h b
  | inField => exact bare_alike h b
  | inQuotes =>
    simp only
    split
    · exact move_alike h .afterQuote
    · split
      · exact move_alike h .escaped
      · exact keep_alike h .inQuotes b
  | escaped => exact keep_alike h .inQuotes b
  | afterQuote =>
    simp only
    split
    · exact keep_alike h .inQuotes b
    · exact bare_alike h b

theorem last_alike (h : Alike s t) : (last s).map (·.fields) = (last t).map (·.fields) := by
  have hrecord : s.record.fields = t.record.fields := by
    show (s.cell.reverse :: s.fields).reverse = (t.cell.reverse :: t.fields).reverse
    rw [h.fields, h.cell]
  unfold last
  rw [← h.place]
  cases s.place <;> simp [hrecord]

def readFrom (d : Dialect) (s : ReaderState) (bytes : List UInt8) : List (List (List UInt8)) :=
  ((reader d 0).outputFrom s bytes).map (·.fields)

theorem readFrom_nil (s : ReaderState) : readFrom d s [] = (last s).map (·.fields) :=
  congrArg (List.map RawRecord.fields) ((reader d 0).outputFrom_nil s)

theorem readFrom_counted (s : ReaderState) (b : UInt8) (bytes : List UInt8) :
    readFrom d s (b :: bytes) =
      (place d (s.count b) b).2.map (·.fields) ++ readFrom d (place d (s.count b) b).1 bytes := by
  have h := congrArg (List.map RawRecord.fields) ((reader d 0).outputFrom_cons s b bytes)
  rwa [List.map_append] at h

theorem readFrom_alike (h : Alike s t) (bytes : List UInt8) : readFrom d s bytes = readFrom d t bytes := by
  induction bytes generalizing s t with
  | nil =>
    rw [readFrom_nil, readFrom_nil]
    exact last_alike h
  | cons b bytes ih =>
    have hcounted : Alike (s.count b) (t.count b) := ⟨h.place, h.fields, h.cell⟩
    obtain ⟨hnext, hgiven⟩ := place_alike (d := d) hcounted b
    rw [readFrom_counted, readFrom_counted, hgiven, ih hnext]

theorem readFrom_cons (s : ReaderState) (b : UInt8) (bytes : List UInt8) :
    readFrom d s (b :: bytes) = (place d s b).2.map (·.fields) ++ readFrom d (place d s b).1 bytes := by
  have hcounted : Alike (s.count b) s := ⟨rfl, rfl, rfl⟩
  obtain ⟨hnext, hgiven⟩ := place_alike (d := d) hcounted b
  rw [readFrom_counted, hgiven, readFrom_alike hnext]

def fresh : ReaderState := ⟨.recordStart, ⟨0, 1, 0⟩, ⟨0, 1, 0⟩, [], []⟩

/-! ## Reading what is written -/

section

variable (s : ReaderState) (bytes : List UInt8)

theorem read_opening (hs : s.place = .recordStart ∨ s.place = .fieldStart) (hend : isLineEnd d.quote = false) :
    readFrom d s (d.quote :: bytes) = readFrom d { s with place := .inQuotes } bytes := by
  have hplace : place d s d.quote = s.move .inQuotes := by
    unfold place
    rcases hs with hs | hs <;> simp [hs, beginning, opening, hend]
  rw [readFrom_cons, hplace]
  rfl

theorem read_plain (hs : s.place = .inQuotes) {b : UInt8} (hquote : b ≠ d.quote)
    (hescape : d.effectiveEscape ≠ some b) :
    readFrom d s (b :: bytes) = readFrom d { s with cell := b :: s.cell } bytes := by
  have hplace : place d s b = s.keep .inQuotes b := by
    unfold place
    simp [hs, hquote, hescape]
  rw [readFrom_cons, hplace, ReaderState.keep, ← hs]
  rfl

theorem read_closing (hs : s.place = .inQuotes) :
    readFrom d s (d.quote :: bytes) = readFrom d { s with place := .afterQuote } bytes := by
  have hplace : place d s d.quote = s.move .afterQuote := by
    unfold place
    simp [hs]
  rw [readFrom_cons, hplace]
  rfl

theorem read_doubled (hs : s.place = .inQuotes) (hnone : d.effectiveEscape = none) :
    readFrom d s (d.quote :: d.quote :: bytes) = readFrom d { s with cell := d.quote :: s.cell } bytes := by
  have hplace : place d { s with place := .afterQuote } d.quote = s.keep .inQuotes d.quote := by
    unfold place
    simp [hnone, ReaderState.keep]
  rw [read_closing s _ hs, readFrom_cons, hplace, ReaderState.keep, ← hs]
  rfl

theorem read_escaped (hs : s.place = .inQuotes) {escape : UInt8} (hescape : d.effectiveEscape = some escape)
    (hquote : escape ≠ d.quote) (b : UInt8) :
    readFrom d s (escape :: b :: bytes) = readFrom d { s with cell := b :: s.cell } bytes := by
  have hfirst : place d s escape = s.move .escaped := by
    unfold place
    simp [hs, hquote, hescape]
  have hsecond : place d { s with place := .escaped } b = s.keep .inQuotes b := rfl
  rw [readFrom_cons, hfirst]
  show readFrom d { s with place := .escaped } _ = _
  rw [readFrom_cons, hsecond, ReaderState.keep, ← hs]
  rfl

/-- The delimiter after a closing quote ends the field, also where it is the escape. -/
theorem read_delimiter (hs : s.place = .afterQuote) (hquote : d.delimiter ≠ d.quote) :
    readFrom d s (d.delimiter :: bytes) =
      readFrom d { s with place := .fieldStart, fields := s.cell.reverse :: s.fields, cell := [] } bytes := by
  have hplace : place d s d.delimiter = s.endField := by
    unfold place
    simp [hs, hquote, bare]
  rw [readFrom_cons, hplace]
  rfl

theorem read_lineFeed (hs : s.place = .afterQuote) (hquote : isLineEnd d.quote = false)
    (hdelimiter : isLineEnd d.delimiter = false) :
    readFrom d s (0x0A :: bytes) = (s.cell.reverse :: s.fields).reverse :: readFrom d fresh bytes := by
  have hend : isLineEnd 0x0A = true := rfl
  have hplace : place d s 0x0A = s.endRecord 0x0A := by
    have hnot : ¬(d.effectiveEscape = none ∧ 0x0A = d.quote) := by
      intro h
      rw [← h.2, hend] at hquote
      cases hquote
    have hbare : (0x0A : UInt8) ≠ d.delimiter := by
      intro h
      rw [← h, hend] at hdelimiter
      cases hdelimiter
    unfold place
    simp [hs, hnot, bare, hbare, hend]
  have hstart : Alike (s.endRecord 0x0A).1 fresh := ⟨rfl, rfl, rfl⟩
  rw [readFrom_cons, hplace, readFrom_alike hstart]
  rfl

end

def markedByte (d : Dialect) (b : UInt8) : List UInt8 :=
  match d.effectiveEscape with
  | none => if b = d.quote then [b, b] else [b]
  | some escape => if b = d.quote ∨ b = escape then [escape, b] else [b]

theorem effectiveEscape_ne {escape : UInt8} (h : d.effectiveEscape = some escape) : escape ≠ d.quote := by
  unfold Dialect.effectiveEscape at h
  obtain ⟨-, hne⟩ := Option.filter_eq_some_iff.mp h
  simpa using hne

theorem read_markedByte (s : ReaderState) (hs : s.place = .inQuotes) (b : UInt8) (rest : List UInt8) :
    readFrom d s (markedByte d b ++ rest) = readFrom d { s with cell := b :: s.cell } rest := by
  unfold markedByte
  cases hescape : d.effectiveEscape with
  | none =>
    by_cases hquote : b = d.quote
    · subst hquote
      simp only [if_true, List.cons_append, List.nil_append]
      exact read_doubled s rest hs hescape
    · simp only [hquote, if_false, List.cons_append, List.nil_append]
      exact read_plain s rest hs hquote (by simp [hescape])
  | some escape =>
    have hdiffer := effectiveEscape_ne hescape
    by_cases hmark : b = d.quote ∨ b = escape
    · simp only [hmark, if_true, List.cons_append, List.nil_append]
      exact read_escaped s rest hs hescape hdiffer b
    · simp only [hmark, if_false, List.cons_append, List.nil_append]
      obtain ⟨hquote, hnot⟩ := not_or.mp hmark
      exact read_plain s rest hs hquote (by simpa [hescape] using Ne.symm hnot)

theorem read_marked (s : ReaderState) (hs : s.place = .inQuotes) (field rest : List UInt8) :
    readFrom d s (field.flatMap (markedByte d) ++ rest) =
      readFrom d { s with cell := field.reverse ++ s.cell } rest := by
  induction field generalizing s with
  | nil => rfl
  | cons b field ih =>
    have hnext := ih { s with cell := b :: s.cell } hs
    rw [List.flatMap_cons, List.append_assoc, read_markedByte s hs, hnext]
    simp

/-! ## Bytes of what is written -/

theorem encodeChar_byteChar {b : UInt8} (h : b < 0x80) : String.utf8EncodeChar (byteChar b) = [b] := by
  have hcode := toNat_byteChar b
  have hlow : (byteChar b).toNat < 0x80 := by
    rw [hcode]
    exact UInt8.lt_iff_toNat_lt.mp h
  rw [Text.Utf8.encodeChar_ascii hlow, hcode, UInt8.ofNat_toNat]

theorem byteChar_of_ascii {c : Char} (h : c.toNat < 0x80) : ∃ b, b < 0x80 ∧ c = byteChar b := by
  have hcode : (UInt8.ofNat c.toNat).toNat = c.toNat := by
    rw [UInt8.toNat_ofNat']
    exact Nat.mod_eq_of_lt (by omega)
  refine ⟨UInt8.ofNat c.toNat, ?_, ?_⟩
  · rw [UInt8.lt_iff_toNat_lt, hcode]
    exact h
  · rw [← Char.toNat_inj, toNat_byteChar, hcode]

/-- An ASCII byte stands for its character and for nothing else. -/
theorem not_mem_encodeChar {a : UInt8} (ha : a < 0x80) {c : Char} (hc : c ≠ byteChar a) :
    a ∉ String.utf8EncodeChar c := by
  intro hmem
  by_cases hascii : c.toNat < 0x80
  · obtain ⟨b, hb, rfl⟩ := byteChar_of_ascii hascii
    rw [encodeChar_byteChar hb, List.mem_singleton] at hmem
    exact hc (congrArg byteChar hmem.symm)
  · have hwide := Text.Utf8.encodeChar_wide (Nat.not_lt.mp hascii) a hmem
    exact UInt8.not_lt.mpr hwide ha

theorem marked_plain {c : Char} (hquote : c ≠ byteChar d.quote) (hescape : ∀ e ∈ d.effectiveEscape, c ≠ byteChar e) :
    d.marked c = [c] := by
  unfold Dialect.marked
  cases he : d.effectiveEscape with
  | none => exact if_neg hquote
  | some escape => exact if_neg (not_or.mpr ⟨hquote, hescape escape he⟩)

theorem markedByte_plain {b : UInt8} (hquote : b ≠ d.quote) (hescape : ∀ e ∈ d.effectiveEscape, b ≠ e) :
    markedByte d b = [b] := by
  unfold markedByte
  cases he : d.effectiveEscape with
  | none => exact if_neg hquote
  | some escape => exact if_neg (not_or.mpr ⟨hquote, hescape escape he⟩)

theorem ascii_of_usable {b : UInt8} (h : Dialect.isUsable b = true) : b < 0x80 := by
  simp only [Dialect.isUsable, Bool.and_eq_true, decide_eq_true_eq] at h
  exact h.1.1.1

theorem lineEnd_of_usable {b : UInt8} (h : Dialect.isUsable b = true) : isLineEnd b = false := by
  simp only [Dialect.isUsable, Bool.and_eq_true, decide_eq_true_eq] at h
  simp [isLineEnd, h.1.1.2, h.1.2]

section

variable (h : d.check = .ok ())
include h

theorem ascii_of_check : d.delimiter < 0x80 ∧ d.quote < 0x80 ∧ ∀ escape ∈ d.effectiveEscape, escape < 0x80 := by
  obtain ⟨hdelimiter, hquote, hescape⟩ := usable_of_check h
  refine ⟨ascii_of_usable hdelimiter, ascii_of_usable hquote, ?_⟩
  intro escape he
  obtain ⟨hgiven, -⟩ := Option.filter_eq_some_iff.mp he
  exact ascii_of_usable (hescape escape hgiven)

theorem lineEnd_of_check : isLineEnd d.delimiter = false ∧ isLineEnd d.quote = false := by
  obtain ⟨hdelimiter, hquote, -⟩ := usable_of_check h
  exact ⟨lineEnd_of_usable hdelimiter, lineEnd_of_usable hquote⟩

theorem distinct_of_check : d.delimiter ≠ d.quote := by
  obtain ⟨delimiter, quote, escape⟩ := d
  obtain ⟨⟨⟩, -, h⟩ := bind_ok_iff.mp h
  obtain ⟨⟨⟩, -, h⟩ := bind_ok_iff.mp h
  intro hsame
  cases escape with
  | none =>
    rw [if_pos hsame] at h
    cases h
  | some escape =>
    obtain ⟨⟨⟩, -, h⟩ := bind_ok_iff.mp h
    rw [if_pos hsame] at h
    cases h

/-- Only ASCII characters are marked, and each of them is one byte. -/
theorem encode_markedChar (c : Char) :
    Text.Utf8.encode (d.marked c) = (String.utf8EncodeChar c).flatMap (markedByte d) := by
  obtain ⟨-, hquote, hescape⟩ := ascii_of_check h
  by_cases hc : c.toNat < 0x80
  · obtain ⟨b, hb, rfl⟩ := byteChar_of_ascii hc
    have hsame : ∀ a, byteChar b = byteChar a ↔ b = a := fun a => ⟨byteChar_injective, congrArg byteChar⟩
    rw [encodeChar_byteChar hb, List.flatMap_singleton]
    unfold Dialect.marked markedByte
    cases he : d.effectiveEscape with
    | none =>
      simp only [hsame]
      split <;> simp [Text.Utf8.encode, encodeChar_byteChar hb]
    | some escape =>
      simp only [hsame]
      split <;> simp [Text.Utf8.encode, encodeChar_byteChar hb, encodeChar_byteChar (hescape escape he)]
  · -- a character of several bytes is no character of the dialect, and neither is any of its bytes
    have hwide : ∀ a < 0x80, c ≠ byteChar a := by
      intro a ha hca
      apply hc
      rw [hca, toNat_byteChar]
      exact UInt8.lt_iff_toNat_lt.mp ha
    have hdiffer : ∀ b ∈ String.utf8EncodeChar c, ∀ a < 0x80, b ≠ a := by
      rintro b hb a ha rfl
      exact not_mem_encodeChar ha (hwide b ha) hb
    have hbytes : ∀ b ∈ String.utf8EncodeChar c, markedByte d b = [b] := fun b hb =>
      markedByte_plain (hdiffer b hb _ hquote) fun e he => hdiffer b hb e (hescape e he)
    rw [marked_plain (hwide _ hquote) fun e he => hwide e (hescape e he), List.flatMap_congr hbytes,
      List.flatMap_singleton']
    simp [Text.Utf8.encode]

theorem encode_marked (cs : List Char) :
    Text.Utf8.encode (cs.flatMap d.marked) = (Text.Utf8.encode cs).flatMap (markedByte d) := by
  induction cs with
  | nil => rfl
  | cons c cs ih =>
    rw [List.flatMap_cons, Text.Utf8.encode_append, encode_markedChar h, ih, Text.Utf8.encode_cons, List.flatMap_append]

end

/-! ## Fields, lines and texts -/

def bytesOf (row : List String) : List (List UInt8) := row.map fun field => Text.Utf8.encode field.toList

theorem line_one (field : String) : d.line [field] = d.field field ++ ['\n'] := by
  rw [Dialect.line_eq, Dialect.row_one]

theorem line_cons (field other : String) (more : List String) :
    d.line (field :: other :: more) = d.field field ++ byteChar d.delimiter :: d.line (other :: more) := by
  rw [Dialect.line_eq, Dialect.row_cons, Dialect.line_eq, List.append_assoc, List.cons_append]

section

variable (h : d.check = .ok ())
include h

theorem read_field (s : ReaderState) (hs : s.place = .recordStart ∨ s.place = .fieldStart) (field : String)
    (rest : List UInt8) :
    readFrom d s (Text.Utf8.encode (d.field field) ++ rest) =
      readFrom d { s with place := .afterQuote, cell := (Text.Utf8.encode field.toList).reverse ++ s.cell } rest := by
  obtain ⟨-, hquote, -⟩ := ascii_of_check h
  have hbytes : Text.Utf8.encode (d.field field) ++ rest =
      d.quote :: ((Text.Utf8.encode field.toList).flatMap (markedByte d) ++ d.quote :: rest) := by
    unfold Dialect.field
    rw [Text.Utf8.encode_cons, Text.Utf8.encode_append, encode_marked h, Text.Utf8.encode_cons,
      encodeChar_byteChar hquote]
    simp [Text.Utf8.encode]
  rw [hbytes, read_opening s _ hs (lineEnd_of_check h).2, read_marked _ rfl, read_closing _ _ rfl]

theorem read_line (s : ReaderState) (hs : s.place = .recordStart ∨ s.place = .fieldStart) (hcell : s.cell = [])
    (field : String) (more : List String) (rest : List UInt8) :
    readFrom d s (Text.Utf8.encode (d.line (field :: more)) ++ rest) =
      (s.fields.reverse ++ bytesOf (field :: more)) :: readFrom d fresh rest := by
  obtain ⟨hdelimiter, -, -⟩ := ascii_of_check h
  obtain ⟨hend, hquote⟩ := lineEnd_of_check h
  induction more generalizing s field with
  | nil =>
    have hfeed : Text.Utf8.encode ['\n'] = [0x0A] := by decide
    rw [line_one, Text.Utf8.encode_append, List.append_assoc, read_field h s hs, hfeed, List.singleton_append,
      read_lineFeed _ _ rfl hquote hend]
    simp [bytesOf, hcell]
  | cons other more ih =>
    have hrest := ih ⟨.fieldStart, s.start, s.here, Text.Utf8.encode field.toList :: s.fields, []⟩ (.inr rfl) rfl other
    rw [line_cons, Text.Utf8.encode_append, List.append_assoc, read_field h s hs, Text.Utf8.encode_cons,
      encodeChar_byteChar hdelimiter, List.singleton_append, List.cons_append,
      read_delimiter _ _ rfl (distinct_of_check h)]
    simp only [hcell, List.append_nil, List.reverse_reverse]
    rw [hrest]
    simp [bytesOf]

theorem read_text {rows : List (List String)} (hrows : ∀ row ∈ rows, row ≠ []) :
    readFrom d fresh (Text.Utf8.encode (d.text rows)) = rows.map bytesOf := by
  induction rows with
  | nil => exact readFrom_nil _
  | cons row rows ih =>
    obtain ⟨hrow, hrest⟩ := List.forall_mem_cons.mp hrows
    obtain ⟨field, more, rfl⟩ := List.exists_cons_of_ne_nil hrow
    have htext : d.text ((field :: more) :: rows) = d.line (field :: more) ++ d.text rows := by
      simp [Dialect.text]
    rw [htext, Text.Utf8.encode_append, read_line h fresh (.inl rfl) rfl, ih hrest]
    rfl

/-- A text that begins with a quote begins with no mark. -/
theorem unmarked_text {rows : List (List String)} (hrows : ∀ row ∈ rows, row ≠ []) :
    Charset.utf8.ownMarkLength (Text.Utf8.encode (d.text rows)) = 0 := by
  obtain ⟨-, hquote, -⟩ := ascii_of_check h
  cases rows with
  | nil => rfl
  | cons row rows =>
    obtain ⟨field, more, rfl⟩ := List.exists_cons_of_ne_nil (hrows row List.mem_cons_self)
    have hfirst : ∃ bytes, Text.Utf8.encode (d.text ((field :: more) :: rows)) = d.quote :: bytes := by
      cases more with
      | nil => simp [Dialect.text, line_one, Dialect.field, Text.Utf8.encode_cons, encodeChar_byteChar hquote]
      | cons other more =>
        simp [Dialect.text, line_cons, Dialect.field, Text.Utf8.encode_cons, encodeChar_byteChar hquote]
    obtain ⟨bytes, hbytes⟩ := hfirst
    unfold Charset.ownMarkLength
    rw [hbytes, if_neg]
    intro hmarked
    have hmark := Charset.marked?_starts hmarked
    obtain ⟨hmarkByte, -⟩ := List.cons_prefix_cons.mp hmark
    rw [← hmarkByte] at hquote
    exact absurd hquote (by decide)

end

/-- Fields that are texts are read as these texts, wherever their record starts. -/
theorem texts_of_bytes {r : RawRecord} {row : List String} (h : r.fields = bytesOf row) : r.texts = .ok row := by
  have hfrom : ∀ index, textsFrom r.start index (bytesOf row) = .ok row := by
    clear h
    induction row with
    | nil => exact fun _ => rfl
    | cons field row ih =>
      intro index
      have hfield : Text.Utf8.decodeString? (Text.Utf8.encode field.toList) = some field := by
        simp [Text.Utf8.decodeString?, Text.Utf8.decode?_encode]
      show textsFrom r.start index (Text.Utf8.encode field.toList :: bytesOf row) = _
      rw [textsFrom, hfield]
      simp only [ih]
      rfl
  rw [RawRecord.texts, h]
  exact hfrom 0

theorem map_texts {raws : List RawRecord} {rows : List (List String)}
    (h : raws.map (·.fields) = rows.map bytesOf) : raws.map RawRecord.texts = rows.map .ok := by
  induction rows generalizing raws with
  | nil =>
    obtain rfl := List.map_eq_nil_iff.mp h
    rfl
  | cons row rows ih =>
    obtain ⟨raw, raws, rfl, hraw, hraws⟩ := List.map_eq_cons_iff.mp h
    rw [List.map_cons, List.map_cons, texts_of_bytes hraw, ih hraws]

end RawRecord

/-- Records that are written between quotes are read back, whatever their fields hold and however many each has:
    delimiters, line ends, quotes and escapes in a field stay in it, also where the escape is the delimiter. -/
theorem records_text {d : Dialect} (h : d.check = .ok ()) {rows : List (List String)} (hrows : ∀ row ∈ rows, row ≠ []) :
    records d (Text.Utf8.encode (d.text rows)) = rows.map .ok := by
  have hread := RawRecord.read_text h hrows
  refine RawRecord.map_texts ?_
  unfold RawRecord.ofBytes
  rw [RawRecord.unmarked_text h hrows]
  exact hread

/-- A dialect whose escape is its delimiter. -/
def narrow : Dialect := ⟨0x2C, 0x22, some 0x2C⟩

theorem records_of_narrow :
    narrow.check = .ok () ∧
    narrow.text [["a,\"b\"", ""], ["\r\n é"]] = "\"a,,,\"b,\"\",\"\"\n\"\r\n é\"\n".toList ∧
    records narrow (Text.Utf8.encode (narrow.text [["a,\"b\"", ""], ["\r\n é"]])) =
      [.ok ["a,\"b\"", ""], .ok ["\r\n é"]] := by
  have hcheck : narrow.check = .ok () := rfl
  refine ⟨hcheck, by decide, ?_⟩
  exact records_text hcheck (by decide)

end Intake.Delimited
