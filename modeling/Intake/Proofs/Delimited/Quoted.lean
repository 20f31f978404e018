/-
  Intake.Proofs.Delimited.Quoted — the delimiter of a text whose fields all stand between quotes.

  Between quotes nothing is counted. A quote in a field is written twice, so it ends the quotes and begins them again at
  once, and behind the field the counter is outside quotes as it was before it. What is left to be counted on a line are
  the delimiters between its fields. So the delimiter is the only candidate that is considered, whatever the fields hold.

  Proved:
  - `countFrom_field`: a field between quotes is passed over.
  - `outside_row`: on a line the delimiter is counted once less than there are fields, and nothing else is counted.
  - `filter_lines`: of rows that are joined by line ends, those that are not blank are the lines that are not.
  - `sniff_of_quoted`: so the delimiter is found.
-/

import Intake.Proofs.Delimited.Sniffed
import Intake.Proofs.Delimited.Written

namespace Intake.Delimited

/-! ## Lines -/

theorem linesFrom_feed {line : List Char} (h : '\n' ∉ line) (reversed rest : List Char) :
    linesFrom reversed (line ++ '\n' :: rest) = chomp (reversed.reverse ++ line) :: lines rest := by
  induction line generalizing reversed with
  | nil => simp [linesFrom, lines]
  | cons c line ih =>
    obtain ⟨hc, hline⟩ := not_or.mp (mt List.mem_cons.mpr h)
    rw [List.cons_append, linesFrom, if_neg (Ne.symm hc), ih hline]
    simp

theorem linesFrom_end {line : List Char} (h : '\n' ∉ line) (reversed : List Char) (hsome : reversed ++ line ≠ []) :
    linesFrom reversed line = [reversed.reverse ++ line] := by
  induction line generalizing reversed with
  | nil =>
    rw [List.append_nil] at hsome
    rw [linesFrom, if_neg (by simpa using hsome), List.append_nil]
  | cons c line ih =>
    obtain ⟨hc, hline⟩ := not_or.mp (mt List.mem_cons.mpr h)
    rw [linesFrom, if_neg (Ne.symm hc), ih hline _ (by simp)]
    simp

/-- A line feed ends a line, and a carriage return before it is not part of it. -/
theorem lines_feed {line : List Char} (h : '\n' ∉ line) (rest : List Char) :
    lines (line ++ '\n' :: rest) = chomp line :: lines rest :=
  linesFrom_feed h [] rest

/-- The last line needs no line end, but it is none if it is empty. -/
theorem lines_end {line : List Char} (h : '\n' ∉ line) (hsome : line ≠ []) : lines line = [line] :=
  linesFrom_end h [] hsome

theorem chomp_of_last {line : List Char} (h : line.getLast? ≠ some '\r') : chomp line = line := if_neg h

theorem chomp_return (line : List Char) : chomp (line ++ ['\r']) = line := by
  simp [chomp]

def lineEnds : List (List Char) := [['\n'], ['\r', '\n']]

/-- Rows that have no line feed and do not end in a carriage return are the lines of what they are joined to, but for
    an empty one at the end. -/
theorem filter_lines {p : List Char → Bool} (hp : p [] = false) {ending : List Char} (hending : ending ∈ lineEnds)
    {rows : List (List Char)} (hrows : ∀ row ∈ rows, '\n' ∉ row ∧ row.getLast? ≠ some '\r') :
    (lines (ending.intercalate rows)).filter p = rows.filter p := by
  induction rows with
  | nil => rfl
  | cons row rows ih =>
    obtain ⟨⟨hfeed, hreturn⟩, hrest⟩ := List.forall_mem_cons.mp hrows
    cases rows with
    | nil =>
      rw [List.intercalate_singleton]
      by_cases hrow : row = []
      · subst hrow
        simp [lines, linesFrom, hp]
      · rw [lines_end hfeed hrow]
    | cons next rows =>
      have hjoined : lines (ending.intercalate (row :: next :: rows)) =
          row :: lines (ending.intercalate (next :: rows)) := by
        rw [List.intercalate_cons_cons]
        simp only [lineEnds, List.mem_cons, List.not_mem_nil, or_false] at hending
        rcases hending with rfl | rfl
        · rw [List.append_assoc, List.singleton_append, lines_feed hfeed, chomp_of_last hreturn]
        · have hboth : '\n' ∉ row ++ ['\r'] := by simp [hfeed]
          have hsplit : row ++ ['\r', '\n'] ++ ['\r', '\n'].intercalate (next :: rows) =
              (row ++ ['\r']) ++ '\n' :: ['\r', '\n'].intercalate (next :: rows) := by simp
          rw [hsplit, lines_feed hboth, chomp_return]
      rw [hjoined, List.filter_cons, List.filter_cons, ih hrest]

/-! ## Counting -/

section

variable (b : UInt8) {d quote : UInt8}

theorem countFrom_inside {bs : List UInt8} (h : quote ∉ bs) (rest : List UInt8) :
    countFrom true b quote (bs ++ rest) = countFrom true b quote rest := by
  induction bs with
  | nil => rfl
  | cons x bs ih =>
    obtain ⟨hx, hbs⟩ := not_or.mp (mt List.mem_cons.mpr h)
    rw [List.cons_append, countFrom, if_neg (Ne.symm hx), if_neg (by simp), ih hbs]

theorem countFrom_marked (hquote : quote < 0x80) (cs : List Char) (rest : List UInt8) :
    countFrom true b quote (Text.Utf8.encode (cs.flatMap (Dialect.marked ⟨d, quote, none⟩)) ++ rest) =
      countFrom true b quote rest := by
  induction cs with
  | nil => rfl
  | cons c cs ih =>
    rw [List.flatMap_cons, Text.Utf8.encode_append, List.append_assoc]
    by_cases hc : c = byteChar quote
    · -- the first quote leads out, the second one back in
      have hmarked : Text.Utf8.encode (Dialect.marked ⟨d, quote, none⟩ c) = [quote, quote] := by
        have htwo : Dialect.marked ⟨d, quote, none⟩ c = [c, c] := if_pos hc
        rw [htwo, hc, Text.Utf8.encode_cons, Text.Utf8.encode_cons, RawRecord.encodeChar_byteChar hquote]
        rfl
      rw [hmarked, List.cons_append, List.cons_append, List.nil_append, countFrom, if_pos rfl, countFrom, if_pos rfl]
      exact ih
    · have hmarked : Text.Utf8.encode (Dialect.marked ⟨d, quote, none⟩ c) = String.utf8EncodeChar c := by
        have hone : Dialect.marked ⟨d, quote, none⟩ c = [c] := if_neg hc
        rw [hone, Text.Utf8.encode_cons]
        exact List.append_nil _
      rw [hmarked, countFrom_inside b (RawRecord.not_mem_encodeChar hquote hc), ih]

theorem countFrom_field (hquote : quote < 0x80) (field : String) (rest : List UInt8) :
    countFrom false b quote (Text.Utf8.encode (Dialect.field ⟨d, quote, none⟩ field) ++ rest) =
      countFrom false b quote rest := by
  have hend : Text.Utf8.encode [byteChar quote] = [quote] := by
    rw [Text.Utf8.encode_cons, RawRecord.encodeChar_byteChar hquote]
    rfl
  unfold Dialect.field
  rw [Text.Utf8.encode_cons, RawRecord.encodeChar_byteChar hquote, Text.Utf8.encode_append, hend, List.append_assoc,
    List.append_assoc, List.singleton_append, countFrom, if_pos rfl]
  show countFrom true b quote _ = _
  rw [countFrom_marked b hquote, List.singleton_append, countFrom, if_pos rfl]
  rfl

end

/-! ## Rows -/

section

variable {d quote : UInt8}

theorem mem_field {field : String} {c : Char} (h : c ∈ Dialect.field ⟨d, quote, none⟩ field) :
    c = byteChar quote ∨ c ∈ field.toList := by
  rcases List.mem_cons.mp h with hc | hc
  · exact .inl hc
  · rcases List.mem_append.mp hc with hc | hc
    · obtain ⟨x, hx, hcx⟩ := List.mem_flatMap.mp hc
      have hsame : c = x := by
        change c ∈ (if x = byteChar quote then [x, x] else [x]) at hcx
        split at hcx <;> simpa using hcx
      exact .inr (hsame ▸ hx)
    · exact .inl (List.mem_singleton.mp hc)

/-- A row is made of quotes, delimiters, and the characters of its fields. -/
theorem mem_row {fields : List String} {c : Char} (h : c ∈ Dialect.row ⟨d, quote, none⟩ fields) :
    c = byteChar quote ∨ c = byteChar d ∨ ∃ field ∈ fields, c ∈ field.toList := by
  rcases fields with _ | ⟨field, more⟩
  · cases h
  induction more generalizing field with
  | nil =>
    rw [Dialect.row_one] at h
    rcases mem_field h with hc | hc
    · exact .inl hc
    · exact .inr (.inr ⟨field, List.mem_cons_self, hc⟩)
  | cons other more ih =>
    rw [Dialect.row_cons] at h
    rcases List.mem_append.mp h with hc | hc
    · rcases mem_field hc with hc | hc
      · exact .inl hc
      · exact .inr (.inr ⟨field, List.mem_cons_self, hc⟩)
    · rcases List.mem_cons.mp hc with hc | hc
      · exact .inr (.inl hc)
      · rcases ih other hc with hc | hc | ⟨f, hf, hc⟩
        · exact .inl hc
        · exact .inr (.inl hc)
        · exact .inr (.inr ⟨f, List.mem_cons_of_mem _ hf, hc⟩)

theorem row_ends (d quote : UInt8) (field : String) (more : List String) :
    ∃ before, Dialect.row ⟨d, quote, none⟩ (field :: more) = before ++ [byteChar quote] := by
  induction more generalizing field with
  | nil =>
    rw [Dialect.row_one]
    exact ⟨byteChar quote :: field.toList.flatMap (Dialect.marked ⟨d, quote, none⟩), rfl⟩
  | cons other more ih =>
    obtain ⟨before, hbefore⟩ := ih other
    rw [Dialect.row_cons, hbefore]
    exact ⟨Dialect.field ⟨d, quote, none⟩ field ++ byteChar d :: before, by simp⟩

/-- On a row the delimiter is counted between the fields, and nothing else is counted. -/
theorem outside_row (hd : d < 0x80) (hquote : quote < 0x80) (hne : quote ≠ d) (b : UInt8) (field : String)
    (more : List String) :
    outside quote (Dialect.row ⟨d, quote, none⟩ (field :: more)) b = if b = d then more.length else 0 := by
  rw [← countUnquoted_eq]
  unfold countUnquoted
  induction more generalizing field with
  | nil =>
    have hfield := countFrom_field b (d := d) hquote field []
    rw [List.append_nil] at hfield
    rw [Dialect.row_one, hfield, countFrom]
    simp
  | cons other more ih =>
    rw [Dialect.row_cons, Text.Utf8.encode_append, countFrom_field b hquote, Text.Utf8.encode_cons,
      RawRecord.encodeChar_byteChar hd, List.singleton_append, countFrom, if_neg (Ne.symm hne), ih other]
    by_cases hb : b = d
    · simp [hb]
    · simp [hb, Ne.symm hb]

end

/-! ## Texts -/

theorem candidate_plain : ∀ d ∈ candidates, d < 0x80 ∧ byteChar d ≠ '\n' := by decide +kernel

def isShown (line : List Char) : Bool := line.any fun c => !Text.isBlank c

section

variable {d quote : UInt8} (hshown : Text.isBlank (byteChar quote) = false)
include hshown

theorem row_shown (field : String) (more : List String) :
    isShown (Dialect.row ⟨d, quote, none⟩ (field :: more)) = true := by
  obtain ⟨before, hbefore⟩ := row_ends d quote field more
  rw [isShown, hbefore, List.any_append]
  simp [hshown]

/-- The line feeds of a text are between its rows, and so are the carriage returns before them. -/
theorem row_unbroken (hd : d ∈ candidates) {fields : List String} (hfeed : ∀ field ∈ fields, '\n' ∉ field.toList) :
    '\n' ∉ Dialect.row ⟨d, quote, none⟩ fields ∧ (Dialect.row ⟨d, quote, none⟩ fields).getLast? ≠ some '\r' := by
  have hblank : ∀ c, Text.isBlank c = true → c ≠ byteChar quote := by
    rintro c hc rfl
    rw [hshown] at hc
    cases hc
  constructor
  · intro hmem
    rcases mem_row hmem with hc | hc | ⟨field, hfield, hc⟩
    · exact hblank '\n' (by decide) hc
    · exact (candidate_plain d hd).2 hc.symm
    · exact hfeed field hfield hc
  · cases fields with
    | nil => exact nofun
    | cons field more =>
      obtain ⟨before, hbefore⟩ := row_ends d quote field more
      rw [hbefore, List.getLast?_concat]
      intro hlast
      exact hblank '\r' (by decide) (Option.some.inj hlast).symm

/-- The row of the first record is the first line that is looked at. -/
theorem sampled_rows (hd : d ∈ candidates) {field : String} {more : List String} {others : List (List String)}
    (hfeed : ∀ record ∈ (field :: more) :: others, ∀ f ∈ record, '\n' ∉ f.toList) {ending : List Char}
    (hending : ending ∈ lineEnds) :
    ∃ rest, sampled (ending.intercalate (((field :: more) :: others).map (Dialect.row ⟨d, quote, none⟩))) =
      Dialect.row ⟨d, quote, none⟩ (field :: more) :: rest := by
  have hrows : ∀ row ∈ ((field :: more) :: others).map (Dialect.row ⟨d, quote, none⟩),
      '\n' ∉ row ∧ row.getLast? ≠ some '\r' := by
    intro row hrow
    obtain ⟨record, hrecord, rfl⟩ := List.mem_map.mp hrow
    exact row_unbroken hshown hd (hfeed record hrecord)
  have hfilter := filter_lines (p := isShown) rfl hending hrows
  rw [List.map_cons, List.filter_cons, if_pos (row_shown hshown field more)] at hfilter
  refine ⟨((others.map (Dialect.row ⟨d, quote, none⟩)).filter isShown).take 19, ?_⟩
  rw [sampled_eq]
  exact (congrArg (List.take 20) hfilter).trans List.take_succ_cons

end

/-- A candidate is the delimiter of a text if every field stands between quotes, quotes in fields are doubled, and the
    first record shows the delimiter at all. The quote is any ASCII character that is neither the delimiter nor white
    space, another candidate too, and the fields hold whatever they may except line feeds. -/
theorem sniff_of_quoted {d quote : UInt8} (hd : d ∈ candidates) (hquote : quote < 0x80)
    (hshown : Text.isBlank (byteChar quote) = false) (hne : quote ≠ d) {first : List String}
    {others : List (List String)} (htwo : 2 ≤ first.length)
    (hfeed : ∀ record ∈ first :: others, ∀ field ∈ record, '\n' ∉ field.toList) {ending : List Char}
    (hending : ending ∈ lineEnds) :
    sniff (ending.intercalate ((first :: others).map (Dialect.row ⟨d, quote, none⟩))) quote = some d := by
  obtain ⟨hascii, -⟩ := candidate_plain d hd
  cases first with
  | nil => cases htwo
  | cons field more =>
    rw [List.length_cons] at htwo
    obtain ⟨rest, hrest⟩ := sampled_rows hshown hd hfeed hending
    have hcount := fun b => outside_row hascii hquote hne b field more
    refine sniff_eq_some_iff.mpr ⟨_, rest, hrest, isBest_of_only hd ?_ ?_⟩
    · rw [hcount, if_pos rfl]
      omega
    · intro c hc
      rw [hcount] at hc
      by_contra hother
      rw [if_neg hother] at hc
      cases hc

/-- Fields with all candidates, with quotes alone, with nothing in them, and with a carriage return at the end; and a
    record without a field. -/
def wrapped : List (List String) := [["a;b,c|d\t;;", "'", ""], [], ["''", ";\r"]]

def wrappedText : List Char := "'a;b,c|d\t;;';'''';''\r\n\r\n'''''';';\r'".toList

theorem sniff_of_wrapped :
    0x3B ∈ candidates ∧ (0x27 : UInt8) < 0x80 ∧ Text.isBlank (byteChar 0x27) = false ∧ (0x27 : UInt8) ≠ 0x3B ∧
    (∀ record ∈ wrapped, ∀ field ∈ record, '\n' ∉ field.toList) ∧ ['\r', '\n'] ∈ lineEnds ∧
    ['\r', '\n'].intercalate (wrapped.map (Dialect.row ⟨0x3B, 0x27, none⟩)) = wrappedText ∧
    sniff wrappedText 0x27 = some 0x3B := by
  have hcandidate : (0x3B : UInt8) ∈ candidates := by decide
  have hshown : Text.isBlank (byteChar 0x27) = false := by decide
  have hfeed : ∀ record ∈ wrapped, ∀ field ∈ record, '\n' ∉ field.toList := by decide
  have hending : ['\r', '\n'] ∈ lineEnds := by decide
  have htext : ['\r', '\n'].intercalate (wrapped.map (Dialect.row ⟨0x3B, 0x27, none⟩)) = wrappedText := by decide
  have hsniff := sniff_of_quoted hcandidate (by decide) hshown (by decide) (by decide) hfeed hending
  refine ⟨hcandidate, by decide, hshown, by decide, hfeed, hending, htext, ?_⟩
  rw [← htext]
  exact hsniff

end Intake.Delimited
