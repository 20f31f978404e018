/-
  Intake.Proofs.Load.Sample — what is concluded from the beginning of a file.

  The encoding is guessed from the first bytes of a file, and the delimiter from the first bytes of its
  text, as many as a sample has. Either may end within a character. In guessing the encoding this is
  allowed for: a text is taken for UTF-8 wherever the sample ends. But it is allowed for in a file that
  is no longer than a sample too, where nothing more can come. In guessing the delimiter it is not
  allowed for, and the file is refused.

  Proved:
  - `sample?_eq_none_iff`, `sample?_eq_some_iff`: when a text has a sample, and which.
  - `sniffDelimiter_by_sample`: a file is refused just if a character is at the end of its sample.
  - `sniffDelimiter_refuses_text`: a text in UTF-8 that is.
  - `detectCharset_by_text`: a file without a mark that fits into a sample is taken for UTF-8 just if it
    is a text, or one whose last character is cut.
  - `detectCharset_cut`: a word in another encoding that is.
-/

import Intake.Load.Inspect
import Intake.Proofs.Charset.Detect
import Intake.Proofs.Charset.Excerpt
import Intake.Proofs.Storage.Read
import Intake.Proofs.Text.Length

namespace Intake.Load

open Storage (Files)
open Text.Utf8 (IsText IsCut byteLength takeBytes encode)

/-! ## Samples of a text -/

/-- A character begins within the first bytes of the text, so many of them, and ends behind them. -/
def Straddled (limit : Nat) (text : List Char) : Prop :=
  ∃ before c after, text = before ++ c :: after ∧ byteLength before < limit ∧ limit < byteLength before + c.utf8Size

/-- A sample of a text has all of it, or as many bytes as a sample can have. -/
def IsSample (text sample : List Char) : Prop :=
  sample <+: text ∧ (sample = text ∧ byteLength text ≤ sampleBytes ∨ byteLength sample = sampleBytes)

variable {text sample : List Char}

theorem sample?_eq_none_iff : sample? text = none ↔ Straddled sampleBytes text := by
  have hfits := Text.Utf8.byteLength_takeBytes_le sampleBytes text
  constructor
  · intro h
    rw [sample?] at h
    split at h
    · cases h
    rename_i hpart
    rcases Text.Utf8.takeBytes_stops sampleBytes text with hall | ⟨c, rest, htext, hnext⟩
    · exact absurd (.inl (congrArg List.length hall)) hpart
    · have hless : byteLength (takeBytes sampleBytes text) ≠ sampleBytes := fun h => hpart (.inr h)
      exact ⟨_, c, rest, htext, by omega, hnext⟩
  · rintro ⟨before, c, after, rfl, hbegins, hends⟩
    have htake : takeBytes sampleBytes (before ++ c :: after) = before := by
      rw [Text.Utf8.takeBytes_append (by omega), takeBytes, if_neg (by omega), List.append_nil]
    rw [sample?, htake, if_neg]
    rintro (hall | hfull)
    · rw [List.length_append, List.length_cons] at hall
      omega
    · omega

theorem sample?_eq_some_iff : sample? text = some sample ↔ IsSample text sample := by
  have hfits := Text.Utf8.byteLength_takeBytes_le sampleBytes text
  constructor
  · intro h
    rw [sample?] at h
    split at h
    case isFalse => cases h
    case isTrue hwhole =>
      cases h
      refine ⟨Text.Utf8.takeBytes_starts _ _, hwhole.imp (fun hlength => ?_) id⟩
      have hall := (Text.Utf8.takeBytes_starts sampleBytes text).eq_of_length hlength
      rw [hall] at hfits
      exact ⟨hall, hfits⟩
  · rintro ⟨⟨rest, rfl⟩, ⟨hall, hle⟩ | hfull⟩
    · have htake := Text.Utf8.takeBytes_of_fits hle
      rw [sample?, htake, if_pos (.inl rfl), ← hall]
    · have htake : takeBytes sampleBytes (sample ++ rest) = sample := by
        rw [Text.Utf8.takeBytes_append (by omega), hfull, Nat.sub_self, Text.Utf8.takeBytes_zero, List.append_nil]
      rw [sample?, htake, if_pos (.inr hfull)]

theorem Straddled.longer {limit : Nat} (h : Straddled limit text) : limit < byteLength text := by
  obtain ⟨before, c, after, rfl, -, hends⟩ := h
  rw [Text.Utf8.byteLength_append, Text.Utf8.byteLength_cons]
  omega

theorem Straddled.wide {limit : Nat} (h : Straddled limit text) : ∃ c ∈ text, c.utf8Size ≠ 1 := by
  obtain ⟨before, c, after, rfl, hbegins, hends⟩ := h
  exact ⟨c, by simp, by omega⟩

/-! ## The delimiter -/

section

variable [Codecs] {files : Files} {path : String} {contents : List UInt8}

theorem sniffDelimiter_read (hread : files.read path = .ok contents) (c : Charset) (quote : UInt8) :
    sniffDelimiter files path c quote =
      match sample? (c.inspect contents) with
      | none => .error (.cutCharacter path)
      | some sample => .ok ((Delimited.sniff sample quote).getD (defaultDelimiterOf path)) := by
  have hopen : openFile files path = .ok (.file contents) := mapError_ok_iff.mpr (Files.read_ok_iff.mp hread)
  rw [sniffDelimiter, hopen]
  rfl

/-- The delimiter of a file that can be read is guessed from the sample of its text, or the file is refused since
    a character of its text is cut where the sample ends. This is all that can be wrong, and it is not in a
    text that fits into a sample or has only characters of one byte. -/
theorem sniffDelimiter_by_sample (hread : files.read path = .ok contents) (c : Charset) (quote : UInt8) :
    (sniffDelimiter files path c quote = .error (.cutCharacter path) ↔
      Straddled sampleBytes (c.inspect contents)) ∧
    (∀ e, sniffDelimiter files path c quote = .error e → e = .cutCharacter path) ∧
    (∀ d, sniffDelimiter files path c quote = .ok d ↔ ∃ sample, IsSample (c.inspect contents) sample ∧
      d = (Delimited.sniff sample quote).getD (defaultDelimiterOf path)) ∧
    (byteLength (c.inspect contents) ≤ sampleBytes ∨ (∀ ch ∈ c.inspect contents, ch.utf8Size = 1) →
      ∃ d, sniffDelimiter files path c quote = .ok d) := by
  simp only [sniffDelimiter_read hread, ← sample?_eq_none_iff, ← sample?_eq_some_iff]
  cases hsample : sample? (c.inspect contents) with
  | none =>
    have hcut := sample?_eq_none_iff.mp hsample
    refine ⟨by simp, fun e he => ?_, by simp, ?_⟩
    · cases he
      rfl
    · rintro (hshort | hnarrow)
      · exact absurd hcut.longer (by omega)
      · obtain ⟨ch, hch, hwide⟩ := hcut.wide
        exact absurd (hnarrow ch hch) hwide
  | some sample =>
    refine ⟨by simp, nofun, fun d => ?_, fun _ => ⟨_, rfl⟩⟩
    simp only [Except.ok.injEq, Option.some.injEq]
    constructor
    · rintro rfl
      exact ⟨sample, rfl, rfl⟩
    · rintro ⟨_, rfl, rfl⟩
      rfl

end

def onlyFile (path : String) (contents : List UInt8) : Files := (Files.empty ["home"]).enter path (.file contents)

theorem read_rows (contents : List UInt8) : (onlyFile "rows.csv" contents).read "rows.csv" = .ok contents := by
  with_unfolding_all rfl

/-- Two columns, and a line so long that the sample ends within its last letter. -/
def longText : List Char := ['a', ';', 'b', '\n'] ++ List.replicate 65531 'x' ++ ['é', '\n']

theorem longText_straddled : Straddled sampleBytes longText := by
  have hline : byteLength (List.replicate 65531 'x') = 65531 := by
    rw [Text.Utf8.byteLength_ascii, List.length_replicate]
    intro c hc
    rw [List.eq_of_mem_replicate hc]
    rfl
  refine ⟨['a', ';', 'b', '\n'] ++ List.replicate 65531 'x', 'é', ['\n'], rfl, ?_⟩
  rw [Text.Utf8.byteLength_append, hline]
  decide

theorem inspect_encode [Codecs] (h : Charset.marked? (encode text) = none) : Charset.utf8.inspect (encode text) = text := by
  have hnothing : Charset.utf8.strippedLength (encode text) = 0 := by
    have hown := (Charset.strippedLength_eq_iff (c := .utf8)).mpr (.inl h)
    rw [hown, Charset.ownMarkLength, h]
    rfl
  have hrun : Charset.utf8.decoder.run (encode text) = text.map some := Text.Utf8.run_encode text
  rw [Charset.inspect_eq, hnothing, List.drop_zero, Charset.decode, hrun, Charset.legible, List.map_map]
  exact List.map_id text

def smallText : List Char := ['a', ';', 'é', '\n']

section

open scoped Excerpt

theorem sniffDelimiter_of_small :
    (onlyFile "rows.csv" (encode smallText)).read "rows.csv" = .ok (encode smallText) ∧
    byteLength (Charset.utf8.inspect (encode smallText)) ≤ sampleBytes ∧
    sniffDelimiter (onlyFile "rows.csv" (encode smallText)) "rows.csv" .utf8 0x22 = .ok 0x3B ∧
    (∃ d, sniffDelimiter (onlyFile "rows.csv" (encode smallText)) "rows.csv" .utf8 0x22 = .ok d) ∧
    ∃ e, sniffDelimiter (onlyFile "rows.csv" (encode longText)) "rows.csv" .utf8 0x22 = .error e ∧
      e = .cutCharacter "rows.csv" := by
  have hsmall : Charset.utf8.inspect (encode smallText) = smallText := inspect_encode rfl
  have hlong : Charset.utf8.inspect (encode longText) = longText := inspect_encode rfl
  obtain ⟨-, -, hguess, hfine⟩ := sniffDelimiter_by_sample (read_rows (encode smallText)) .utf8 0x22
  obtain ⟨hrefused, honly, -, -⟩ := sniffDelimiter_by_sample (read_rows (encode longText)) .utf8 0x22
  rw [hsmall] at hguess hfine ⊢
  rw [hlong] at hrefused
  have hfits : byteLength smallText ≤ sampleBytes := by decide
  have herror := hrefused.mpr longText_straddled
  refine ⟨read_rows _, hfits, ?_, hfine (.inl hfits), _, herror, honly _ herror⟩
  exact (hguess 0x3B).mpr ⟨smallText, ⟨List.prefix_rfl, .inl ⟨rfl, hfits⟩⟩, by decide +kernel⟩

/-- A text is refused although it is whole and nothing in it is malformed. -/
theorem sniffDelimiter_refuses_text :
    (onlyFile "rows.csv" (encode longText)).read "rows.csv" = .ok (encode longText) ∧
    IsText (encode longText) ∧
    sniffDelimiter (onlyFile "rows.csv" (encode longText)) "rows.csv" .utf8 0x22 = .error (.cutCharacter "rows.csv") := by
  have hread := read_rows (encode longText)
  have hinspect : Charset.utf8.inspect (encode longText) = longText := inspect_encode rfl
  refine ⟨hread, ⟨longText, rfl⟩, ?_⟩
  rw [sniffDelimiter_read hread, hinspect, sample?_eq_none_iff.mpr longText_straddled]

/-- The second byte of a character is no delimiter, although it may be one by itself. -/
example : (sniffDelimiter (onlyFile "rows.csv" [0x83, 0x7C, 0x62, 0x0A]) "rows.csv" .shiftJis 0x22).toOption = some 0x2C ∧
    (sniffDelimiter (onlyFile "rows.csv" [0x83, 0x7C, 0x62, 0x0A]) "rows.csv" (.single .windows1252) 0x22).toOption =
      some 0x7C := by
  decide +kernel

end

/-! ## The encoding -/

section

variable {files : Files} {path : String} {contents : List UInt8}

theorem detectCharset_read (hread : files.read path = .ok contents) :
    detectCharset files path = .ok (Charset.detect (contents.take Charset.sampleBytes)) := by
  have hopen : openFile files path = .ok (.file contents) := mapError_ok_iff.mpr (Files.read_ok_iff.mp hread)
  rw [detectCharset, hopen]
  rfl

/-- A file that starts with no mark and fits into a sample is taken for UTF-8 if it is a text or one whose last
    character is cut, and else for windows-1252. A cut text is no text, and it is taken for one all the
    same. A text is taken for one however long it is, wherever the sample ends. -/
theorem detectCharset_by_text (hread : files.read path = .ok contents)
    (hmark : ∀ c ∈ [Charset.utf8, .utf16le, .utf16be], ¬c.mark <+: contents) :
    (contents.length ≤ Charset.sampleBytes →
      (detectCharset files path = .ok .utf8 ↔ IsText contents ∨ IsCut contents) ∧
      (detectCharset files path = .ok (.single .windows1252) ↔ ¬IsText contents ∧ ¬IsCut contents)) ∧
    (IsCut contents → ¬IsText contents) ∧
    (IsText contents → detectCharset files path = .ok .utf8) := by
  rw [detectCharset_read hread]
  simp only [Except.ok.injEq]
  refine ⟨fun hshort => ?_, Text.Utf8.IsCut.not_isText, fun htext => ?_⟩
  · rw [List.take_of_length_le hshort, ← not_or, ← Text.Utf8.isOpening_iff]
    exact Charset.detect_unmarked (Charset.marked?_eq_none_iff.mpr hmark)
  · exact Charset.detect_beginning htext (List.take_prefix _ _)

end

/-- The word "café", with a last byte that begins a character of three in UTF-8. -/
def cutWord : List UInt8 := [0x63, 0x61, 0x66, 0xE9]

theorem cutWord_isCut : IsCut cutWord := ⟨['c', 'a', 'f'], '\u9000', 1, by decide, by decide, by decide⟩

theorem detectCharset_of_words :
    cutWord.length ≤ Charset.sampleBytes ∧ IsCut cutWord ∧ ¬IsText cutWord ∧
    detectCharset (onlyFile "rows.csv" cutWord) "rows.csv" = .ok .utf8 ∧
    detectCharset (onlyFile "rows.csv" (encode longText)) "rows.csv" = .ok .utf8 := by
  obtain ⟨hshort, hnot, -⟩ := detectCharset_by_text (read_rows cutWord) (by decide)
  obtain ⟨-, -, hlong⟩ := detectCharset_by_text (read_rows (encode longText))
    (Charset.marked?_eq_none_iff.mp rfl)
  exact ⟨by decide, cutWord_isCut, hnot cutWord_isCut, (hshort (by decide)).1.mpr (.inr cutWord_isCut),
    hlong ⟨longText, rfl⟩⟩

section

open scoped Excerpt

/-- A word in windows-1252 that fits into a sample by far is taken for UTF-8, which it is not. -/
theorem detectCharset_cut :
    (onlyFile "rows.csv" cutWord).read "rows.csv" = .ok cutWord ∧ cutWord.length ≤ Charset.sampleBytes ∧
    (∀ c ∈ [Charset.utf8, .utf16le, .utf16be], ¬c.mark <+: cutWord) ∧ ¬IsText cutWord ∧
    (Charset.single .windows1252).decode cutWord = ['c', 'a', 'f', 'é'] ∧
    detectCharset (onlyFile "rows.csv" cutWord) "rows.csv" = .ok .utf8 := by
  refine ⟨read_rows cutWord, by decide, by decide, cutWord_isCut.not_isText, by decide +kernel, ?_⟩
  rw [detectCharset_read (read_rows cutWord)]
  exact congrArg Except.ok (by decide +kernel)

end

end Intake.Load
