/-
  Intake.Proofs.Command.Precedence — the command line and a descriptor on how a file is to be read.

  A setting is taken from the command line if it is given there, else from the descriptor, and else it has a
  default or is found out from the file. So descriptors that agree on all that the command line leaves out should
  come to the same. They do, but for one thing: the dialect of a descriptor is checked as a whole before any of it
  is overridden, while its encoding is looked at only where it counts.

  Proved:
  - `dialect_ok_iff`: which dialects a descriptor can record.
  - `charactersOf_loaded`, `charsetOf_loaded`, `dialectOf_quoted`: where each setting comes from.
  - `Agree.intended`: what is overridden has no part in the settings that are meant.
  - `settings_override`: so it is with the settings, unless the recorded dialect is refused.
-/

import Intake.Command.Run
import Intake.Proofs.Command.Probe

namespace Intake.Command

open Storage (Files)

/-! ## The dialect of a descriptor -/

/-- The characters of a descriptor, each by its low byte. -/
def recorded (d : Descriptor) (delimiter : Char) : Delimited.Dialect :=
  ⟨lowByte delimiter, lowByte d.quote, d.escape.map lowByte⟩

theorem asciiByte_ok_iff {field : String} {c : Char} {b : UInt8} :
    Descriptor.asciiByte field c = .ok b ↔ c.toNat < 128 ∧ b = lowByte c := by
  unfold Descriptor.asciiByte lowByte
  by_cases hc : c.toNat < 128
  · rw [if_pos hc, Nat.mod_eq_of_lt (by omega), Except.ok.injEq]
    simp [hc, eq_comm]
  · rw [if_neg hc]
    simp [hc]

theorem mapM_asciiByte_ok_iff {field : String} {c : Option Char} {b : Option UInt8} :
    c.mapM (Descriptor.asciiByte field) = .ok b ↔ (∀ c' ∈ c, c'.toNat < 128) ∧ b = c.map lowByte := by
  cases c with
  | none =>
    show Except.ok none = .ok b ↔ _
    simp [eq_comm]
  | some c =>
    show (Descriptor.asciiByte field c >>= fun b => pure (some b)) = .ok b ↔ _
    simp only [bind_ok_iff, asciiByte_ok_iff, pure_ok_iff]
    simp [eq_comm]

theorem dialect_ok_iff {d : Descriptor} {x : Option Delimited.Dialect} :
    d.dialect = .ok x ↔ (d.delimiter = none ∧ x = none) ∨
      ∃ c, d.delimiter = some c ∧ c.toNat < 128 ∧ d.quote.toNat < 128 ∧ (∀ c' ∈ d.escape, c'.toNat < 128) ∧
        (recorded d c).check = .ok () ∧ x = some (recorded d c) := by
  unfold Descriptor.dialect
  cases d.delimiter with
  | none => simp [eq_comm]
  | some c =>
    simp only [bind_ok_iff, mapError_ok_iff, asciiByte_ok_iff, mapM_asciiByte_ok_iff,
      Delimited.make_ok_iff, pure_ok_iff]
    constructor
    · intro h
      obtain ⟨_, ⟨hc, rfl⟩, _, ⟨hquote, rfl⟩, _, ⟨hescape, rfl⟩, _, ⟨hcheck, rfl⟩, rfl⟩ := h
      exact .inr ⟨c, rfl, hc, hquote, hescape, hcheck, rfl⟩
    · intro h
      rcases h with ⟨hnone, -⟩ | ⟨c', hsome, hc, hquote, hescape, hcheck, rfl⟩
      · cases hnone
      · cases hsome
        exact ⟨_, ⟨hc, rfl⟩, _, ⟨hquote, rfl⟩, _, ⟨hescape, rfl⟩, _, ⟨hcheck, rfl⟩, rfl⟩

/-! ## What is meant -/

/-- The characters that the flags give, else the descriptor. A descriptor always has a quote. -/
def intendedCharacters (flags : FileFlags) (d : Descriptor) : Characters where
  delimiter := flags.delimiter.or (d.delimiter.map lowByte)
  quote := some (flags.quote.getD (lowByte d.quote))
  escape := flags.escape.or (d.escape.map lowByte)

/-- The dialect with these characters; a delimiter that is not known is guessed from the file. -/
def intendedDialect [Codecs] (files : Files) (path : String) (charset : Option Charset) (quote : UInt8) (escape : Option UInt8) :
    Option UInt8 → Except Load.LoadError Delimited.Dialect
  | some delimiter => (Delimited.Dialect.make delimiter quote escape).mapError .dialect
  | none => Load.charsetOf files path charset >>= fun source => Load.sniffDialect files path source quote escape

def intendedCharset (flags : FileFlags) (d : Descriptor) : Except CommandError (Option Charset) :=
  ((flags.encoding.or d.encoding).mapM Charset.resolve).mapError fun e => .settings (.charset e)

/-- Each setting as the flags have it, else the descriptor, else by default or as the file shows it. -/
def intended [Codecs] (files : Files) (flags : FileFlags) (d : Descriptor) : Except CommandError Settings := do
  let path := flags.input.getD d.path
  let charset ← intendedCharset flags d
  let dialect ← (intendedDialect files path charset (flags.quote.getD (lowByte d.quote))
    (flags.escape.or (d.escape.map lowByte)) (flags.delimiter.or (d.delimiter.map lowByte))).mapError .settings
  return ⟨path, flags.header.or d.header, some dialect, charset⟩

/-! ## Where the settings come from -/

section

variable {files : Files} {flags : FileFlags} {d : Descriptor}

theorem charactersOf_loaded {x : Option Delimited.Dialect} (h : d.dialect = .ok x) :
    charactersOf flags x (some d) = intendedCharacters flags d := by
  unfold charactersOf intendedCharacters
  rcases dialect_ok_iff.mp h with ⟨hnone, rfl⟩ | ⟨c, hsome, -, -, -, -, rfl⟩
  · simp only [hnone, Option.map_none, Option.or_none, Option.bind_none, Option.bind_some, Option.map_some,
      Option.or_some]
  · simp only [hsome, Option.map_some, Option.bind_some, recorded, Option.or_assoc, Option.or_self, Option.or_some,
      Option.getD_some]

theorem charsetOf_loaded : charsetOf flags (some d) = intendedCharset flags d := by
  unfold charsetOf intendedCharset
  cases flags.encoding with
  | none => rfl
  | some label =>
    rw [Option.some_or, Option.mapM_some]
    dsimp only
    cases Charset.resolve label with
    | error e => rfl
    | ok c => rfl

theorem pathOf_loaded : pathOf flags (some d) = .ok (flags.input.getD d.path) := by
  unfold pathOf
  cases flags.input with
  | none => rfl
  | some path => rfl

variable [Codecs]

theorem dialectOf_quoted (path : String) (charset : Option Charset) (delimiter : Option UInt8) (quote : UInt8)
    (escape : Option UInt8) :
    dialectOf files path charset ⟨delimiter, some quote, escape⟩ =
      intendedDialect files path charset quote escape delimiter >>= fun dialect => pure (some dialect) := by
  cases delimiter with
  | some delimiter => rfl
  | none =>
    cases charset with
    | some c => rfl
    | none => exact (bind_assoc _ _ _).symm

def FileFlags.withDescriptor (flags : FileFlags) (file : String) : FileFlags := { flags with dataFile := some file }

/-- After the descriptor is loaded and the encoding is found, its dialect decides whether there is more. -/
theorem settings_loaded {file : String} (hload : Descriptor.load files file = .ok d) :
    settings files (flags.withDescriptor file) = intendedCharset flags d >>= fun charset =>
      d.dialect.mapError .described >>= fun x =>
      (dialectOf files (flags.input.getD d.path) charset (charactersOf flags x (some d))).mapError .settings >>=
      fun dialect => pure ⟨flags.input.getD d.path, flags.header.or d.header, dialect, charset⟩ := by
  have hdescriptor : (((flags.withDescriptor file).dataFile.mapM (Descriptor.load files)).mapError
      CommandError.descriptor) = .ok (some d) := by
    show ((Descriptor.load files file >>= fun d => pure (some d)).mapError CommandError.descriptor) = _
    rw [hload]
    rfl
  have hpath : pathOf (flags.withDescriptor file) (some d) = .ok (flags.input.getD d.path) := pathOf_loaded
  have hcharset : charsetOf (flags.withDescriptor file) (some d) = intendedCharset flags d := charsetOf_loaded
  unfold settings
  rw [hdescriptor]
  show (pathOf (flags.withDescriptor file) (some d) >>= fun path =>
    charsetOf (flags.withDescriptor file) (some d) >>= fun charset => _) = _
  rw [hpath, hcharset]
  rfl

theorem settings_accepted {file : String} (hload : Descriptor.load files file = .ok d) {x : Option Delimited.Dialect}
    (h : d.dialect = .ok x) : settings files (flags.withDescriptor file) = intended files flags d := by
  rw [settings_loaded hload, h]
  unfold intended
  refine bind_congr fun charset => ?_
  show ((dialectOf files (flags.input.getD d.path) charset (charactersOf flags x (some d))).mapError .settings >>=
    fun dialect => (pure ⟨flags.input.getD d.path, flags.header.or d.header, dialect, charset⟩ :
      Except CommandError Settings)) = _
  rw [charactersOf_loaded h, intendedCharacters, dialectOf_quoted]
  generalize intendedDialect files _ charset _ _ _ = dialect
  cases dialect with
  | error e => rfl
  | ok dialect => rfl

theorem settings_refused {file : String} (hload : Descriptor.load files file = .ok d) {e : Descriptor.DialectError}
    (h : d.dialect = .error e) :
    settings files (flags.withDescriptor file) = intendedCharset flags d >>= fun _ => .error (.described e) := by
  rw [settings_loaded hload, h]
  rfl

end

/-! ## What is overridden -/

/-- Two descriptors that agree on all that the flags leave out. -/
structure Agree (flags : FileFlags) (d d' : Descriptor) : Prop where
  path : flags.input = none → d.path = d'.path
  header : flags.header = none → d.header = d'.header
  delimiter : flags.delimiter = none → d.delimiter = d'.delimiter
  quote : flags.quote = none → d.quote = d'.quote
  escape : flags.escape = none → d.escape = d'.escape
  encoding : flags.encoding = none → d.encoding = d'.encoding

section

variable {α : Type} {o a b : Option α}

theorem or_agree (h : o = none → a = b) : o.or a = o.or b := by
  cases o with
  | none => rw [h rfl]
  | some c => rfl

theorem getD_agree {a b : α} (h : o = none → a = b) : o.getD a = o.getD b := by
  cases o with
  | none => exact h rfl
  | some c => rfl

end

theorem Agree.intended [Codecs] {files : Files} {flags : FileFlags} {d d' : Descriptor} (h : Agree flags d d') :
    intended files flags d = intended files flags d' := by
  have hpath : flags.input.getD d.path = flags.input.getD d'.path := getD_agree h.path
  have hheader : flags.header.or d.header = flags.header.or d'.header := or_agree h.header
  have hquote : flags.quote.getD (lowByte d.quote) = flags.quote.getD (lowByte d'.quote) :=
    getD_agree fun hnone => congrArg lowByte (h.quote hnone)
  have hescape : flags.escape.or (d.escape.map lowByte) = flags.escape.or (d'.escape.map lowByte) :=
    or_agree fun hnone => congrArg (Option.map lowByte) (h.escape hnone)
  have hdelimiter : flags.delimiter.or (d.delimiter.map lowByte) = flags.delimiter.or (d'.delimiter.map lowByte) :=
    or_agree fun hnone => congrArg (Option.map lowByte) (h.delimiter hnone)
  have hencoding : intendedCharset flags d = intendedCharset flags d' := by
    unfold intendedCharset
    rw [or_agree h.encoding]
  unfold Command.intended
  rw [hpath, hheader, hquote, hescape, hdelimiter, hencoding]

/-- With a descriptor that can be loaded, every setting is the one that the command line gives, else the one of
    the descriptor, else its default or what the file shows, and the settings of descriptors that agree on all
    that the command line leaves out are the same, if the dialects that they record are in order. A descriptor
    whose own dialect is not in order is refused for it, even if the command line overrides what is wrong. -/
theorem settings_override [Codecs] (files : Files) (flags : FileFlags) {file : String} {d : Descriptor}
    (hload : Descriptor.load files file = .ok d) :
    (∀ x, d.dialect = .ok x → settings files (flags.withDescriptor file) = intended files flags d) ∧
    (∀ e, d.dialect = .error e →
      settings files (flags.withDescriptor file) = intendedCharset flags d >>= fun _ => .error (.described e)) ∧
    ∀ file' d', Descriptor.load files file' = .ok d' → Agree flags d d' →
      ∀ x x', d.dialect = .ok x → d'.dialect = .ok x' →
        settings files (flags.withDescriptor file) = settings files (flags.withDescriptor file') := by
  refine ⟨fun x h => settings_accepted hload h, fun e h => settings_refused hload h, ?_⟩
  intro file' d' hload' hagree x x' h h'
  rw [settings_accepted hload h, settings_accepted hload' h', hagree.intended]

/-! ## Descriptors of one file -/

/-- A file of two columns, and descriptors of it that record this delimiter, that one, and none. -/
def describedFiles : Files :=
  ((tableFiles.enter "semicolon.yml" (.file (Text.Utf8.encode "path: d.csv\ndelimiter: ';'\n".toList))).enter
    "section.yml" (.file (Text.Utf8.encode "path: d.csv\ndelimiter: '§'\n".toList))).enter
    "bare.yml" (.file (Text.Utf8.encode "path: d.csv\n".toList))

def commaFlags : FileFlags := ⟨none, none, some 0x2C, none, none, none, none⟩

def tableDescriptor (delimiter : Option Char) : Descriptor := ⟨"d.csv", none, delimiter, '\"', none, none⟩

theorem load_semicolon : Descriptor.load describedFiles "semicolon.yml" = .ok (tableDescriptor (some ';')) :=
  ok_of_toOption (by decide +kernel)

theorem load_section : Descriptor.load describedFiles "section.yml" = .ok (tableDescriptor (some '§')) :=
  ok_of_toOption (by decide +kernel)

theorem load_bare : Descriptor.load describedFiles "bare.yml" = .ok (tableDescriptor none) :=
  ok_of_toOption (by decide +kernel)

theorem agree_comma (delimiter delimiter' : Option Char) :
    Agree commaFlags (tableDescriptor delimiter) (tableDescriptor delimiter') :=
  ⟨fun _ => rfl, fun _ => rfl, nofun, fun _ => rfl, fun _ => rfl, fun _ => rfl⟩

section

open scoped Excerpt

theorem settings_override_semicolon :
    settings describedFiles (commaFlags.withDescriptor "semicolon.yml") =
      intended describedFiles commaFlags (tableDescriptor (some ';')) ∧
    settings describedFiles (commaFlags.withDescriptor "semicolon.yml") =
      settings describedFiles (commaFlags.withDescriptor "bare.yml") := by
  obtain ⟨haccepted, -, hagreed⟩ := settings_override describedFiles commaFlags load_semicolon
  refine ⟨haccepted (some ⟨0x3B, 0x22, none⟩) rfl, ?_⟩
  exact hagreed "bare.yml" _ load_bare (agree_comma _ _) (some ⟨0x3B, 0x22, none⟩) none rfl rfl

/-- A delimiter that no dialect has does, though it is overridden. -/
theorem overridden_delimiter_refused :
    Agree commaFlags (tableDescriptor (some '§')) (tableDescriptor none) ∧
    Descriptor.load describedFiles "section.yml" = .ok (tableDescriptor (some '§')) ∧
    Descriptor.load describedFiles "bare.yml" = .ok (tableDescriptor none) ∧
    settings describedFiles (commaFlags.withDescriptor "section.yml") =
      .error (.described (.notAscii "delimiter" '§')) ∧
    settings describedFiles (commaFlags.withDescriptor "bare.yml") =
      .ok ⟨"d.csv", none, some ⟨0x2C, 0x22, none⟩, none⟩ := by
  refine ⟨agree_comma _ _, load_section, load_bare, ?_, ?_⟩
  · exact settings_refused load_section rfl
  · exact settings_accepted load_bare rfl

end

end Intake.Command
