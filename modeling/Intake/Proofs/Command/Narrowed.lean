/-
  Intake.Proofs.Command.Narrowed — the quote and the escape of a descriptor, as bytes of a dialect.

  A descriptor can record any character, a dialect has ASCII characters only. The dialect that a descriptor records
  is made of its characters if they are ASCII, and refused otherwise. But without a delimiter a descriptor records
  no dialect, and then its quote and its escape are taken by the low bytes of their codes, unchecked. So a
  character that is not ASCII stands for another one, which may be a quote or an escape like any other.

  Proved:
  - `dialect_notAscii`: with a delimiter a character that is not ASCII is refused, by its key.
  - `intended_dialect`: the dialect that is meant has the low bytes of what is not overridden.
  - `intended_narrowed`: so a descriptor stands for the one with the characters of its low bytes.
  - `characters_by_low_byte`: what becomes of a quote and an escape that are not overridden.
  - `quote_replaced`: a quote and an escape that are taken for others.
-/

import Intake.Proofs.Command.Precedence
import Intake.Proofs.Delimited.Written

namespace Intake.Command

open Storage (Files)

theorem toNat_lowByte (c : Char) : (lowByte c).toNat = c.toNat % 256 := by
  unfold lowByte
  rw [UInt8.toNat_ofNat']
  omega

theorem lowByte_eq_iff {c : Char} (h : lowByte c < 0x80) : (lowByte c).toNat = c.toNat ↔ c.toNat < 128 := by
  have hlow : (lowByte c).toNat < 128 := h
  rw [toNat_lowByte] at hlow ⊢
  omega

/-! ## With a delimiter -/

theorem asciiByte_error {field : String} {c : Char} (h : 128 ≤ c.toNat) :
    Descriptor.asciiByte field c = .error (.notAscii field c) := by
  unfold Descriptor.asciiByte
  rw [if_neg (by omega)]

def Wide (d : Descriptor) : Prop := 128 ≤ d.quote.toNat ∨ ∃ c ∈ d.escape, 128 ≤ c.toNat

/-- The characters that a descriptor records, each with its key, in the order in which they are looked at. -/
def characters (d : Descriptor) : List (String × Char) :=
  (d.delimiter.map ("delimiter", ·)).toList ++ ("quotechar", d.quote) :: (d.escape.map ("escapechar", ·)).toList

section

variable {files : Files} {flags : FileFlags} {d : Descriptor}

/-- A descriptor that records a delimiter is refused for a character that is not ASCII, by its key. -/
theorem dialect_notAscii (hdelimiter : d.delimiter ≠ none) (h : Wide d) :
    ∃ m ∈ characters d, 128 ≤ m.2.toNat ∧ d.dialect = .error (.notAscii m.1 m.2) := by
  obtain ⟨delimiter, hd⟩ := Option.ne_none_iff_exists'.mp hdelimiter
  unfold Descriptor.dialect characters
  rw [hd]
  -- The first that is not ASCII is named.
  by_cases hfirst : 128 ≤ delimiter.toNat
  · refine ⟨("delimiter", delimiter), by simp, hfirst, ?_⟩
    exact bind_error_iff.mpr (.inl (asciiByte_error hfirst))
  have first : Descriptor.asciiByte "delimiter" delimiter = .ok (lowByte delimiter) :=
    asciiByte_ok_iff.mpr ⟨Nat.not_le.mp hfirst, rfl⟩
  by_cases hsecond : 128 ≤ d.quote.toNat
  · refine ⟨("quotechar", d.quote), by simp, hsecond, bind_error_iff.mpr (.inr ⟨_, first, ?_⟩)⟩
    exact bind_error_iff.mpr (.inl (asciiByte_error hsecond))
  have second : Descriptor.asciiByte "quotechar" d.quote = .ok (lowByte d.quote) :=
    asciiByte_ok_iff.mpr ⟨Nat.not_le.mp hsecond, rfl⟩
  obtain ⟨c, hescape, hthird⟩ := h.resolve_left hsecond
  rw [Option.mem_def.mp hescape]
  refine ⟨("escapechar", c), by simp, hthird, bind_error_iff.mpr (.inr ⟨_, first, ?_⟩)⟩
  refine bind_error_iff.mpr (.inr ⟨_, second, bind_error_iff.mpr (.inl ?_)⟩)
  exact bind_error_iff.mpr (.inl (asciiByte_error hthird))

/-! ## What is meant -/

def narrowed (d : Descriptor) : Descriptor :=
  { d with
    quote := Delimited.byteChar (lowByte d.quote)
    escape := d.escape.map fun c => Delimited.byteChar (lowByte c) }

theorem lowByte_byteChar (b : UInt8) : lowByte (Delimited.byteChar b) = b := by
  rw [← UInt8.toNat_inj, toNat_lowByte, Delimited.toNat_byteChar]
  exact Nat.mod_eq_of_lt b.toNat_lt

variable [Codecs]

theorem intendedDialect_ok {path : String} {charset : Option Charset} {delimiter escape : Option UInt8} {quote : UInt8}
    {x : Delimited.Dialect} (h : intendedDialect files path charset quote escape delimiter = .ok x) :
    x.check = .ok () ∧ x.quote = quote ∧ x.escape = escape := by
  cases delimiter with
  | some delimiter =>
    obtain ⟨hcheck, rfl⟩ := Delimited.make_ok_iff.mp (mapError_ok_iff.mp h)
    exact ⟨hcheck, rfl, rfl⟩
  | none =>
    obtain ⟨source, -, hsniff⟩ := bind_ok_iff.mp h
    obtain ⟨delimiter, -, hmake⟩ := bind_ok_iff.mp hsniff
    obtain ⟨hcheck, rfl⟩ := Delimited.make_ok_iff.mp (mapError_ok_iff.mp hmake)
    exact ⟨hcheck, rfl, rfl⟩

theorem intended_dialect {s : Settings} (h : intended files flags d = .ok s) :
    ∃ x, s.dialect = some x ∧ x.check = .ok () ∧ x.quote = flags.quote.getD (lowByte d.quote) ∧
      x.escape = flags.escape.or (d.escape.map lowByte) := by
  obtain ⟨charset, -, h⟩ := bind_ok_iff.mp h
  obtain ⟨x, hx, h⟩ := bind_ok_iff.mp h
  obtain rfl := pure_ok_iff.mp h
  exact ⟨x, rfl, intendedDialect_ok (mapError_ok_iff.mp hx)⟩

theorem intended_narrowed : intended files flags (narrowed d) = intended files flags d := by
  have hquote : lowByte (narrowed d).quote = lowByte d.quote := lowByte_byteChar _
  have hescape : (narrowed d).escape.map lowByte = d.escape.map lowByte := by
    show (d.escape.map fun c => Delimited.byteChar (lowByte c)).map lowByte = _
    rw [Option.map_map]
    exact congrArg (d.escape.map ·) (funext fun c => lowByte_byteChar (lowByte c))
  unfold intended
  rw [hquote, hescape]
  rfl

/-! ## What becomes of the characters -/

/-- Settings are given only by a descriptor whose dialect is not refused, and then they are the ones that are meant. -/
theorem intended_of_settings {file : String} (hload : Descriptor.load files file = .ok d) {s : Settings}
    (h : settings files (flags.withDescriptor file) = .ok s) : intended files flags d = .ok s := by
  cases hd : d.dialect with
  | ok x => rwa [settings_accepted hload hd] at h
  | error e =>
    rw [settings_refused hload hd] at h
    obtain ⟨charset, -, herror⟩ := bind_ok_iff.mp h
    cases herror

end

/-- With a descriptor that can be loaded, settings always have a dialect, and a quote and an escape that the command
    line leaves out are the low bytes of the codes of its characters. A low byte is the code itself exactly if the
    character is ASCII. A descriptor that records a delimiter is refused for any other character, overridden or
    not. A descriptor that records none is not: it stands for the descriptor with the characters of the low bytes,
    which is in order or not by what these are. -/
theorem characters_by_low_byte [Codecs] (files : Files) (flags : FileFlags) {file : String} {d : Descriptor}
    (hload : Descriptor.load files file = .ok d) :
    (∀ s, settings files (flags.withDescriptor file) = .ok s → ∃ x, s.dialect = some x ∧
      (flags.quote = none → x.quote = lowByte d.quote ∧ (x.quote.toNat = d.quote.toNat ↔ d.quote.toNat < 128)) ∧
      (flags.escape = none → x.escape = d.escape.map lowByte ∧
        ∀ c ∈ d.escape, ((lowByte c).toNat = c.toNat ↔ c.toNat < 128))) ∧
    (d.delimiter ≠ none → Wide d → ∃ m ∈ characters d, 128 ≤ m.2.toNat ∧
      settings files (flags.withDescriptor file) =
        intendedCharset flags d >>= fun _ => .error (.described (.notAscii m.1 m.2))) ∧
    (d.delimiter = none → settings files (flags.withDescriptor file) = intended files flags (narrowed d)) := by
  refine ⟨?_, ?_, ?_⟩
  · intro s h
    obtain ⟨x, hx, hcheck, hquote, hescape⟩ := intended_dialect (intended_of_settings hload h)
    obtain ⟨-, husable, husable'⟩ := Delimited.usable_of_check hcheck
    refine ⟨x, hx, ?_, ?_⟩
    · intro hnone
      rw [hnone, Option.getD_none] at hquote
      rw [hquote] at husable ⊢
      exact ⟨rfl, lowByte_eq_iff (Delimited.RawRecord.ascii_of_usable husable)⟩
    · intro hnone
      rw [hnone, Option.none_or] at hescape
      refine ⟨hescape, ?_⟩
      intro c hc
      have hlow : lowByte c ∈ x.escape := by
        rw [hescape]
        exact Option.mem_map_of_mem lowByte hc
      exact lowByte_eq_iff (Delimited.RawRecord.ascii_of_usable (husable' _ hlow))
  · intro hdelimiter hwide
    obtain ⟨m, hm, hc, hrefused⟩ := dialect_notAscii hdelimiter hwide
    exact ⟨m, hm, hc, settings_refused hload hrefused⟩
  · intro hdelimiter
    rw [intended_narrowed]
    exact settings_accepted hload (dialect_ok_iff.mpr (.inl ⟨hdelimiter, rfl⟩))

/-! ## Characters that are taken for others -/

/-- Descriptors of one file whose quote and escape are not ASCII, without a delimiter and with one. -/
def wideFiles : Files :=
  (tableFiles.enter "bare.yml" (.file (Text.Utf8.encode "path: d.csv\nquotechar: 'ħ'\nescapechar: 'Ŝ'\n".toList))).enter
    "comma.yml" (.file (Text.Utf8.encode "path: d.csv\ndelimiter: ','\nquotechar: 'ħ'\nescapechar: 'Ŝ'\n".toList))

def wideDescriptor (delimiter : Option Char) : Descriptor := ⟨"d.csv", none, delimiter, 'ħ', some 'Ŝ', none⟩

def noFlags : FileFlags := ⟨none, none, none, none, none, none, none⟩

theorem load_wide_bare : Descriptor.load wideFiles "bare.yml" = .ok (wideDescriptor none) :=
  ok_of_toOption (by decide +kernel)

theorem load_wide_comma : Descriptor.load wideFiles "comma.yml" = .ok (wideDescriptor (some ',')) :=
  ok_of_toOption (by decide +kernel)

def wideSettings : Settings := ⟨"d.csv", none, some ⟨0x2C, 0x27, some 0x5C⟩, none⟩

section

open scoped Excerpt

theorem settings_wide_bare : settings wideFiles (noFlags.withDescriptor "bare.yml") = .ok wideSettings :=
  ok_of_toOption (by decide +kernel)

/-- Without a delimiter they are taken by their low bytes, and with one they are refused. -/
theorem characters_of_wide :
    (∃ x, wideSettings.dialect = some x ∧ x.quote = lowByte 'ħ' ∧ x.quote.toNat ≠ 'ħ'.toNat ∧
      x.escape = some (lowByte 'Ŝ')) ∧
    settings wideFiles (noFlags.withDescriptor "bare.yml") =
      intended wideFiles noFlags (narrowed (wideDescriptor none)) ∧
    ∃ m ∈ characters (wideDescriptor (some ',')), 128 ≤ m.2.toNat ∧
      settings wideFiles (noFlags.withDescriptor "comma.yml") = .error (.described (.notAscii m.1 m.2)) := by
  obtain ⟨hsettings, -, hbare⟩ := characters_by_low_byte wideFiles noFlags load_wide_bare
  obtain ⟨-, hcomma, -⟩ := characters_by_low_byte wideFiles noFlags load_wide_comma
  obtain ⟨x, hx, hquote, hescape⟩ := hsettings wideSettings settings_wide_bare
  refine ⟨⟨x, hx, (hquote rfl).1, ?_, (hescape rfl).1⟩, hbare rfl, ?_⟩
  · intro hcode
    exact absurd ((hquote rfl).2.mp hcode) (by decide)
  · exact hcomma nofun (.inl (by decide))

/-- A descriptor with such a quote and such an escape is not refused, and they are replaced by others. With a
    delimiter, which is the one that is found anyway, it is. -/
theorem quote_replaced :
    Descriptor.load wideFiles "bare.yml" = .ok (wideDescriptor none) ∧
    128 ≤ (wideDescriptor none).quote.toNat ∧
    settings wideFiles (noFlags.withDescriptor "bare.yml") = .ok wideSettings ∧
    wideSettings.dialect = some ⟨0x2C, lowByte '\'', some (lowByte '\\')⟩ ∧
    Descriptor.load wideFiles "comma.yml" = .ok (wideDescriptor (some ',')) ∧
    settings wideFiles (noFlags.withDescriptor "comma.yml") = .error (.described (.notAscii "quotechar" 'ħ')) :=
  ⟨load_wide_bare, by decide, settings_wide_bare, rfl, load_wide_comma, settings_refused load_wide_comma rfl⟩

end

end Intake.Command
