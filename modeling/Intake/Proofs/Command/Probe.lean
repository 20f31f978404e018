/-
  Intake.Proofs.Command.Probe — a file that was probed, probed again by the descriptor that was saved.

  What is found out about a file can be saved as a descriptor, which then says all of it: where the file
  is, its encoding, its dialect, and whether it has a header. Read by this descriptor alone the file comes
  to the same plan, so to the same report.

  Proved:
  - `resolve_name`: every encoding is found under its name.
  - `dialect_descriptorOf`: the descriptor of a plan records the dialect of the plan.
  - `settings_described`: the settings that a saved descriptor gives are those of the plan.
  - `probed_again`: so the same is reported as before, except that the path is absolute.
-/

import Intake.Command.Run
import Intake.Proofs.Descriptor.ReadBack
import Intake.Proofs.Load.Again
import Intake.Proofs.Storage.Located

namespace Intake

theorem Charset.resolve_name (c : Charset) : Charset.resolve c.name = .ok c := by
  cases c with
  | single s => cases s <;> decide +kernel
  | utf8 => decide +kernel
  | utf16le => decide +kernel
  | utf16be => decide +kernel
  | shiftJis => decide +kernel
  | eucJp => decide +kernel
  | iso2022Jp => decide +kernel
  | eucKr => decide +kernel
  | gbk => decide +kernel
  | gb18030 => decide +kernel
  | big5 => decide +kernel
  | replacement => decide +kernel
  | userDefined => decide +kernel

namespace Command

open Load (Prepared prepare)
open Storage (Files)

/-! ## What a descriptor records -/

theorem asciiByte_byteChar {b : UInt8} (h : Delimited.Dialect.isUsable b = true) (field : String) :
    Descriptor.asciiByte field (Delimited.byteChar b) = .ok b := by
  have hb : b.toNat < 128 := by
    simp only [Delimited.Dialect.isUsable, Bool.and_eq_true, decide_eq_true_eq] at h
    exact h.1.1.1
  unfold Descriptor.asciiByte
  rw [Delimited.toNat_byteChar, if_pos hb, UInt8.ofNat_toNat]

/-- The dialect of a plan, with an escape or without, is the one that its descriptor records. -/
theorem dialect_descriptorOf (files : Files) {p : Prepared} (h : p.dialect.check = .ok ()) :
    (descriptorOf files p).dialect = .ok (some p.dialect) := by
  obtain ⟨hdelimiter, hquote, hescape⟩ := Delimited.usable_of_check h
  have hescape' : (descriptorOf files p).escape.mapM (Descriptor.asciiByte "escapechar") = .ok p.dialect.escape := by
    show (p.dialect.escape.map Delimited.byteChar).mapM (Descriptor.asciiByte "escapechar") = .ok p.dialect.escape
    cases he : p.dialect.escape with
    | none => rfl
    | some escape =>
      show Descriptor.asciiByte "escapechar" (Delimited.byteChar escape) >>= _ = _
      rw [asciiByte_byteChar (hescape escape he)]
      rfl
  have hmake : Delimited.Dialect.make p.dialect.delimiter p.dialect.quote p.dialect.escape = .ok p.dialect :=
    Delimited.make_ok_iff.mpr ⟨h, rfl⟩
  show (do
    let delimiter ← Descriptor.asciiByte "delimiter" (Delimited.byteChar p.dialect.delimiter)
    let quote ← Descriptor.asciiByte "quotechar" (Delimited.byteChar p.dialect.quote)
    let escape ← (descriptorOf files p).escape.mapM (Descriptor.asciiByte "escapechar")
    let dialect ← (Delimited.Dialect.make delimiter quote escape).mapError .dialect
    return some dialect) = .ok (some p.dialect)
  rw [asciiByte_byteChar hdelimiter, asciiByte_byteChar hquote, hescape']
  show (Delimited.Dialect.make p.dialect.delimiter p.dialect.quote p.dialect.escape).mapError _ >>= _ = _
  rw [hmake]
  rfl

/-! ## Settings from a descriptor -/

def described (target : String) : FileFlags := ⟨none, some target, none, none, none, none, none⟩

def settled (path : String) (p : Prepared) : Settings :=
  ⟨path, some p.hasHeader, some p.dialect, some p.transfer.source⟩

theorem charsetOf_described (target : String) (d : Descriptor) :
    charsetOf (described target) (some d) = d.charset.mapError fun e => .settings (.charset e) := rfl

theorem settings_described [Codecs] {files home : Files} {target : String} {p : Prepared} (hcheck : p.dialect.check = .ok ())
    (hload : Descriptor.load files target = .ok (descriptorOf home p)) :
    settings files (described target) = .ok (settled (descriptorOf home p).path p) := by
  have hdescriptor : ((some target).mapM (Descriptor.load files)).mapError CommandError.descriptor =
      .ok (some (descriptorOf home p)) := by
    refine mapError_ok_iff.mpr ?_
    show Descriptor.load files target >>= _ = _
    rw [hload]
    rfl
  have hcharset : charsetOf (described target) (some (descriptorOf home p)) = .ok (some p.transfer.source) := by
    have hrecorded : (descriptorOf home p).charset = .ok (some p.transfer.source) := by
      unfold Descriptor.charset descriptorOf
      rw [Option.mapM_some, Charset.resolve_name]
      rfl
    rw [charsetOf_described, hrecorded]
    rfl
  have hdialect : describedDialect (some (descriptorOf home p)) = .ok (some p.dialect) :=
    mapError_ok_iff.mpr (dialect_descriptorOf home hcheck)
  -- without an escape in the dialect there is none in the descriptor either
  have hknown : charactersOf (described target) (some p.dialect) (some (descriptorOf home p)) =
      ⟨some p.dialect.delimiter, some p.dialect.quote, p.dialect.escape⟩ := by
    cases he : p.dialect.escape with
    | none => simp [charactersOf, described, descriptorOf, he]
    | some escape => simp [charactersOf, described, he]
  have hmake : (Delimited.Dialect.make p.dialect.delimiter p.dialect.quote p.dialect.escape).mapError
      Load.LoadError.dialect = .ok p.dialect :=
    mapError_ok_iff.mpr (Delimited.make_ok_iff.mpr ⟨hcheck, rfl⟩)
  have hfound : (dialectOf files (descriptorOf home p).path (some p.transfer.source)
      ⟨some p.dialect.delimiter, some p.dialect.quote, p.dialect.escape⟩).mapError CommandError.settings =
        .ok (some p.dialect) :=
    mapError_ok_iff.mpr (bind_ok_iff.mpr ⟨p.dialect, hmake, rfl⟩)
  unfold settings
  refine bind_ok_iff.mpr ⟨_, hdescriptor, bind_ok_iff.mpr ⟨(descriptorOf home p).path, rfl, ?_⟩⟩
  refine bind_ok_iff.mpr ⟨_, hcharset, bind_ok_iff.mpr ⟨_, hdialect, ?_⟩⟩
  rw [hknown]
  exact bind_ok_iff.mpr ⟨_, hfound, rfl⟩

/-! ## Probing -/

/-- A descriptor that was saved is loaded as it was, also with a path that is not in its directory. -/
theorem load_saved {files files' : Files} {target : String} {d : Descriptor} (hrooted : Storage.Path.isRooted d.path = true)
    (hback : d.ReadsBack) (h : d.save files target = .ok files') : Descriptor.load files' target = .ok d := by
  have hwritten := Files.read_written (mapError_ok_iff.mp h)
  have hplaced : d.locatedAt target = d := by
    unfold Descriptor.locatedAt
    cases Storage.Path.parent? target with
    | none => rfl
    | some directory => simp [Storage.Path.join, hrooted]
  unfold Descriptor.load
  refine bind_ok_iff.mpr ⟨_, mapError_ok_iff.mpr hwritten, ?_⟩
  refine bind_ok_iff.mpr ⟨_, mapError_ok_iff.mpr (Storage.Entry.read_file _), ?_⟩
  rw [Descriptor.read?_write hback]
  show Except.ok (d.locatedAt target) = .ok d
  rw [hplaced]

/-- What is reported of a plan: where its file is, and all else. -/
def Reports (report : Json) (path : String) (rest : List (String × Json)) : Prop :=
  report = .object (("path", .string path) :: rest)

section

variable [Codecs]

/-- What a probe that saves a descriptor reports, and what it leaves. -/
theorem probe_save_ok_iff {files files' : Files} {flags : FileFlags} {target : String} {report : Json} :
    probe files flags (some target) = .ok (report, files') ↔
      ∃ s p, settings files flags = .ok s ∧ prepare files s.path s.header s.dialect s.charset = .ok p ∧
        (descriptorOf files p).save files target = .ok files' ∧ report = .object p.members := by
  unfold probe
  simp only [bind_ok_iff, mapError_ok_iff, saveDescriptor, pure_ok_iff, Prod.mk.injEq]
  constructor
  · intro h
    obtain ⟨s, hs, p, hp, _, hsave, rfl, rfl⟩ := h
    exact ⟨s, p, hs, hp, hsave, rfl⟩
  · intro h
    obtain ⟨s, p, hs, hp, hsave, rfl⟩ := h
    exact ⟨s, hs, p, hp, files', hsave, rfl, rfl⟩

theorem probe_described {files files' : Files} {target : String} {header : Option Bool}
    {dialect : Option Delimited.Dialect} {charset : Option Charset} {path : String} {p : Prepared}
    (hhome : files.Homed) (hp : prepare files path header dialect charset = .ok p)
    (hback : (descriptorOf files p).ReadsBack) (helsewhere : files.locate target ≠ files.locate path)
    (hsave : (descriptorOf files p).save files target = .ok files') :
    probe files' (described target) none =
      .ok (.object { p with path := Storage.Path.absolute files.homePath path }.members, files') := by
  obtain ⟨hcheck, -⟩ := Load.prepare_checked hp
  obtain ⟨hpath, -⟩ := Load.prepare_ok hp
  obtain ⟨c, layout, -, -, hlayout, -, -⟩ := Load.prepare_made hp
  obtain ⟨entry, rows, hopen, -⟩ := Load.layoutOf_ok hlayout
  have hfile : entry ≠ .directory := by
    rintro rfl
    exact Load.layoutOf_not_directory hlayout hopen
  have hwrite : files.write target (Text.Utf8.encode (descriptorOf files p).write) = .ok files' :=
    mapError_ok_iff.mp hsave
  obtain ⟨l, hl, hat⟩ := Files.openEntry_ok_iff.mp hopen
  have hsame : files'.openEntry (Storage.Path.absolute files.homePath path) = files.openEntry path := by
    rw [hopen]
    exact Files.openEntry_absolute_written hhome hwrite helsewhere hopen hfile
  have hrooted : Storage.Path.isRooted (descriptorOf files p).path = true := by
    show Storage.Path.isRooted (Storage.Path.absolute files.homePath p.path) = true
    rw [hpath]
    exact (Files.leads_absolute hhome hl hat hfile).rooted
  have hsettings := settings_described hcheck (load_saved hrooted hback hsave)
  have hagain := Load.prepare_again hp hsame
  unfold probe
  refine bind_ok_iff.mpr ⟨_, hsettings, bind_ok_iff.mpr ⟨_, mapError_ok_iff.mpr ?_, rfl⟩⟩
  show prepare files' (Storage.Path.absolute files.homePath p.path) _ _ _ = _
  rw [hpath]
  exact hagain

/-- A plan made again from its own settings is the same, wherever the same file is. So a file that was probed
    comes to the same report by the saved descriptor alone, except that its path is absolute. The descriptor has
    to come back as it was written, and not over the file itself. -/
theorem probed_again (files : Files) :
    (∀ path header dialect charset p, prepare files path header dialect charset = .ok p →
      ∀ (files' : Files) path', files'.openEntry path' = files.openEntry path →
        prepare files' path' (some p.hasHeader) (some p.dialect) (some p.transfer.source) = .ok { p with path := path' }) ∧
    ∀ flags target report files', files.Homed → probe files flags (some target) = .ok (report, files') →
      ∃ s p rest, settings files flags = .ok s ∧ prepare files s.path s.header s.dialect s.charset = .ok p ∧
        Reports report s.path rest ∧
        ((descriptorOf files p).ReadsBack → files.locate target ≠ files.locate s.path →
          ∃ report', probe files' (described target) none = .ok (report', files') ∧
            Reports report' (Storage.Path.absolute files.homePath s.path) rest) := by
  constructor
  · intro path header dialect charset p hp files' path' hsame
    exact Load.prepare_again hp hsame
  · intro flags target report files' hhome hprobe
    obtain ⟨s, p, hs, hp, hsave, rfl⟩ := probe_save_ok_iff.mp hprobe
    obtain ⟨hpath, -⟩ := Load.prepare_ok hp
    refine ⟨s, p, p.members.tail, hs, hp, ?_, fun hback helsewhere => ?_⟩
    · rw [Reports, ← hpath]
      rfl
    · exact ⟨_, probe_described hhome hp hback helsewhere hsave, rfl⟩

end

/-! ## Over the file itself -/

def tableFiles : Files := (Files.empty ["home"]).enter "d.csv" (.file (Text.Utf8.encode "a,b\n1,2\n".toList))

def named (path : String) : FileFlags := ⟨some path, none, none, none, none, none, none⟩

def tablePlan : Prepared := ⟨"d.csv", Charset.utf8.transfer, ⟨0x2C, 0x22, none⟩, true, ["a", "b"], ["a", "b"]⟩

theorem ok_of_toOption {ε α : Type} {x : Except ε α} {a : α} (h : x.toOption = some a) : x = .ok a := by
  cases x with
  | ok b => exact congrArg Except.ok (Option.some.inj h)
  | error e => cases h

theorem save_table {target : String} {l : Storage.Location} (hl : tableFiles.locate target = .ok l)
    (hfree : tableFiles.at? l ≠ some .directory) :
    (descriptorOf tableFiles tablePlan).save tableFiles target =
      .ok (tableFiles.put l (.file (Text.Utf8.encode (descriptorOf tableFiles tablePlan).write))) := by
  refine mapError_ok_iff.mpr (bind_ok_iff.mpr ⟨l, hl, ?_⟩)
  rw [if_neg hfree]

theorem table_homed : tableFiles.Homed := by
  unfold Files.Homed
  decide +kernel

theorem table_reads_back : (descriptorOf tableFiles tablePlan).ReadsBack := by decide +kernel

section

open scoped Excerpt

theorem settings_table : settings tableFiles (named "d.csv") = .ok ⟨"d.csv", none, none, none⟩ :=
  ok_of_toOption (by decide +kernel)

theorem prepare_table : prepare tableFiles "d.csv" none none none = .ok tablePlan :=
  ok_of_toOption (by decide +kernel)

/-- Saved beside the file, the descriptor comes to the same report. -/
theorem probed_again_beside : ∃ report report' files' rest,
    probe tableFiles (named "d.csv") (some "d.yaml") = .ok (report, files') ∧ Reports report "d.csv" rest ∧
    probe files' (described "d.yaml") none = .ok (report', files') ∧ Reports report' "/home/d.csv" rest := by
  have hl : tableFiles.locate "d.yaml" = .ok ["home", "d.yaml"] := by decide +kernel
  have hprobe := probe_save_ok_iff.mpr ⟨_, _, settings_table, prepare_table, save_table hl (by decide +kernel), rfl⟩
  obtain ⟨s, p, rest, hs, hp, hreport, hagain⟩ := (probed_again tableFiles).2 _ _ _ _ table_homed hprobe
  obtain rfl := Except.ok.inj (settings_table.symm.trans hs)
  obtain rfl := Except.ok.inj (prepare_table.symm.trans hp)
  obtain ⟨report', hprobe', hreport'⟩ := hagain table_reads_back (by decide +kernel)
  have habsolute : Storage.Path.absolute tableFiles.homePath "d.csv" = "/home/d.csv" := by decide +kernel
  rw [habsolute] at hreport'
  exact ⟨_, report', _, rest, hprobe, hreport, hprobe', hreport'⟩

/-- The plan for a descriptor that has taken the place of that file: its first line is the header. -/
def overPlan : Prepared :=
  ⟨"/home/d.csv", Charset.utf8.transfer, ⟨0x2C, 0x22, none⟩, true, ["path: /home/d.csv"], ["path: /home/d.csv"]⟩

/-- Saved over the file, the descriptor is all that is left of it, and that is what is reported. -/
theorem probe_over_file : ∃ (p q : Prepared) (files' : Files),
    probe tableFiles (named "d.csv") (some "d.csv") = .ok (.object p.members, files') ∧
    tableFiles.Homed ∧ (descriptorOf tableFiles p).ReadsBack ∧
    probe files' (described "d.csv") none = .ok (.object q.members, files') ∧
    p.headers = ["a", "b"] ∧ q.headers = ["path: /home/d.csv"] ∧
    ¬∃ path path' rest, Reports (.object p.members) path rest ∧ Reports (.object q.members) path' rest := by
  have hl : tableFiles.locate "d.csv" = .ok ["home", "d.csv"] := by decide +kernel
  have hsave := save_table hl (by decide +kernel)
  have hprobe := probe_save_ok_iff.mpr ⟨_, _, settings_table, prepare_table, hsave, rfl⟩
  have hrooted : Storage.Path.isRooted (descriptorOf tableFiles tablePlan).path = true := by decide +kernel
  have hsettings := settings_described (by decide) (load_saved hrooted table_reads_back hsave)
  generalize hfiles : tableFiles.put ["home", "d.csv"] _ = files' at hprobe hsettings
  have hplan : prepare files' "/home/d.csv" (some true) (some ⟨0x2C, 0x22, none⟩) (some .utf8) = .ok overPlan := by
    rw [← hfiles]
    exact ok_of_toOption (by decide +kernel)
  refine ⟨tablePlan, overPlan, files', hprobe, table_homed, table_reads_back, ?_, rfl, rfl, ?_⟩
  · exact bind_ok_iff.mpr ⟨_, hsettings, bind_ok_iff.mpr ⟨_, mapError_ok_iff.mpr hplan, rfl⟩⟩
  · intro h
    obtain ⟨path, path', rest, hfirst, hsecond⟩ := h
    obtain ⟨-, rfl⟩ := List.cons.inj (Json.object.inj hfirst)
    simp [Reports, Prepared.members, tablePlan, overPlan] at hsecond

end

end Command

end Intake
