/-
  Intake.Proofs.Storage.Located — where paths lead, and what writing a file leaves in its place.

  A path leads step by step through directories. The pieces of a path that say nothing lead nowhere, so
  a path made absolute leads where it led before, as long as that is a file and the path of the home
  directory leads there. A file that is written takes the place of what was at its location and
  changes no other.

  Proved:
  - `walk_append`, `walk_parts`: a path leads piece by piece, and by its parts alone.
  - `Leads.join`, `leads_absolute`: a part joined to an absolute path leads one step on, and so a path
    that is made absolute leads where it led.
  - `walk_put`, `read_written`, `openEntry_absolute_written`: after a file is written, paths lead where they
    led, the file holds what was written, and every other is as it was.
-/

import Intake.Proofs.Outcome
import Intake.Storage.Files
import Mathlib.Data.List.Basic

namespace Intake.Storage

/-! ## Pieces -/

namespace Path

theorem pieces_slash (a b : String) : pieces (a ++ "/" ++ b) = pieces a ++ pieces b := by
  have hslash : "/".toList = ['/'] := by decide
  simp only [pieces, String.toList_append, hslash, List.append_assoc, List.singleton_append,
    List.splitOn_append_cons_self, List.map_append]

theorem pieces_of_part {part : String} (h : '/' ∉ part.toList) : pieces part = [part] := by
  rw [pieces, List.splitOn_eq_singleton h, List.map_singleton, String.ofList_toList]

theorem mem_splitOn {cs piece : List Char} (h : piece ∈ cs.splitOn '/') :
    '/' ∉ piece ∧ ∀ c ∈ piece, c ∈ cs := by
  by_cases hslash : '/' ∈ cs
  · obtain ⟨before, after, rfl, hbefore⟩ := List.eq_append_cons_of_mem hslash
    rw [List.splitOn_append_cons_self, List.splitOn_eq_singleton hbefore, List.singleton_append] at h
    rcases List.mem_cons.mp h with rfl | hafter
    · exact ⟨hbefore, fun c hc => List.mem_append_left _ hc⟩
    · obtain ⟨hnone, hmem⟩ := mem_splitOn hafter
      exact ⟨hnone, fun c hc => List.mem_append_right _ (List.mem_cons_of_mem _ (hmem c hc))⟩
  · rw [List.splitOn_eq_singleton hslash, List.mem_singleton] at h
    rw [h]
    exact ⟨hslash, fun c hc => hc⟩
termination_by cs.length
decreasing_by
  subst_vars
  simp only [List.length_append, List.length_cons]
  omega

theorem mem_pieces {path piece : String} (h : piece ∈ pieces path) :
    '/' ∉ piece.toList ∧ ∀ c ∈ piece.toList, c ∈ path.toList := by
  obtain ⟨cs, hcs, rfl⟩ := List.mem_map.mp h
  rw [String.toList_ofList]
  exact mem_splitOn hcs

/-- A text that can be a part: it names something. -/
def IsPart (part : String) : Prop := part ≠ "" ∧ '/' ∉ part.toList ∧ '\x00' ∉ part.toList

theorem isPart_of_mem {path part : String} (hnul : '\x00' ∉ path.toList) (h : part ∈ parts path) : IsPart part := by
  obtain ⟨hpiece, hsays⟩ := List.mem_filter.mp h
  obtain ⟨hslash, hmem⟩ := mem_pieces hpiece
  exact ⟨by simpa using (of_decide_eq_true hsays).1, hslash, fun hc => hnul (hmem _ hc)⟩

theorem IsPart.not_rooted {part : String} (h : IsPart part) : isRooted part = false := by
  unfold isRooted
  refine decide_eq_false fun hhead => h.2.1 ?_
  exact List.mem_of_mem_head? hhead

end Path

/-! ## Where pieces lead -/

namespace Files

variable {files : Files} {l m : Location}

theorem walk_append (files : Files) (l : Location) (a b : List String) :
    files.walk l (a ++ b) = files.walk l a >>= fun m => files.walk m b := by
  induction a generalizing l with
  | nil => rfl
  | cons piece a ih =>
    rw [List.cons_append, walk, walk]
    cases files.at? l with
    | none => rfl
    | some entry =>
      cases entry with
      | file contents => rfl
      | damaged readable => rfl
      | directory =>
        by_cases hblank : piece = "" ∨ piece = "."
        · simp only [if_pos hblank]
          exact ih l
        · by_cases hback : piece = ".."
          · simp only [if_neg hblank, if_pos hback]
            exact ih l.dropLast
          · simp only [if_neg hblank, if_neg hback]
            exact ih (l ++ [piece])

theorem walk_cons_ok {piece : String} {rest : List String} (h : files.walk l (piece :: rest) = .ok m) :
    files.at? l = some .directory := by
  rw [walk] at h
  split at h
  · cases h
  · assumption
  · cases h

/-- Pieces that say nothing can be left out. -/
theorem walk_parts {pieces : List String} (h : files.walk l pieces = .ok m) :
    files.walk l (pieces.filter fun p => p ≠ "" ∧ p ≠ ".") = .ok m := by
  induction pieces generalizing l with
  | nil => exact h
  | cons piece rest ih =>
    have hdirectory := walk_cons_ok h
    rw [walk, hdirectory] at h
    by_cases hblank : piece = "" ∨ piece = "."
    · rw [List.filter_cons_of_neg (by simp only [decide_eq_true_eq]; tauto)]
      simp only [if_pos hblank] at h
      exact ih h
    · rw [List.filter_cons_of_pos (by simp only [decide_eq_true_eq]; tauto), walk, hdirectory]
      simp only [if_neg hblank] at h ⊢
      by_cases hback : piece = ".."
      · simp only [if_pos hback] at h ⊢
        exact ih h
      · simp only [if_neg hback] at h ⊢
        exact ih h

/-- A slash at the end asks for a directory. -/
theorem walk_blank {pieces : List String} (h : files.walk l (pieces ++ [""]) = .ok m) :
    files.walk l pieces = .ok m ∧ files.at? m = some .directory := by
  rw [walk_append] at h
  obtain ⟨n, hn, hblank⟩ := bind_ok_iff.mp h
  have hdirectory := walk_cons_ok hblank
  simp only [walk, hdirectory, true_or, if_true] at hblank
  cases hblank
  exact ⟨hn, hdirectory⟩

theorem locate_ok_iff {path : String} : files.locate path = .ok l ↔ path ≠ "" ∧ '\x00' ∉ path.toList ∧
    files.walk (if Path.isRooted path then [] else files.home) (Path.pieces path) = .ok l := by
  unfold locate
  by_cases hempty : path = ""
  · simp [hempty]
  · by_cases hnul : '\x00' ∈ path.toList
    · simp [hempty, hnul]
    · simp [hempty, hnul]

/-! ## Absolute paths -/

/-- The path leads to a place from the root. -/
structure Leads (files : Files) (path : String) (l : Location) : Prop where
  rooted : Path.isRooted path = true
  sendable : '\x00' ∉ path.toList
  walk : files.walk [] (Path.pieces path) = .ok l

theorem Leads.locate {path : String} (h : files.Leads path l) : files.locate path = .ok l := by
  refine locate_ok_iff.mpr ⟨?_, h.sendable, ?_⟩
  · intro hempty
    have hrooted := h.rooted
    rw [hempty] at hrooted
    cases hrooted
  · rw [if_pos h.rooted]
    exact h.walk

theorem leads_of_locate {path : String} (h : files.locate path = .ok l) (hrooted : Path.isRooted path = true) :
    files.Leads path l := by
  obtain ⟨-, hnul, hwalk⟩ := locate_ok_iff.mp h
  rw [if_pos hrooted] at hwalk
  exact ⟨hrooted, hnul, hwalk⟩

theorem isRooted_append {a : String} (b : String) (h : Path.isRooted a = true) : Path.isRooted (a ++ b) = true := by
  unfold Path.isRooted at h ⊢
  rw [decide_eq_true_eq] at h ⊢
  rw [String.toList_append]
  cases ha : a.toList with
  | nil =>
    rw [ha] at h
    cases h
  | cons c cs =>
    rw [ha] at h
    exact h

theorem Leads.join {base part : String} (h : files.Leads base l) (hpart : Path.IsPart part)
    (hstep : files.walk l [part] = .ok m) : files.Leads (Path.join base part) m := by
  obtain ⟨hrooted, hnul, hwalk⟩ := h
  obtain ⟨hsome, hslash, hpartNul⟩ := hpart
  have hpieces := Path.pieces_of_part hslash
  unfold Path.join
  rw [if_neg (by simp [Path.IsPart.not_rooted ⟨hsome, hslash, hpartNul⟩])]
  by_cases hend : base = "" ∨ base.toList.getLast? = some '/'
  · rw [if_pos hend]
    have hlast : base.toList.getLast? = some '/' := by
      rcases hend with rfl | hlast
      · cases hrooted
      · exact hlast
    obtain ⟨before, hbefore⟩ := List.getLast?_eq_some_iff.mp hlast
    have hbase : base = String.ofList before ++ "/" ++ "" := by
      rw [← String.ofList_toList (s := base), hbefore]
      simp
    refine ⟨isRooted_append part hrooted, ?_, ?_⟩
    · simpa [String.toList_append] using ⟨hnul, hpartNul⟩
    · -- the slash at the end of the base asked for a directory, which the step asks for too
      have hempty : Path.pieces "" = [""] := by decide
      rw [hbase, Path.pieces_slash, hempty] at hwalk
      rw [hbase, String.append_empty, Path.pieces_slash, hpieces, walk_append, (walk_blank hwalk).1]
      exact hstep
  · rw [if_neg hend]
    refine ⟨?_, ?_, ?_⟩
    · rw [String.append_assoc]
      exact isRooted_append _ hrooted
    · have hsign : "/".toList = ['/'] := by decide
      simpa [String.toList_append, hsign] using ⟨hnul, hpartNul⟩
    · rw [Path.pieces_slash, hpieces, walk_append, hwalk]
      exact hstep

theorem Leads.joined {base : String} {parts : List String} (h : files.Leads base l)
    (hparts : ∀ part ∈ parts, Path.IsPart part) (hsteps : files.walk l parts = .ok m) :
    files.Leads (parts.foldl Path.join base) m := by
  induction parts generalizing base l with
  | nil =>
    cases hsteps
    exact h
  | cons part parts ih =>
    obtain ⟨hpart, hrest⟩ := List.forall_mem_cons.mp hparts
    rw [← List.singleton_append, walk_append] at hsteps
    obtain ⟨n, hstep, hwalk⟩ := bind_ok_iff.mp hsteps
    exact ih (h.join hpart hstep) hrest hwalk

theorem leads_root (files : Files) : files.Leads "/" [] ∧ files.Leads "//" [] := by
  have hone : Path.pieces "/" = ["", ""] := by decide
  have htwo : Path.pieces "//" = ["", "", ""] := by decide
  refine ⟨⟨by decide, by decide, ?_⟩, ⟨by decide, by decide, ?_⟩⟩
  · rw [hone]
    rfl
  · rw [htwo]
    rfl

/-- The path of the home directory leads there. -/
def Homed (files : Files) : Prop := files.locate files.homePath = .ok files.home

theorem leads_origin (h : files.Homed) (path : String) :
    files.Leads (Path.origin files.homePath path.toList) (if Path.isRooted path then [] else files.home) := by
  have hhome : files.Leads files.homePath files.home := by
    refine leads_of_locate h ?_
    unfold homePath
    exact isRooted_append _ (by decide)
  unfold Path.isRooted
  cases hpath : path.toList with
  | nil => exact hhome
  | cons c cs =>
    by_cases hslash : c = '/'
    · subst hslash
      simp only [List.head?_cons, decide_true, if_true]
      unfold Path.origin
      split
      · exact (leads_root files).2
      · split
        · exact (leads_root files).1
        · exact (leads_root files).2
      · exact (leads_root files).1
      · rename_i hnone
        exact absurd rfl (hnone cs)
    · simp only [List.head?_cons, Option.some.injEq, hslash, decide_false, Bool.false_eq_true, if_false]
      unfold Path.origin
      split
      · rename_i heq; cases heq; exact absurd rfl hslash
      · rename_i heq; cases heq; exact absurd rfl hslash
      · rename_i heq; cases heq; exact absurd rfl hslash
      · exact hhome

/-- A path that leads to a file leads there when it is made absolute. -/
theorem leads_absolute {path : String} {entry : Entry} (hhome : files.Homed) (h : files.locate path = .ok l)
    (hat : files.at? l = some entry) (hfile : entry ≠ .directory) :
    files.Leads (Path.absolute files.homePath path) l := by
  obtain ⟨-, hnul, hwalk⟩ := locate_ok_iff.mp h
  have hend : path.toList.getLast? ≠ some '/' := by
    intro hlast
    obtain ⟨before, hbefore⟩ := List.getLast?_eq_some_iff.mp hlast
    have hpath : path = String.ofList before ++ "/" ++ "" := by
      rw [← String.ofList_toList (s := path), hbefore]
      simp
    have hempty : Path.pieces "" = [""] := by decide
    have hpieces : Path.pieces path = Path.pieces (String.ofList before) ++ [""] := by
      rw [hpath, Path.pieces_slash, hempty]
    rw [hpieces] at hwalk
    rw [(walk_blank hwalk).2] at hat
    exact hfile (Option.some.inj hat).symm
  unfold Path.absolute
  rw [if_neg hend]
  exact (leads_origin hhome path).joined (fun part hpart => Path.isPart_of_mem hnul hpart) (walk_parts hwalk)

/-! ## Writing a file -/

theorem at?_put {files : Files} {l : Location} (hl : l ≠ []) (entry : Entry) (m : Location) :
    (files.put l entry).at? m = if m = l then some entry else files.at? m := by
  unfold at? put
  by_cases hm : m = l
  · subst hm
    simp [hl]
  · have hother : (files.entries.filter fun e => e.1 ≠ l).find? (fun e => e.1 = m) =
        files.entries.find? fun e => e.1 = m := by
      rw [List.find?_filter]
      refine congrArg (List.find? · files.entries) (funext fun e => ?_)
      by_cases he : e.1 = m
      · simp [he, hm]
      · simp [he]
    have hne : ¬l = m := fun heq => hm heq.symm
    simp only [if_neg hm, List.find?_cons, hne, decide_false, hother]

theorem write_ok {files' : Files} {path : String} {contents : List UInt8} (h : files.write path contents = .ok files') :
    ∃ l, files.locate path = .ok l ∧ files.at? l ≠ some .directory ∧ l ≠ [] ∧ files' = files.put l (.file contents) := by
  obtain ⟨l, hl, hput⟩ := bind_ok_iff.mp h
  by_cases hdirectory : files.at? l = some .directory
  · rw [if_pos hdirectory] at hput
    cases hput
  · rw [if_neg hdirectory] at hput
    cases hput
    refine ⟨l, hl, hdirectory, ?_, rfl⟩
    rintro rfl
    exact hdirectory rfl

section

variable {target : Location} (htarget : files.at? target ≠ some .directory) (hroot : target ≠ [])

include htarget hroot

/-- Paths lead through directories, and no directory has given way to the file. -/
theorem walk_put (entry : Entry) {pieces : List String} (h : files.walk l pieces = .ok m) :
    (files.put target entry).walk l pieces = .ok m := by
  induction pieces generalizing l with
  | nil => exact h
  | cons piece rest ih =>
    have hdirectory := walk_cons_ok h
    have hne : l ≠ target := by
      rintro rfl
      exact htarget hdirectory
    have hstays : (files.put target entry).at? l = some .directory := by
      rw [at?_put hroot, if_neg hne]
      exact hdirectory
    rw [walk, hdirectory] at h
    rw [walk, hstays]
    by_cases hblank : piece = "" ∨ piece = "."
    · simp only [if_pos hblank] at h ⊢
      exact ih h
    · by_cases hback : piece = ".."
      · simp only [if_neg hblank, if_pos hback] at h ⊢
        exact ih h
      · simp only [if_neg hblank, if_neg hback] at h ⊢
        exact ih h

theorem locate_put (entry : Entry) {path : String} (h : files.locate path = .ok l) :
    (files.put target entry).locate path = .ok l := by
  obtain ⟨hsome, hnul, hwalk⟩ := locate_ok_iff.mp h
  exact locate_ok_iff.mpr ⟨hsome, hnul, walk_put htarget hroot entry hwalk⟩

end

theorem openEntry_ok {path : String} {entry : Entry} (hl : files.locate path = .ok l) (hentry : files.at? l = some entry) :
    files.openEntry path = .ok entry := by
  unfold openEntry
  refine bind_ok_iff.mpr ⟨l, hl, ?_⟩
  rw [hentry]

theorem openEntry_ok_iff {path : String} {entry : Entry} :
    files.openEntry path = .ok entry ↔ ∃ l, files.locate path = .ok l ∧ files.at? l = some entry := by
  constructor
  · intro h
    obtain ⟨l, hl, hentry⟩ := bind_ok_iff.mp h
    refine ⟨l, hl, ?_⟩
    split at hentry
    · rename_i hat
      cases hentry
      exact hat
    · cases hentry
  · intro h
    obtain ⟨l, hl, hentry⟩ := h
    exact openEntry_ok hl hentry

theorem read_written {files' : Files} {path : String} {contents : List UInt8}
    (h : files.write path contents = .ok files') : files'.openEntry path = .ok (.file contents) := by
  obtain ⟨l, hl, hdirectory, hroot, rfl⟩ := write_ok h
  refine openEntry_ok (locate_put hdirectory hroot _ hl) ?_
  rw [at?_put hroot, if_pos rfl]

/-- A file elsewhere is as before, also under its absolute path. -/
theorem openEntry_absolute_written {files' : Files} {target path : String} {written : List UInt8} {entry : Entry}
    (hhome : files.Homed) (h : files.write target written = .ok files')
    (helsewhere : files.locate target ≠ files.locate path) (hopen : files.openEntry path = .ok entry)
    (hfile : entry ≠ .directory) : files'.openEntry (Path.absolute files.homePath path) = .ok entry := by
  obtain ⟨l, hl, hat⟩ := openEntry_ok_iff.mp hopen
  obtain ⟨m, hm, hdirectory, hroot, rfl⟩ := write_ok h
  have hne : l ≠ m := by
    rintro rfl
    exact helsewhere (hm.trans hl.symm)
  refine openEntry_ok (locate_put hdirectory hroot _ (leads_absolute hhome hl hat hfile).locate) ?_
  rw [at?_put hroot, if_neg hne]
  exact hat

end Files

end Intake.Storage
