/-
  Intake.Proofs.Column.Kept — names that stay as they are.

  A header cell that is a name already, sound and not reserved, asks for itself, and gets what it asks for if no cell
  before it has got it. All names that are given are of this kind, and so are the names of columns without header
  cells. Given again, they stay.

  Proved:
  - `clean_of_sound`: cleaning leaves a sound name as it is, up to the last byte that fits.
  - `names_of_settled`: names that are sound, unreserved and distinct stay.
  - `settled_names`, `settled_placeholders`: the names that are given are of this kind.
  - `names_stay_iff`: so these are the names that stay, and naming twice is naming once.
-/

import Intake.Proofs.Column.Names

namespace Intake.Column

open Text (Snug isControl)
open Text.Utf8 (byteLength takeBytes)

/-! ## One name -/

theorem clean_of_sound {name : String} (h : Sound name) : clean name = name := by
  have hnul : name.toList.filter (· ≠ '\x00') = name.toList := by
    rw [List.filter_eq_self]
    intro c hc
    refine decide_eq_true fun e => ?_
    rw [e] at hc
    exact absurd (h.printable _ hc) (by decide)
  have hspaced : name.toList.map (fun c => if isControl c then ' ' else c) = name.toList := by
    conv => rhs; rw [← List.map_id' name.toList]
    refine List.map_congr_left fun c hc => ?_
    rw [h.printable c hc, if_neg Bool.false_ne_true]
  have hfits : byteLength name.toList ≤ Sql.maxIdentifierBytes := by
    rw [Text.Utf8.byteLength_toList]
    exact h.fits
  rw [clean, hnul, hspaced, Text.trimChars_of_snug h.snug, Text.Utf8.takeBytes_of_fits hfits,
    Text.trimEnd_of_last h.snug.last, String.ofList_toList]

theorem wanted_of_sound {name : String} (h : Sound name) (position : Nat) : wanted position name = name := by
  have hsome : name.toList ≠ [] := by
    intro e
    exact h.nonempty (String.toList_eq_nil_iff.mp e)
  rw [wanted, clean_of_sound h, if_neg hsome]

theorem unique_of_sound {name : String} {taken : List String} (h : Sound name) (hfree : name ∉ taken)
    (position : Nat) : unique taken position name = name := by
  rw [unique, wanted_of_sound h, if_neg hfree]

/-! ## Names for a row of cells -/

/-- The names given so far do not meet those that follow, so each of these is free when its turn comes. -/
theorem nameFrom_of_sound {taken cells : List String} (hsound : ∀ name ∈ cells, Sound name)
    (hfree : ∀ name ∈ cells, name ∉ taken) (hdistinct : cells.Nodup) (position : Nat) :
    nameFrom taken position cells = cells := by
  induction cells generalizing taken position with
  | nil => rfl
  | cons name cells ih =>
    obtain ⟨hname, hnames⟩ := List.forall_mem_cons.mp hsound
    obtain ⟨hnew, hrest⟩ := List.forall_mem_cons.mp hfree
    obtain ⟨hother, hdistinct⟩ := List.nodup_cons.mp hdistinct
    have hstill : ∀ n ∈ cells, n ∉ name :: taken := by
      intro n hn hmem
      rcases List.mem_cons.mp hmem with rfl | hmem
      · exact hother hn
      · exact hrest n hn hmem
    rw [nameFrom, unique_of_sound hname hnew, ih hnames hstill hdistinct]

/-- Names that the server takes as they are, none reserved and all different. -/
structure Settled (cells : List String) : Prop where
  sound : ∀ name ∈ cells, Sound name
  unreserved : ∀ name ∈ cells, name ∉ reservedNames
  distinct : cells.Nodup

theorem names_of_settled {cells : List String} (h : Settled cells) : names cells = cells :=
  nameFrom_of_sound h.sound h.unreserved h.distinct 0

theorem settled_names {cells : List String} (h : cells.length < 2 ^ 64) : Settled (names cells) := by
  obtain ⟨hdistinct, hfree⟩ := nameFrom_free reservedNames 0 cells
  exact ⟨sound_names h, hfree, hdistinct⟩

/-! ## Placeholders -/

theorem placeholder_injective {i j : Nat} (h : placeholder i = placeholder j) : i = j := by
  have hlist : "Column ".toList ++ (toString i).toList = "Column ".toList ++ (toString j).toList := by
    rw [← String.toList_append, ← String.toList_append]
    exact congrArg String.toList h
  exact digits_injective (List.append_cancel_left hlist)

theorem placeholder_unreserved (position : Nat) : placeholder position ∉ reservedNames := by
  intro h
  have hid : placeholder position = "id" := List.mem_singleton.mp h
  have hfirst : (placeholder position).toList.head? = "id".toList.head? := by rw [hid]
  rw [placeholder, String.toList_append] at hfirst
  exact absurd hfirst (by simp)

theorem settled_placeholders {count : Nat} (h : count < 2 ^ 64) : Settled (placeholders count) := by
  have hroom : 2 ^ 64 < roomy := by decide
  refine ⟨?_, ?_, ?_⟩
  · intro name hname
    obtain ⟨i, hi, rfl⟩ := List.mem_map.mp hname
    exact sound_placeholder (by have := List.mem_range.mp hi; omega)
  · intro name hname
    obtain ⟨i, -, rfl⟩ := List.mem_map.mp hname
    exact placeholder_unreserved i
  · exact List.Pairwise.map _ (fun i j hij e => hij (placeholder_injective e)) List.nodup_range

/-- Header cells are given as names just as they are exactly if each of them is a name that the server takes as it is
    and that is not reserved, and all are different. So names that were given, and names of columns without header
    cells, stay as they are when they are given again. -/
theorem names_stay_iff (cells : List String) (h : cells.length < 2 ^ 64) :
    (names cells = cells ↔ (∀ name ∈ cells, name ≠ "" ∧ name.utf8ByteSize ≤ 63 ∧
      (∀ c ∈ name.toList, isControl c = false) ∧ Snug name.toList ∧ name ∉ reservedNames) ∧ cells.Nodup) ∧
    names (names cells) = names cells ∧
    ∀ count, count < 2 ^ 64 → names (placeholders count) = placeholders count := by
  refine ⟨⟨fun hsame => ?_, fun hnames => ?_⟩, names_of_settled (settled_names h), ?_⟩
  · have hsettled := settled_names h
    rw [hsame] at hsettled
    obtain ⟨hsound, hunreserved, hdistinct⟩ := hsettled
    refine ⟨fun name hname => ?_, hdistinct⟩
    have hs := hsound name hname
    exact ⟨hs.nonempty, hs.fits, hs.printable, hs.snug, hunreserved name hname⟩
  · obtain ⟨hall, hdistinct⟩ := hnames
    refine names_of_settled ⟨fun name hname => ?_, fun name hname => ?_, hdistinct⟩
    · obtain ⟨hnonempty, hfits, hprintable, hsnug, -⟩ := hall name hname
      exact ⟨hnonempty, hfits, hprintable, hsnug⟩
    · obtain ⟨-, -, -, -, hunreserved⟩ := hall name hname
      exact hunreserved
  · intro count hcount
    exact names_of_settled (settled_placeholders hcount)

/-- A name of just as many bytes as fit, and what a column may be named without a header cell. -/
def fullNames : List String := [String.ofList ('a' :: List.replicate 31 'é'), "Column 0"]

def longName : List String := [String.ofList (List.replicate 32 'é')]

theorem names_stay_full : fullNames.length < 2 ^ 64 ∧ names fullNames = fullNames ∧ longName.length < 2 ^ 64 ∧
    names longName ≠ longName ∧ names (names longName) = names longName ∧ 3 < 2 ^ 64 ∧
    names (placeholders 3) = ["Column 0", "Column 1", "Column 2"] := by
  have hfull : fullNames.length < 2 ^ 64 := by decide
  have hlong : longName.length < 2 ^ 64 := by decide
  have hthree : 3 < 2 ^ 64 := by decide
  refine ⟨hfull, ?_, hlong, ?_, (names_stay_iff longName hlong).2.1, hthree, ?_⟩
  · refine (names_stay_iff fullNames hfull).1.mpr ⟨?_, by decide⟩
    simp only [fullNames, List.forall_mem_cons, List.not_mem_nil, false_implies, implies_true, and_true]
    constructor
    · refine ⟨by decide, by decide, ?_, ⟨?_, ?_⟩, by decide⟩
      · intro c hc
        rw [String.toList_ofList, List.mem_cons, List.mem_replicate] at hc
        rcases hc with rfl | ⟨-, rfl⟩ <;> decide
      · intro c hc
        cases hc
        decide
      · intro c hc
        cases hc
        decide
    · have hzero : Sound "Column 0" := @sound_placeholder 0 (by decide)
      exact ⟨hzero.nonempty, hzero.fits, hzero.printable, hzero.snug, placeholder_unreserved 0⟩
  · intro h
    obtain ⟨hall, -⟩ := (names_stay_iff longName hlong).1.mp h
    obtain ⟨-, hfits, -⟩ := hall _ List.mem_cons_self
    exact absurd hfits (by decide)
  · exact (names_stay_iff longName hlong).2.2 3 hthree

end Intake.Column
