/-
  Intake.Proofs.Text.Length — the length of a text in bytes, and the beginning of it that fits.

  The length counted character by character is the length of the bytes (`length_encode`), and the
  length the string itself has (`byteLength_toList`). What `takeBytes` takes is a beginning of the
  text (`takeBytes_starts`) that fits (`byteLength_takeBytes_le`), all of a text that fits
  (`takeBytes_of_fits`), and else as much as leaves no room for the next character (`takeBytes_stops`),
  so no beginning that fits is longer (`starts_takeBytes`).
-/

import Intake.Text.Utf8

namespace Intake.Text.Utf8

@[simp] theorem byteLength_nil : byteLength [] = 0 := rfl

@[simp] theorem byteLength_cons (c : Char) (cs : List Char) :
    byteLength (c :: cs) = c.utf8Size + byteLength cs := rfl

@[simp] theorem byteLength_append (cs ds : List Char) :
    byteLength (cs ++ ds) = byteLength cs + byteLength ds := by
  induction cs with
  | nil => exact (Nat.zero_add _).symm
  | cons c cs ih => rw [List.cons_append, byteLength_cons, byteLength_cons, ih, Nat.add_assoc]

theorem length_encode (cs : List Char) : (encode cs).length = byteLength cs := by
  induction cs with
  | nil => rfl
  | cons c cs ih =>
    rw [encode, List.flatMap_cons, List.length_append, String.length_utf8EncodeChar, byteLength_cons, ← ih, encode]

@[simp] theorem utf8ByteSize_ofList (cs : List Char) : (String.ofList cs).utf8ByteSize = byteLength cs := by
  rw [← length_encode, ← String.size_toByteArray, String.toByteArray_ofList, List.utf8Encode,
    List.size_toByteArray, encode]

@[simp] theorem byteLength_toList (s : String) : byteLength s.toList = s.utf8ByteSize := by
  rw [← utf8ByteSize_ofList, String.ofList_toList]

theorem byteLength_ascii {cs : List Char} (h : ∀ c ∈ cs, c.utf8Size = 1) : byteLength cs = cs.length := by
  induction cs with
  | nil => rfl
  | cons c cs ih =>
    obtain ⟨hc, hcs⟩ := List.forall_mem_cons.mp h
    rw [byteLength_cons, ih hcs, hc, List.length_cons]
    omega

/-! ## What fits -/

theorem takeBytes_starts (limit : Nat) (cs : List Char) : takeBytes limit cs <+: cs := by
  induction cs generalizing limit with
  | nil => exact List.prefix_rfl
  | cons c cs ih =>
    rw [takeBytes]
    split
    · exact List.cons_prefix_cons.mpr ⟨rfl, ih _⟩
    · exact List.nil_prefix

theorem byteLength_takeBytes_le (limit : Nat) (cs : List Char) : byteLength (takeBytes limit cs) ≤ limit := by
  induction cs generalizing limit with
  | nil => exact Nat.zero_le _
  | cons c cs ih =>
    rw [takeBytes]
    split
    · have := ih (limit - c.utf8Size)
      rw [byteLength_cons]; omega
    · exact Nat.zero_le _

theorem takeBytes_of_fits {limit : Nat} {cs : List Char} (h : byteLength cs ≤ limit) :
    takeBytes limit cs = cs := by
  induction cs generalizing limit with
  | nil => rfl
  | cons c cs ih =>
    rw [byteLength_cons] at h
    rw [takeBytes, if_pos (by omega), ih (by omega)]

theorem takeBytes_zero (cs : List Char) : takeBytes 0 cs = [] := by
  cases cs with
  | nil => rfl
  | cons c cs =>
    have hpos := c.utf8Size_pos
    rw [takeBytes, if_neg (by omega)]

/-- A character has room in four bytes. -/
theorem takeBytes_ne_nil {limit : Nat} {cs : List Char} (hne : cs ≠ []) (h : 4 ≤ limit) : takeBytes limit cs ≠ [] := by
  cases cs with
  | nil => exact absurd rfl hne
  | cons c cs =>
    have hc : c.utf8Size ≤ limit := Nat.le_trans c.utf8Size_le_four h
    rw [takeBytes, if_pos hc]
    exact List.cons_ne_nil _ _

/-- A beginning that fits is taken, and then what fits behind it. -/
theorem takeBytes_append {limit : Nat} {cs : List Char} (h : byteLength cs ≤ limit) (ds : List Char) :
    takeBytes limit (cs ++ ds) = cs ++ takeBytes (limit - byteLength cs) ds := by
  induction cs generalizing limit with
  | nil => rfl
  | cons c cs ih =>
    rw [byteLength_cons] at h
    rw [List.cons_append, takeBytes, if_pos (by omega), ih (by omega), byteLength_cons, Nat.sub_sub,
      List.cons_append]

theorem starts_takeBytes {limit : Nat} {cs ds : List Char} (h : ds <+: cs) (hfits : byteLength ds ≤ limit) :
    ds <+: takeBytes limit cs := by
  obtain ⟨rest, rfl⟩ := h
  rw [takeBytes_append hfits]
  exact List.prefix_append _ _

/-- Nothing is left, or a character that does not fit any more comes next. -/
theorem takeBytes_stops (limit : Nat) (cs : List Char) :
    takeBytes limit cs = cs ∨
      ∃ c rest, cs = takeBytes limit cs ++ c :: rest ∧ limit < byteLength (takeBytes limit cs) + c.utf8Size := by
  obtain ⟨rest, hrest⟩ := takeBytes_starts limit cs
  have hfits := byteLength_takeBytes_le limit cs
  have happend := takeBytes_append hfits rest
  rw [hrest] at happend
  have hnothing := List.self_eq_append_right.mp happend
  cases rest with
  | nil => exact .inl ((List.append_nil _).symm.trans hrest)
  | cons c rest =>
    refine .inr ⟨c, rest, hrest.symm, ?_⟩
    rw [takeBytes] at hnothing
    split at hnothing
    · cases hnothing
    · omega

end Intake.Text.Utf8
