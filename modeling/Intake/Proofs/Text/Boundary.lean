/-
  Intake.Proofs.Text.Boundary — where a text can be cut, seen from its bytes.

  Only the first byte of a character is below 0x80 or from 0xC0 on, so a byte tells by itself whether a character
  begins there. The place to cut a text is then found from behind: from the limit towards the start, up to the first
  byte at which a character begins. A character has at most four bytes, and at the start of the text there is always
  a boundary, so the search cannot miss one.

  Proved:
  - `encodeChar_form`: the bytes of a character are one that begins it and others that begin none.
  - `isBoundary_iff`: the test on bytes finds the places that have whole characters on both sides, and no others.
  - `boundaryBefore_encode`: the search from a limit comes to the end of what fits.
  - `cutBack_eq`: so cutting from behind gives the longest beginning that fits, as taking characters from the front
    does.
-/

import Intake.Proofs.Text.Length
import Intake.Proofs.Text.Opening

namespace Intake.Text.Utf8

/-! ## Cutting from behind -/

/-- Whether a character begins with this byte; no other byte of a character is like that. -/
def beginsChar (b : UInt8) : Bool := b < 0x80 || 0xC0 ≤ b

/-- Whether the bytes of a text can be cut before the one at `i`: at either end, and where a character begins. -/
def isBoundary (bytes : List UInt8) (i : Nat) : Bool := i = 0 || i = bytes.length || bytes[i]?.any beginsChar

/-- The last boundary up to a place, looked for backwards; none if the search would have to go on before the start. -/
def boundaryBefore (bytes : List UInt8) : Nat → Option Nat
  | 0 => if isBoundary bytes 0 then some 0 else none
  | i + 1 => if isBoundary bytes (i + 1) then some (i + 1) else boundaryBefore bytes i

/-- A text cut to `limit` bytes from behind: the whole of it if it fits, else the bytes before the last boundary. None
    if there is no boundary, or if these bytes are not a text. -/
def cutBack (limit : Nat) (cs : List Char) : Option (List Char) :=
  let bytes := encode cs
  if bytes.length ≤ limit then some cs
  else (boundaryBefore bytes limit).bind fun stop => decode? (bytes.take stop)

/-! ## The bytes of a character -/

theorem beginsChar_ofNat {n : Nat} (hbyte : n < 0x100) (h : n < 0x80 ∨ 0xC0 ≤ n) :
    beginsChar (UInt8.ofNat n) = true := by
  have hn : (UInt8.ofNat n).toNat = n := by
    rw [UInt8.toNat_ofNat']
    omega
  rw [beginsChar, Bool.or_eq_true, decide_eq_true_iff, decide_eq_true_iff, UInt8.lt_iff_toNat_lt,
    UInt8.le_iff_toNat_le, hn]
  exact h

theorem trail_begins_none (n : Nat) : beginsChar (trail n) = false := by
  have hn := toNat_trail n
  rw [beginsChar, Bool.or_eq_false_iff, decide_eq_false_iff_not, decide_eq_false_iff_not, UInt8.lt_iff_toNat_lt,
    UInt8.le_iff_toNat_le, hn]
  change ¬_ < 0x80 ∧ ¬0xC0 ≤ _
  omega

theorem trails_begin_none (n v : Nat) : ∀ b ∈ trails n v, beginsChar b = false := by
  induction n with
  | zero => simp [trails]
  | succ n ih =>
    rw [trails]
    exact List.forall_mem_cons.mpr ⟨trail_begins_none _, ih⟩

/-- The first byte of a character begins it, the others begin none. -/
theorem encodeChar_form (c : Char) :
    ∃ b bs, String.utf8EncodeChar c = b :: bs ∧ beginsChar b = true ∧ ∀ t ∈ bs, beginsChar t = false := by
  have hvalid : c.toNat.isValidChar := c.valid
  have hlast : c.toNat < 0x110000 := by
    rcases hvalid with h | ⟨-, h⟩ <;> omega
  rw [← Char.ofNat_toNat c]
  by_cases hone : c.toNat < 0x80
  · exact ⟨_, _, encodeChar_one hone, beginsChar_ofNat (by omega) (.inl hone), by simp⟩
  by_cases htwo : c.toNat < 0x800
  · exact ⟨_, _, encodeChar_two hvalid (by omega) htwo, beginsChar_ofNat (by omega) (.inr (by omega)),
      trails_begin_none _ _⟩
  by_cases hthree : c.toNat < 0x10000
  · exact ⟨_, _, encodeChar_three hvalid (by omega) hthree, beginsChar_ofNat (by omega) (.inr (by omega)),
      trails_begin_none _ _⟩
  · exact ⟨_, _, encodeChar_four hvalid (by omega) hlast, beginsChar_ofNat (by omega) (.inr (by omega)),
      trails_begin_none _ _⟩

/-! ## Boundaries -/

theorem boundary_zero (bytes : List UInt8) : isBoundary bytes 0 = true := by simp [isBoundary]

theorem boundary_inside {c : Char} {i : Nat} (hpos : 0 < i) (hlt : i < c.utf8Size) (bytes : List UInt8) :
    isBoundary (String.utf8EncodeChar c ++ bytes) i = false := by
  obtain ⟨b, bs, hform, -, hnone⟩ := encodeChar_form c
  have hlength : bs.length + 1 = c.utf8Size := by
    rw [← String.length_utf8EncodeChar, hform, List.length_cons]
  obtain ⟨j, rfl⟩ : ∃ j, i = j + 1 := ⟨i - 1, by omega⟩
  have hj : j < bs.length := by omega
  have hbyte : (b :: bs ++ bytes)[j + 1]? = some bs[j] := by
    rw [List.cons_append, List.getElem?_cons_succ, List.getElem?_append_left hj, List.getElem?_eq_getElem hj]
  have hshort : j ≠ bs.length + bytes.length := by omega
  rw [hform, isBoundary, hbyte]
  simp [hshort, hnone _ (List.getElem_mem hj)]

theorem boundary_after (c : Char) (cs : List Char) (i : Nat) :
    isBoundary (encode (c :: cs)) (c.utf8Size + i) = isBoundary (encode cs) i := by
  have hpos := c.utf8Size_pos
  have hlength : (encode (c :: cs)).length = c.utf8Size + (encode cs).length := by
    rw [encode_cons, List.length_append, String.length_utf8EncodeChar]
  have hbyte : (encode (c :: cs))[c.utf8Size + i]? = (encode cs)[i]? := by
    rw [encode_cons, List.getElem?_append_right (by rw [String.length_utf8EncodeChar]; omega),
      String.length_utf8EncodeChar, Nat.add_sub_cancel_left]
  cases i with
  | succ i => simp [isBoundary, hlength, hbyte]
  | zero =>
    rw [boundary_zero, isBoundary, hlength, hbyte]
    -- the rest is empty, or a character begins it
    cases cs with
    | nil => simp [encode]
    | cons d ds =>
      obtain ⟨b, bs, hform, hbegins, -⟩ := encodeChar_form d
      simp [encode_cons, hform, hbegins]

/-- The boundaries of a text are where its beginnings of whole characters end. -/
theorem isBoundary_iff (cs : List Char) (i : Nat) :
    isBoundary (encode cs) i = true ↔ ∃ ds, ds <+: cs ∧ byteLength ds = i := by
  induction cs generalizing i with
  | nil =>
    have hzero : isBoundary (encode []) i = true ↔ i = 0 := by simp [isBoundary, encode]
    rw [hzero]
    constructor
    · rintro rfl
      exact ⟨[], List.prefix_rfl, rfl⟩
    · rintro ⟨ds, hds, rfl⟩
      rw [List.prefix_nil.mp hds, byteLength_nil]
  | cons c cs ih =>
    by_cases hzero : i = 0
    · subst hzero
      exact iff_of_true (boundary_zero _) ⟨[], List.nil_prefix, rfl⟩
    by_cases hinside : i < c.utf8Size
    · have hfalse : isBoundary (encode (c :: cs)) i = false := by
        rw [encode_cons]
        exact boundary_inside (by omega) hinside _
      rw [hfalse]
      refine iff_of_false Bool.false_ne_true ?_
      rintro ⟨ds, hds, rfl⟩
      cases ds with
      | nil => exact hzero rfl
      | cons d ds =>
        obtain ⟨rfl, -⟩ := List.cons_prefix_cons.mp hds
        rw [byteLength_cons] at hinside
        omega
    · obtain ⟨j, rfl⟩ := Nat.exists_eq_add_of_le (Nat.le_of_not_lt hinside)
      rw [boundary_after, ih]
      constructor
      · rintro ⟨ds, hds, rfl⟩
        exact ⟨c :: ds, List.cons_prefix_cons.mpr ⟨rfl, hds⟩, rfl⟩
      · rintro ⟨ds, hds, hlength⟩
        cases ds with
        | nil => exact absurd hlength.symm hzero
        | cons d ds =>
          obtain ⟨rfl, hrest⟩ := List.cons_prefix_cons.mp hds
          rw [byteLength_cons] at hlength
          exact ⟨ds, hrest, by omega⟩

/-! ## The search -/

theorem boundaryBefore_eq {bytes : List UInt8} {stop i : Nat} (hstop : isBoundary bytes stop = true) (hle : stop ≤ i)
    (hnone : ∀ j, stop < j → j ≤ i → isBoundary bytes j = false) : boundaryBefore bytes i = some stop := by
  induction i with
  | zero =>
    obtain rfl : stop = 0 := by omega
    rw [boundaryBefore, if_pos hstop]
  | succ i ih =>
    by_cases hhere : stop = i + 1
    · subst hhere
      rw [boundaryBefore, if_pos hstop]
    · have hpass : isBoundary bytes (i + 1) = false := hnone (i + 1) (by omega) (by omega)
      rw [boundaryBefore, hpass, if_neg Bool.false_ne_true]
      exact ih (by omega) fun j hj hji => hnone j hj (by omega)

/-- From a limit the search comes to where the longest beginning that fits ends. -/
theorem boundaryBefore_encode (limit : Nat) (cs : List Char) :
    boundaryBefore (encode cs) limit = some (byteLength (takeBytes limit cs)) := by
  refine boundaryBefore_eq ((isBoundary_iff cs _).mpr ⟨_, takeBytes_starts limit cs, rfl⟩)
    (byteLength_takeBytes_le limit cs) fun j hlonger hfits => ?_
  rw [Bool.eq_false_iff]
  intro hj
  obtain ⟨ds, hds, rfl⟩ := (isBoundary_iff cs j).mp hj
  have hle : byteLength ds ≤ byteLength (takeBytes limit cs) := by
    obtain ⟨rest, hrest⟩ := starts_takeBytes hds hfits
    rw [← hrest, byteLength_append]
    omega
  omega

theorem take_encode {cs ds : List Char} (h : ds <+: cs) : (encode cs).take (byteLength ds) = encode ds := by
  obtain ⟨rest, rfl⟩ := h
  rw [encode_append, ← length_encode, List.take_left]

/-- The search finds a boundary, and what stands before it is a text: the longest beginning that fits. -/
theorem cutBack_eq (limit : Nat) (cs : List Char) : cutBack limit cs = some (takeBytes limit cs) := by
  simp only [cutBack, length_encode]
  by_cases hfits : byteLength cs ≤ limit
  · rw [if_pos hfits, takeBytes_of_fits hfits]
  · rw [if_neg hfits, boundaryBefore_encode, Option.bind_some, take_encode (takeBytes_starts limit cs), decode?_encode]

end Intake.Text.Utf8
