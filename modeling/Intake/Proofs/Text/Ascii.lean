/-
  Intake.Proofs.Text.Ascii — ASCII characters among the bytes of a text.

  An ASCII character is one byte, its code, and no byte of any other character is below 0x80. So an ASCII
  byte in a text stands for that character and for nothing else, and a text can be taken apart at ASCII
  characters byte by byte.

  Proved:
  - `encodeChar_ascii`, `encodeChar_wide`: the bytes of a character.
-/

import Intake.Text.Utf8

namespace Intake.Text.Utf8

theorem encode_append (cs ds : List Char) : encode (cs ++ ds) = encode cs ++ encode ds := by
  simp [encode]

theorem encode_cons (c : Char) (cs : List Char) : encode (c :: cs) = String.utf8EncodeChar c ++ encode cs := by
  simp [encode]

theorem encodeChar_ascii {c : Char} (h : c.toNat < 0x80) : String.utf8EncodeChar c = [UInt8.ofNat c.toNat] := by
  have hcode : c.val.toNat ≤ 0x7F := by
    show c.toNat ≤ 0x7F
    omega
  unfold String.utf8EncodeChar
  rw [if_pos hcode]
  rfl

theorem high_ofNat {n : Nat} (h : 0x80 ≤ n) (hbyte : n < 0x100) : 0x80 ≤ UInt8.ofNat n := by
  rw [UInt8.le_iff_toNat_le, UInt8.toNat_ofNat']
  show 0x80 ≤ n % 256
  omega

theorem encodeChar_wide {c : Char} (h : 0x80 ≤ c.toNat) : ∀ b ∈ String.utf8EncodeChar c, 0x80 ≤ b := by
  have hcode : ¬c.val.toNat ≤ 0x7F := by
    show ¬c.toNat ≤ 0x7F
    omega
  unfold String.utf8EncodeChar
  rw [if_neg hcode]
  intro b hb
  split at hb
  · simp only [List.mem_cons, List.not_mem_nil, or_false] at hb
    rcases hb with rfl | rfl <;> exact high_ofNat (by omega) (by omega)
  · split at hb
    · simp only [List.mem_cons, List.not_mem_nil, or_false] at hb
      rcases hb with rfl | rfl | rfl <;> exact high_ofNat (by omega) (by omega)
    · simp only [List.mem_cons, List.not_mem_nil, or_false] at hb
      rcases hb with rfl | rfl | rfl | rfl <;> exact high_ofNat (by omega) (by omega)

end Intake.Text.Utf8
