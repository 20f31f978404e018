/-
  Intake.Proofs.Text.Utf8 — what is written in UTF-8 is read back.

  A character is written as a first byte that tells how many follow, and bytes that carry six bits
  each. After the first byte the reader stands where the value of the bits so far is known; the
  bounds it sets on the next byte leave out the values that a shorter form has, the surrogates, and
  those above the last character. No character has such a value, so its bytes pass.

  Proved:
  - `readFrom_encodeChar`: the bytes of a character are read as that character, whatever follows.
  - `run_encode`, `decode?_encode`: so those of a text, and none of them is malformed.
-/

import Intake.Proofs.Text.Machine
import Intake.Text.Utf8

namespace Intake.Text.Utf8

/-! ## Reading from a position -/

/-- What the bytes are read as where the reader stands. -/
def readFrom (p : Position) (bs : List UInt8) : List Symbol := decoder.outputFrom p bs

theorem readFrom_nil (p : Position) : readFrom p [] = last p := decoder.outputFrom_nil p

theorem readFrom_cons (p : Position) (b : UInt8) (bs : List UInt8) :
    readFrom p (b :: bs) = (next p b).2 ++ readFrom (next p b).1 bs :=
  decoder.outputFrom_cons p b bs

/-! ## Bytes after the first -/

def trail (n : Nat) : UInt8 := UInt8.ofNat (n % 0x40 + 0x80)

theorem toNat_trail (n : Nat) : (trail n).toNat = n % 0x40 + 0x80 := by
  rw [trail, UInt8.toNat_ofNat']
  omega

theorem trail_tail (n : Nat) : 0x80 ≤ trail n ∧ trail n ≤ 0xBF := by
  rw [UInt8.le_iff_toNat_le, UInt8.le_iff_toNat_le, toNat_trail]
  change 0x80 ≤ _ ∧ _ ≤ 0xBF
  omega

/-- After some first bytes the next one must be higher, or lower, than a byte after the first has to be
    otherwise. -/
theorem trail_after {k m n : Nat} (a b : UInt8) (hlow : k = 0 → a.toNat ≤ n % 0x40 + 0x80)
    (hhigh : k = m → n % 0x40 + 0x80 ≤ b.toNat) :
    (if k = 0 then a else 0x80) ≤ trail n ∧ trail n ≤ if k = m then b else 0xBF := by
  constructor
  · by_cases h : k = 0
    · rw [if_pos h, UInt8.le_iff_toNat_le, toNat_trail]
      exact hlow h
    · rw [if_neg h]
      exact (trail_tail n).1
  · by_cases h : k = m
    · rw [if_pos h, UInt8.le_iff_toNat_le, toNat_trail]
      exact hhigh h
    · rw [if_neg h]
      exact (trail_tail n).2

theorem readFrom_last {n value : Nat} {low high : UInt8} (h : low ≤ trail n ∧ trail n ≤ high)
    (bs : List UInt8) :
    readFrom (.inside 1 low high value) (trail n :: bs) =
      some (Char.ofNat (value * 64 + n % 64)) :: readFrom .between bs := by
  have hnext : next (.inside 1 low high value) (trail n) =
      (.between, [some (Char.ofNat (value * 64 + n % 64))]) := by
    simp [next, h, toNat_trail]
  rw [readFrom_cons, hnext, List.singleton_append]

/-- A byte before the last adds its bits to the value. -/
theorem readFrom_inside {n value missing : Nat} {low high : UInt8} (h : low ≤ trail n ∧ trail n ≤ high)
    (hmore : 1 < missing) (bs : List UInt8) :
    readFrom (.inside missing low high value) (trail n :: bs) =
      readFrom (.inside (missing - 1) 0x80 0xBF (value * 64 + n % 64)) bs := by
  have hnext : next (.inside missing low high value) (trail n) =
      (.inside (missing - 1) 0x80 0xBF (value * 64 + n % 64), []) := by
    simp [next, h, toNat_trail, Nat.not_le.mpr hmore]
  rw [readFrom_cons, hnext, List.nil_append]

/-! ## First bytes -/

theorem first_of_one {n : Nat} (h : n < 0x80) : first (UInt8.ofNat n) = (.between, [some (Char.ofNat n)]) := by
  have hlt : UInt8.ofNat n < 0x80 := by
    rw [UInt8.lt_iff_toNat_lt, UInt8.toNat_ofNat']
    change _ < 0x80
    omega
  rw [first, if_pos hlt, UInt8.toNat_ofNat', Nat.mod_eq_of_lt (by omega)]

theorem first_of_two : ∀ n < 0x20, 2 ≤ n →
    first (UInt8.ofNat (n + 0xC0)) = (.inside 1 0x80 0xBF n, []) := by
  decide

theorem first_of_three : ∀ n < 0x10, first (UInt8.ofNat (n + 0xE0)) =
    (.inside 2 (if n = 0 then 0xA0 else 0x80) (if n = 0xD then 0x9F else 0xBF) n, []) := by
  decide

theorem first_of_four : ∀ n < 5, first (UInt8.ofNat (n + 0xF0)) =
    (.inside 3 (if n = 0 then 0x90 else 0x80) (if n = 4 then 0x8F else 0xBF) n, []) := by
  decide

theorem readFrom_first {b : UInt8} {p : Position} (h : first b = (p, [])) (bs : List UInt8) :
    readFrom .between (b :: bs) = readFrom p bs := by
  rw [readFrom_cons, next, h, List.nil_append]

/-! ## Characters of each length -/

theorem readFrom_one {v : Nat} (h : v < 0x80) (bs : List UInt8) :
    readFrom .between (UInt8.ofNat v :: bs) = some (Char.ofNat v) :: readFrom .between bs := by
  rw [readFrom_cons, next, first_of_one h, List.singleton_append]

theorem readFrom_two {v : Nat} (hlow : 0x80 ≤ v) (hhigh : v < 0x800) (bs : List UInt8) :
    readFrom .between (UInt8.ofNat (v / 64 % 0x20 + 0xC0) :: trail v :: bs) =
      some (Char.ofNat v) :: readFrom .between bs := by
  have hlead : v / 64 % 0x20 = v / 64 := Nat.mod_eq_of_lt (by omega)
  have hvalue : v / 64 * 64 + v % 64 = v := Nat.div_add_mod' v 64
  rw [hlead, readFrom_first (first_of_two (v / 64) (by omega) (by omega)), readFrom_last (trail_tail v), hvalue]

theorem readFrom_three {v : Nat} (hlow : 0x800 ≤ v) (hhigh : v < 0x10000)
    (hvalid : v < 0xD800 ∨ 0xDFFF < v) (bs : List UInt8) :
    readFrom .between (UInt8.ofNat (v / 4096 % 0x10 + 0xE0) :: trail (v / 64) :: trail v :: bs) =
      some (Char.ofNat v) :: readFrom .between bs := by
  have hlead : v / 4096 % 0x10 = v / 4096 := Nat.mod_eq_of_lt (by omega)
  have hleast : v / 4096 = 0 → 0xA0 ≤ v / 64 % 0x40 + 0x80 := by omega
  have hmost : v / 4096 = 0xD → v / 64 % 0x40 + 0x80 ≤ 0x9F := by omega
  have hbounds := trail_after 0xA0 0x9F hleast hmost
  have hvalue : (v / 4096 * 64 + v / 64 % 64) * 64 + v % 64 = v := by omega
  rw [hlead, readFrom_first (first_of_three (v / 4096) (by omega)), readFrom_inside hbounds (by decide),
    readFrom_last (trail_tail v), hvalue]

theorem readFrom_four {v : Nat} (hlow : 0x10000 ≤ v) (hhigh : v < 0x110000) (bs : List UInt8) :
    readFrom .between (UInt8.ofNat (v / 262144 % 0x08 + 0xF0) :: trail (v / 4096) :: trail (v / 64) ::
      trail v :: bs) = some (Char.ofNat v) :: readFrom .between bs := by
  have hlead : v / 262144 % 0x08 = v / 262144 := Nat.mod_eq_of_lt (by omega)
  have hleast : v / 262144 = 0 → 0x90 ≤ v / 4096 % 0x40 + 0x80 := by omega
  have hmost : v / 262144 = 4 → v / 4096 % 0x40 + 0x80 ≤ 0x8F := by omega
  have hbounds := trail_after 0x90 0x8F hleast hmost
  have hvalue : ((v / 262144 * 64 + v / 4096 % 64) * 64 + v / 64 % 64) * 64 + v % 64 = v := by omega
  rw [hlead, readFrom_first (first_of_four (v / 262144) (by omega)), readFrom_inside hbounds (by decide),
    readFrom_inside (trail_tail _) (by decide), readFrom_last (trail_tail v), hvalue]

/-! ## Texts -/

theorem readFrom_encodeChar (c : Char) (bs : List UInt8) :
    readFrom .between (String.utf8EncodeChar c ++ bs) = some c :: readFrom .between bs := by
  have hvalid : c.val.toNat < 0xD800 ∨ 0xDFFF < c.val.toNat ∧ c.val.toNat < 0x110000 := c.valid
  have hchar : some (Char.ofNat c.val.toNat) = some c := congrArg some (Char.ofNat_toNat c)
  rw [String.utf8EncodeChar, ← hchar]
  split
  case isTrue hone => exact readFrom_one (by omega) bs
  split
  case isTrue hone htwo => exact readFrom_two (by omega) (by omega) bs
  split
  case isTrue hone htwo hthree => exact readFrom_three (by omega) (by omega) (by omega) bs
  case isFalse hone htwo hthree => exact readFrom_four (by omega) (by omega) bs

theorem run_encode (cs : List Char) : decoder.run (encode cs) = cs.map some := by
  change readFrom .between _ = _
  induction cs with
  | nil => exact readFrom_nil .between
  | cons c cs ih => rw [encode, List.flatMap_cons, readFrom_encodeChar, List.map_cons, ← ih, encode]

theorem decode?_encode (cs : List Char) : decode? (encode cs) = some cs := by
  rw [decode?, run_encode]
  induction cs with
  | nil => rfl
  | cons c cs ih => simp [List.mapM_cons, ih]

end Intake.Text.Utf8
