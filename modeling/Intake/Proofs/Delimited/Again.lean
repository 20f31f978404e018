/-
  Intake.Proofs.Delimited.Again — a table read again with what is known of it.

  Without settings six rows of a table are looked at to see whether the first is a header, and with
  them one. What is found is the same once it is known.

  Proved:
  - `toNat_byteChar`: a byte and its character have the same code.
  - `usable_of_check`: a dialect that is in order is made of characters that can be used.
  - `firstRows_again`, `layoutOf_again`: a table has the same layout when it is read by what that layout says.
-/

import Intake.Delimited.Layout
import Intake.Proofs.Outcome

namespace Intake.Delimited

theorem toNat_byteChar (b : UInt8) : (byteChar b).toNat = b.toNat := by
  have hb : b.toNat < 256 := b.toNat_lt
  have hv : b.toNat.isValidChar := Or.inl (by omega)
  rw [byteChar, Char.ofNat, dif_pos hv]
  rfl

theorem byteChar_injective {a b : UInt8} (h : byteChar a = byteChar b) : a = b := by
  rw [← UInt8.toNat_inj, ← toNat_byteChar, ← toNat_byteChar, h]

theorem checkRole_ok_iff {role : String} {b : UInt8} :
    Dialect.checkRole role b = .ok () ↔ Dialect.isUsable b = true := by
  unfold Dialect.checkRole
  by_cases h : Dialect.isUsable b = true <;> simp [h]

theorem usable_of_check {d : Dialect} (h : d.check = .ok ()) :
    Dialect.isUsable d.delimiter = true ∧ Dialect.isUsable d.quote = true ∧
      ∀ escape ∈ d.escape, Dialect.isUsable escape = true := by
  obtain ⟨delimiter, quote, escape⟩ := d
  obtain ⟨⟨⟩, hdelimiter, h⟩ := bind_ok_iff.mp h
  obtain ⟨⟨⟩, hquote, h⟩ := bind_ok_iff.mp h
  refine ⟨checkRole_ok_iff.mp hdelimiter, checkRole_ok_iff.mp hquote, ?_⟩
  cases escape with
  | none => simp
  | some escape =>
    obtain ⟨⟨⟩, hescape, -⟩ := bind_ok_iff.mp h
    simpa using checkRole_ok_iff.mp hescape

theorem make_ok_iff {delimiter quote : UInt8} {escape : Option UInt8} {x : Dialect} :
    Dialect.make delimiter quote escape = .ok x ↔
      Dialect.check ⟨delimiter, quote, escape⟩ = .ok () ∧ x = ⟨delimiter, quote, escape⟩ := by
  unfold Dialect.make
  simp only [bind_ok_iff, pure_ok_iff]
  constructor
  · intro h
    obtain ⟨⟨⟩, hcheck, rfl⟩ := h
    exact ⟨hcheck, rfl⟩
  · intro h
    obtain ⟨hcheck, rfl⟩ := h
    exact ⟨(), hcheck, rfl⟩

/-- Rows that are read give the first of them when only that is wanted. -/
theorem take_one {ε α : Type} {n : Nat} {records : List (Except ε α)} {rows : List α} (hn : 1 ≤ n)
    (h : (records.take n).mapM id = .ok rows) : (records.take 1).mapM id = .ok (rows.take 1) := by
  obtain ⟨n, rfl⟩ : ∃ m, n = m + 1 := ⟨n - 1, by omega⟩
  cases records with
  | nil =>
    cases h
    rfl
  | cons record records =>
    rw [List.take_succ_cons, List.mapM_cons] at h
    obtain ⟨a, hrecord, hrest⟩ := bind_ok_iff.mp h
    obtain ⟨rest, -, hpure⟩ := bind_ok_iff.mp hrest
    cases hpure
    rw [List.take_succ_cons, List.take_zero, List.mapM_cons, hrecord]
    rfl

theorem one_le_rowsWanted (header : Option Bool) : 1 ≤ rowsWanted header := by
  cases header with
  | none => decide
  | some known => exact Nat.le_refl 1

theorem firstRows_again {header : Option Bool} {records : List (Except RecordError (List String))}
    {rows : List (List String)} (h : firstRows header records = .ok rows) (known : Bool) :
    firstRows (some known) records = .ok (rows.take 1) :=
  take_one (one_le_rowsWanted header) h

theorem layoutOf_again (header : Option Bool) (rows : List (List String)) :
    layoutOf (some (layoutOf header rows).hasHeader) (rows.take 1) = layoutOf header rows := by
  cases rows <;> rfl

end Intake.Delimited
