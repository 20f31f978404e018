/-
  Intake.Proofs.Text.Opening — which bytes a text begins with.

  The reader stands between characters or within one. Within one it knows the bits so far, how many
  bytes are missing, and between which bounds the next one lies. These bounds are such that every
  number that still fits is that of a character, and its bytes begin with those that were read
  (`Begun`). So a character that is read was written as the bytes it was read from, and where nothing
  is malformed the bytes can be completed to a text, by as many as are missing.

  Proved:
  - `isText_iff_isValidUTF8`: what a text is here is what the standard library says.
  - `next_takes`, `readOn_takes`: what one more byte is, and so what any bytes are.
  - `decode?_eq_some_iff`: bytes are read as a text just if it is written as these bytes.
  - `IsText.rest`: what follows some characters of a text is a text.
  - `isOpening_iff`: nothing in the bytes is malformed just if they are a text, or one whose last
    character is cut; and none is both (`IsCut.not_isText`).
  - `isOpening_iff_completed`: this is so just if they are a text, or one to three bytes make them one.
-/

import Intake.Proofs.Text.Ascii
import Intake.Proofs.Text.Utf8
import Mathlib.Algebra.Group.Nat.Defs

namespace Intake.Text.Utf8

/-- The bytes are those of a text. -/
def IsText (bytes : List UInt8) : Prop := ∃ cs, encode cs = bytes

/-- The bytes are those of a text, and then some of those of a character, but not all. -/
def IsCut (bytes : List UInt8) : Prop :=
  ∃ cs c n, 0 < n ∧ n < c.utf8Size ∧ bytes = encode cs ++ (String.utf8EncodeChar c).take n

theorem isText_nil : IsText [] := ⟨[], rfl⟩

theorem isText_encodeChar (c : Char) : IsText (String.utf8EncodeChar c) := ⟨[c], by simp [encode]⟩

theorem IsText.append {bs bs' : List UInt8} (h : IsText bs) (h' : IsText bs') : IsText (bs ++ bs') := by
  obtain ⟨cs, rfl⟩ := h
  obtain ⟨cs', rfl⟩ := h'
  exact ⟨cs ++ cs', encode_append cs cs'⟩

theorem isText_iff_isValidUTF8 (bytes : List UInt8) : IsText bytes ↔ bytes.toByteArray.IsValidUTF8 := by
  constructor
  · rintro ⟨cs, rfl⟩
    exact ⟨cs, rfl⟩
  · rintro ⟨cs, hcs⟩
    exact ⟨cs, (List.toByteArray_inj.mp hcs).symm⟩

theorem IsCut.completed {bytes : List UInt8} (h : IsCut bytes) :
    ∃ tail, 1 ≤ tail.length ∧ tail.length ≤ 3 ∧ IsText (bytes ++ tail) := by
  obtain ⟨cs, c, n, hpos, hlt, rfl⟩ := h
  have hfour := c.utf8Size_le_four
  refine ⟨(String.utf8EncodeChar c).drop n, ?_, ?_, cs ++ [c], ?_⟩
  · rw [List.length_drop, String.length_utf8EncodeChar]
    omega
  · rw [List.length_drop, String.length_utf8EncodeChar]
    omega
  · rw [List.append_assoc, List.take_append_drop, encode_append, encode_cons]
    exact congrArg _ (List.append_nil _)

/-! ## Characters by their numbers -/

def trails : Nat → Nat → List UInt8
  | 0, _ => []
  | n + 1, v => trail (v / 64 ^ n) :: trails n v

/-- A byte after the first is the one that carries its six bits. -/
theorem trail_append {b : UInt8} (hlow : 0x80 ≤ b) (hhigh : b ≤ 0xBF) (value : Nat) :
    trail (value * 64 + (b.toNat - 0x80)) = b ∧ (value * 64 + (b.toNat - 0x80)) / 64 = value := by
  rw [UInt8.le_iff_toNat_le] at hlow hhigh
  change 0x80 ≤ b.toNat at hlow
  change b.toNat ≤ 0xBF at hhigh
  rw [← UInt8.toNat_inj, toNat_trail]
  omega

section

variable {v : Nat}

theorem toNat_ofNat_valid (h : v.isValidChar) : (Char.ofNat v).val.toNat = v := by
  rw [Char.ofNat, dif_pos h]
  rfl

theorem encodeChar_one (h : v < 0x80) : String.utf8EncodeChar (Char.ofNat v) = [UInt8.ofNat v] := by
  have hcode : (Char.ofNat v).toNat = v := toNat_ofNat_valid (.inl (by omega))
  rw [encodeChar_ascii (by omega), hcode]

theorem encodeChar_two (h : v.isValidChar) (hlow : 0x80 ≤ v) (hhigh : v < 0x800) :
    String.utf8EncodeChar (Char.ofNat v) = UInt8.ofNat (v / 64 + 0xC0) :: trails 1 v := by
  have hlead : v / 64 % 0x20 = v / 64 := Nat.mod_eq_of_lt (by omega)
  simp only [String.utf8EncodeChar, toNat_ofNat_valid h]
  rw [if_neg (by omega), if_pos (by omega), hlead]
  simp [trails, trail]

theorem encodeChar_three (h : v.isValidChar) (hlow : 0x800 ≤ v) (hhigh : v < 0x10000) :
    String.utf8EncodeChar (Char.ofNat v) = UInt8.ofNat (v / 4096 + 0xE0) :: trails 2 v := by
  have hlead : v / 4096 % 0x10 = v / 4096 := Nat.mod_eq_of_lt (by omega)
  simp only [String.utf8EncodeChar, toNat_ofNat_valid h]
  rw [if_neg (by omega), if_neg (by omega), if_pos (by omega), hlead]
  simp [trails, trail]

theorem encodeChar_four (h : v.isValidChar) (hlow : 0x10000 ≤ v) (hhigh : v < 0x110000) :
    String.utf8EncodeChar (Char.ofNat v) = UInt8.ofNat (v / 262144 + 0xF0) :: trails 3 v := by
  have hlead : v / 262144 % 0x08 = v / 262144 := Nat.mod_eq_of_lt (by omega)
  simp only [String.utf8EncodeChar, toNat_ofNat_valid h]
  rw [if_neg (by omega), if_neg (by omega), if_neg (by omega), hlead]
  simp [trails, trail]

end

/-! ## Within a character -/

/-- These bytes of a character have been read, and `n + 1` are missing. Every number that still fits is that
    of a character, and its bytes begin like this. -/
structure Begun (held : List UInt8) (n : Nat) (low high : UInt8) (value : Nat) : Prop where
  started : held ≠ []
  least : 0x80 ≤ low
  fits : low ≤ high
  most : high ≤ 0xBF
  form : ∀ v, v / 64 ^ (n + 1) = value → low ≤ trail (v / 64 ^ n) → trail (v / 64 ^ n) ≤ high →
    v.isValidChar ∧ String.utf8EncodeChar (Char.ofNat v) = held ++ trails (n + 1) v

/-- Where the reader stands after these bytes of a character. -/
inductive Stands : List UInt8 → Position → Prop
  | between : Stands [] .between
  | inside {held : List UInt8} {n : Nat} {low high : UInt8} {value : Nat} (h : Begun held n low high value) :
      Stands held (.inside (n + 1) low high value)

section

variable {held : List UInt8} {n value : Nat} {low high b : UInt8}

theorem Begun.completes (h : Begun held n low high value) :
    ∃ c v, String.utf8EncodeChar c = held ++ trails (n + 1) v := by
  -- its next byte is the least one that fits, and all lower bits are zero
  obtain ⟨htrail, hhead⟩ := trail_append h.least (UInt8.le_trans h.fits h.most) value
  have hbits : (value * 64 + (low.toNat - 0x80)) * 64 ^ n / 64 ^ n = value * 64 + (low.toNat - 0x80) :=
    Nat.mul_div_cancel _ (Nat.pow_pos (by decide))
  have hvalue : (value * 64 + (low.toNat - 0x80)) * 64 ^ n / 64 ^ (n + 1) = value := by
    rw [Nat.pow_succ, ← Nat.div_div_eq_div_mul, hbits, hhead]
  obtain ⟨-, hform⟩ := h.form _ hvalue (by rw [hbits, htrail]; exact UInt8.le_refl low)
    (by rw [hbits, htrail]; exact h.fits)
  exact ⟨_, _, hform⟩

theorem Begun.ends (h : Begun held 0 low high value) (hlow : low ≤ b) (hhigh : b ≤ high) :
    String.utf8EncodeChar (Char.ofNat (value * 64 + (b.toNat - 0x80))) = held ++ [b] := by
  obtain ⟨htrail, hhead⟩ := trail_append (UInt8.le_trans h.least hlow) (UInt8.le_trans hhigh h.most) value
  have hone : (value * 64 + (b.toNat - 0x80)) / 64 ^ 0 = value * 64 + (b.toNat - 0x80) := Nat.div_one _
  obtain ⟨-, hform⟩ := h.form _ hhead (by rw [hone, htrail]; exact hlow) (by rw [hone, htrail]; exact hhigh)
  rw [hform, trails, trails, hone, htrail]

theorem Begun.goes_on (h : Begun held (n + 1) low high value) (hlow : low ≤ b) (hhigh : b ≤ high) :
    Begun (held ++ [b]) n 0x80 0xBF (value * 64 + (b.toNat - 0x80)) := by
  obtain ⟨htrail, hhead⟩ := trail_append (UInt8.le_trans h.least hlow) (UInt8.le_trans hhigh h.most) value
  refine ⟨by simp, by decide, by decide, by decide, fun v hv _ _ => ?_⟩
  have hvalue : v / 64 ^ (n + 1 + 1) = value := by
    rw [Nat.pow_succ, ← Nat.div_div_eq_div_mul, hv, hhead]
  obtain ⟨hvalid, hform⟩ := h.form v hvalue (by rw [hv, htrail]; exact hlow) (by rw [hv, htrail]; exact hhigh)
  refine ⟨hvalid, ?_⟩
  rw [hform, trails, hv, htrail, List.append_assoc, List.singleton_append]

end

/-! ## First bytes -/

theorem begun_two {a : Nat} (hlow : 2 ≤ a) (hhigh : a < 0x20) : Begun [UInt8.ofNat (a + 0xC0)] 0 0x80 0xBF a := by
  refine ⟨by simp, by decide, by decide, by decide, fun v hv _ _ => ?_⟩
  have hlead : v / 64 = a := hv
  have hvalid : v.isValidChar := .inl (by omega)
  rw [encodeChar_two hvalid (by omega) (by omega), hlead, List.singleton_append]
  exact ⟨hvalid, rfl⟩

section

variable {a k m w : Nat} {x y : UInt8}

/-- The bounds that a second byte has after some first bytes are bounds of a byte after the first. -/
theorem second_bounds (hx : 0x80 ≤ x ∧ x ≤ 0xBF) (hy : 0x80 ≤ y ∧ y ≤ 0xBF) (hne : k ≠ m) :
    0x80 ≤ (if a = k then x else 0x80) ∧ (if a = k then x else 0x80) ≤ (if a = m then y else 0xBF) ∧
      (if a = m then y else 0xBF) ≤ 0xBF := by
  by_cases hk : a = k
  · rw [if_pos hk, if_neg fun hm => hne (hk.symm.trans hm)]
    exact ⟨hx.1, hx.2, by decide⟩
  · rw [if_neg hk]
    by_cases hm : a = m
    · rw [if_pos hm]
      exact ⟨by decide, hy.1, hy.2⟩
    · rw [if_neg hm]
      decide

theorem second_bits (hlow : (if a = k then x else 0x80) ≤ trail w) (hhigh : trail w ≤ if a = m then y else 0xBF) :
    (a = k → x.toNat ≤ w % 0x40 + 0x80) ∧ (a = m → w % 0x40 + 0x80 ≤ y.toNat) := by
  constructor
  · intro hk
    rwa [if_pos hk, UInt8.le_iff_toNat_le, toNat_trail] at hlow
  · intro hm
    rwa [if_pos hm, UInt8.le_iff_toNat_le, toNat_trail] at hhigh

/-- After the first of three bytes no shorter form fits, and no surrogate. -/
theorem begun_three (ha : a < 0x10) : Begun [UInt8.ofNat (a + 0xE0)] 1
    (if a = 0 then 0xA0 else 0x80) (if a = 0xD then 0x9F else 0xBF) a := by
  obtain ⟨hleast, hfits, hmost⟩ :=
    second_bounds (a := a) (k := 0) (m := 0xD) (x := 0xA0) (y := 0x9F) (by decide) (by decide) (by decide)
  refine ⟨by simp, hleast, hfits, hmost, fun v hv hlow hhigh => ?_⟩
  have hlead : v / 4096 = a := hv
  obtain ⟨hshorter, hsurrogate⟩ := second_bits hlow hhigh
  change a = 0 → 0xA0 ≤ v / 64 % 0x40 + 0x80 at hshorter
  change a = 0xD → v / 64 % 0x40 + 0x80 ≤ 0x9F at hsurrogate
  have hvalid : v.isValidChar := by
    change v < 0xD800 ∨ 0xDFFF < v ∧ v < 0x110000
    omega
  rw [encodeChar_three hvalid (by omega) (by omega), hlead, List.singleton_append]
  exact ⟨hvalid, rfl⟩

/-- After the first of four bytes no shorter form fits, and nothing above the last character. -/
theorem begun_four (ha : a < 5) : Begun [UInt8.ofNat (a + 0xF0)] 2
    (if a = 0 then 0x90 else 0x80) (if a = 4 then 0x8F else 0xBF) a := by
  obtain ⟨hleast, hfits, hmost⟩ :=
    second_bounds (a := a) (k := 0) (m := 4) (x := 0x90) (y := 0x8F) (by decide) (by decide) (by decide)
  refine ⟨by simp, hleast, hfits, hmost, fun v hv hlow hhigh => ?_⟩
  have hlead : v / 262144 = a := hv
  obtain ⟨hshorter, habove⟩ := second_bits hlow hhigh
  change a = 0 → 0x90 ≤ v / 4096 % 0x40 + 0x80 at hshorter
  change a = 4 → v / 4096 % 0x40 + 0x80 ≤ 0x8F at habove
  have hvalid : v.isValidChar := by
    change v < 0xD800 ∨ 0xDFFF < v ∧ v < 0x110000
    omega
  rw [encodeChar_four hvalid (by omega) (by omega), hlead, List.singleton_append]
  exact ⟨hvalid, rfl⟩

end

theorem first_of_none : ∀ n < 0x100, 0x80 ≤ n ∧ n < 0xC2 ∨ 0xF5 ≤ n →
    first (UInt8.ofNat n) = (.between, [none]) := by
  decide +kernel

/-! ## Reading on -/

/-- What a byte is after these bytes of a character, by where the reader stands then and what it gives. -/
inductive Takes (held : List UInt8) (b : UInt8) : Position × List Symbol → Prop
  | more (p : Position) (h : Stands (held ++ [b]) p) : Takes held b (p, [])
  | character (c : Char) (h : String.utf8EncodeChar c = held ++ [b]) : Takes held b (.between, [some c])
  | malformed (p : Position) (out : List Symbol) (h : none ∈ out) : Takes held b (p, out)

theorem first_takes (b : UInt8) : Takes [] b (first b) := by
  have hbyte : b.toNat < 0x100 := UInt8.toNat_lt b
  -- the byte by its number, and by what its number is above the least one of its class
  have hb : UInt8.ofNat b.toNat = b := UInt8.ofNat_toNat
  have habove : ∀ k, k ≤ b.toNat → UInt8.ofNat (b.toNat - k + k) = b := by
    intro k hk
    rw [Nat.sub_add_cancel hk, hb]
  by_cases hone : b.toNat < 0x80
  · rw [← hb, first_of_one hone]
    exact .character _ (encodeChar_one hone)
  by_cases htwo : 0xC2 ≤ b.toNat ∧ b.toNat < 0xE0
  · rw [← habove 0xC0 (by omega), first_of_two _ (by omega) (by omega)]
    exact .more _ (.inside (begun_two (by omega) (by omega)))
  by_cases hthree : 0xE0 ≤ b.toNat ∧ b.toNat < 0xF0
  · rw [← habove 0xE0 (by omega), first_of_three _ (by omega)]
    exact .more _ (.inside (begun_three (by omega)))
  by_cases hfour : 0xF0 ≤ b.toNat ∧ b.toNat < 0xF5
  · rw [← habove 0xF0 (by omega), first_of_four _ (by omega)]
    exact .more _ (.inside (begun_four (by omega)))
  · rw [← hb, first_of_none _ hbyte (by omega)]
    exact .malformed _ _ (by simp)

theorem next_takes {held : List UInt8} {p : Position} (h : Stands held p) (b : UInt8) : Takes held b (next p b) := by
  cases h with
  | between => exact first_takes b
  | @inside _ n low high value h =>
    rw [next]
    by_cases hb : low ≤ b ∧ b ≤ high
    · rw [if_pos hb]
      cases n with
      | zero => exact .character _ (h.ends hb.1 hb.2)
      | succ n => exact .more _ (.inside (h.goes_on hb.1 hb.2))
    · rw [if_neg hb]
      exact .malformed _ _ (by simp)

/-- Where the reader stands after bytes, and what it has given for them. -/
def readOn (p : Position) (bs : List UInt8) : Position × List Symbol :=
  ((decoder.feed (p, #[]) bs).1, (decoder.feed (p, #[]) bs).2.toList)

theorem readOn_cons (p : Position) (b : UInt8) (bs : List UInt8) :
    readOn p (b :: bs) = ((readOn (next p b).1 bs).1, (next p b).2 ++ (readOn (next p b).1 bs).2) := by
  have hcons := decoder.feed_cons p b bs
  have hstands := congrArg Prod.fst hcons
  have hout := congrArg (fun r => r.2.toList) hcons
  refine Prod.ext hstands (hout.trans ?_)
  exact Array.toList_append

theorem readFrom_append (p : Position) (bs bs' : List UInt8) :
    readFrom p (bs ++ bs') = (readOn p bs).2 ++ readFrom (readOn p bs).1 bs' :=
  decoder.outputFrom_append p bs bs'

/-- Bytes of which none is malformed are characters, and then the beginning of one. -/
theorem readOn_takes {held : List UInt8} {p : Position} (h : Stands held p) (bs : List UInt8)
    (hgood : none ∉ (readOn p bs).2) :
    ∃ cs left, held ++ bs = encode cs ++ left ∧ Stands left (readOn p bs).1 ∧ (readOn p bs).2 = cs.map some := by
  induction bs generalizing held p with
  | nil => exact ⟨[], held, List.append_nil held, h, rfl⟩
  | cons b bs ih =>
    rw [readOn_cons] at hgood ⊢
    have htakes := next_takes h b
    generalize next p b = r at hgood htakes ⊢
    cases htakes with
    | more p' h' =>
      obtain ⟨cs, left, hbytes, hleft, hout⟩ := ih h' hgood
      refine ⟨cs, left, ?_, hleft, hout⟩
      rw [← hbytes, List.append_assoc, List.singleton_append]
    | character c hc =>
      obtain ⟨cs, left, hbytes, hleft, hout⟩ := ih .between fun hmem => hgood (List.mem_cons_of_mem _ hmem)
      refine ⟨c :: cs, left, ?_, hleft, congrArg (some c :: ·) hout⟩
      rw [encode_cons, hc, List.append_assoc, List.append_assoc, List.singleton_append, ← hbytes, List.nil_append]
    | malformed p' out hmem => exact absurd (List.mem_append_left _ hmem) hgood

/-! ## Bytes that are read as a text -/

theorem readFrom_encode_append (cs : List Char) (bs : List UInt8) :
    readFrom .between (encode cs ++ bs) = cs.map some ++ readFrom .between bs := by
  induction cs with
  | nil => rfl
  | cons c cs ih => rw [encode_cons, List.append_assoc, readFrom_encodeChar, ih, List.map_cons, List.cons_append]

theorem encode_of_readFrom {bs : List UInt8} {cs : List Char} (h : readFrom .between bs = cs.map some) :
    encode cs = bs := by
  have hall : none ∉ readFrom .between bs := by
    rw [h]
    simp
  have happend := readFrom_append .between bs []
  rw [List.append_nil, readFrom_nil] at happend
  rw [happend, List.mem_append, not_or] at hall
  obtain ⟨cs', left, hbytes, hleft, hout⟩ := readOn_takes .between bs hall.1
  cases hp : (readOn .between bs).1 with
  | inside n low high value =>
    -- the bytes would end within a character
    rw [hp] at hall
    exact absurd List.mem_cons_self hall.2
  | between =>
    rw [hp] at hleft
    cases hleft
    rw [happend, hout, hp] at h
    have hsame : cs' = cs := (List.map_inj_right fun _ _ => Option.some.inj).mp ((List.append_nil _).symm.trans h)
    rw [List.nil_append, List.append_nil, hsame] at hbytes
    exact hbytes.symm

theorem symbols_of_mapM {symbols : List Symbol} {cs : List Char} (h : symbols.mapM id = some cs) :
    symbols = cs.map some := by
  induction symbols generalizing cs with
  | nil =>
    cases h
    rfl
  | cons symbol symbols ih =>
    rw [List.mapM_cons] at h
    obtain ⟨c, hc, hrest⟩ := Option.bind_eq_some_iff.mp h
    obtain ⟨cs', hcs, hcons⟩ := Option.bind_eq_some_iff.mp hrest
    cases hcons
    rw [List.map_cons, ← ih hcs]
    exact congrArg (· :: symbols) hc

theorem decode?_eq_some_iff {bs : List UInt8} {cs : List Char} : decode? bs = some cs ↔ encode cs = bs := by
  constructor
  · intro h
    exact encode_of_readFrom (symbols_of_mapM h)
  · rintro rfl
    exact decode?_encode cs

theorem IsText.rest {cs : List Char} {bs : List UInt8} (h : IsText (encode cs ++ bs)) : IsText bs := by
  obtain ⟨ds, hds⟩ := h
  have hrun : readFrom .between (encode ds) = ds.map some := run_encode ds
  rw [hds, readFrom_encode_append] at hrun
  obtain ⟨-, rest, -, -, hrest⟩ := List.append_eq_map_iff.mp hrun
  exact ⟨rest, encode_of_readFrom hrest.symm⟩

theorem encodeChar_starts {c d : Char} (h : String.utf8EncodeChar d <+: String.utf8EncodeChar c) : d = c := by
  obtain ⟨bs, hbs⟩ := h
  have hc := readFrom_encodeChar c []
  rw [← hbs, List.append_assoc, readFrom_encodeChar] at hc
  exact Option.some.inj (List.cons.inj hc).1

/-- A text whose last character is cut is no other text. -/
theorem IsCut.not_isText {bs : List UInt8} (h : IsCut bs) : ¬IsText bs := by
  obtain ⟨cs, c, n, hpos, hlt, rfl⟩ := h
  intro htext
  have hsize := String.length_utf8EncodeChar c
  obtain ⟨rest, hcut⟩ := htext.rest
  cases rest with
  | nil =>
    have hlength := congrArg List.length hcut
    rw [List.length_take, hsize] at hlength
    change 0 = _ at hlength
    omega
  | cons d rest =>
    -- what is left of the character would begin with another one, which can only be itself
    rw [encode_cons] at hcut
    have hstarts : String.utf8EncodeChar d <+: String.utf8EncodeChar c :=
      (List.prefix_append _ (encode rest)).trans (hcut ▸ List.take_prefix n _)
    obtain rfl := encodeChar_starts hstarts
    have hlength := congrArg List.length hcut
    rw [List.length_append, List.length_take, hsize] at hlength
    omega

theorem not_isText_of_first {b : UInt8} {bs : List UInt8} (h : none ∈ (first b).2) : ¬IsText (b :: bs) := by
  rintro ⟨cs, hcs⟩
  have hrun : readFrom .between (encode cs) = cs.map some := run_encode cs
  rw [hcs, readFrom_cons] at hrun
  have hmem : none ∈ cs.map some := by
    rw [← hrun]
    exact List.mem_append_left _ h
  simp at hmem

/-! ## Bytes that can be completed -/

theorem isOpening_of_isText {bs tail : List UInt8} (h : IsText (bs ++ tail)) : isOpening bs = true := by
  obtain ⟨cs, hcs⟩ := h
  have hrun : readFrom .between (encode cs) = cs.map some := run_encode cs
  rw [hcs, readFrom_append] at hrun
  change (readOn .between bs).2.all Option.isSome = true
  rw [List.all_eq_true]
  intro s hs
  have hmem : s ∈ cs.map some := by
    rw [← hrun]
    exact List.mem_append_left _ hs
  obtain ⟨c, -, rfl⟩ := List.mem_map.mp hmem
  rfl

theorem isOpening_iff (bs : List UInt8) : isOpening bs = true ↔ IsText bs ∨ IsCut bs := by
  constructor
  · intro h
    have hgood : none ∉ (readOn .between bs).2 := fun hmem => by
      have := List.all_eq_true.mp h none hmem
      cases this
    obtain ⟨cs, left, hbytes, hleft, -⟩ := readOn_takes .between bs hgood
    rw [List.nil_append] at hbytes
    generalize (readOn .between bs).1 = p at hleft
    cases hleft with
    | between => exact .inl ⟨cs, by rw [hbytes, List.append_nil]⟩
    | inside hbegun =>
      obtain ⟨c, v, hc⟩ := hbegun.completes
      have hsize := String.length_utf8EncodeChar c
      rw [hc, List.length_append, trails, List.length_cons] at hsize
      refine .inr ⟨cs, c, left.length, List.length_pos_iff.mpr hbegun.started, by omega, ?_⟩
      rw [hc, List.take_left', hbytes]
      rfl
  · rintro (h | h)
    · rw [← List.append_nil bs] at h
      exact isOpening_of_isText h
    · obtain ⟨tail, -, -, htext⟩ := h.completed
      exact isOpening_of_isText htext

theorem isOpening_iff_completed (bs : List UInt8) :
    isOpening bs = true ↔ IsText bs ∨ ∃ tail, 1 ≤ tail.length ∧ tail.length ≤ 3 ∧ IsText (bs ++ tail) := by
  constructor
  · intro h
    rcases (isOpening_iff bs).mp h with htext | hcut
    · exact .inl htext
    · exact .inr hcut.completed
  · rintro (h | ⟨tail, -, -, h⟩)
    · exact (isOpening_iff bs).mpr (.inl h)
    · exact isOpening_of_isText h

end Intake.Text.Utf8
