/-
  Intake.Proofs.Charset.Inspect — which bytes of a file are inspected as text.

  A file is inspected without a mark at its start, whichever it is, and without a mark of its own
  encoding after that one. What remains is read as any bytes are. So what is inspected is the file
  less its own mark unless it starts with another encoding's, or with its own twice: there more is
  dropped than the mark.

  Proved:
  - `run_headless`, `run_markless`: what the removal of a mark makes of a text that is read byte by byte.
  - `inspect_eq`: the text of a file is that of the bytes after `strippedLength`.
  - `strippedLength_eq_iff`: where this is the length of the file's own mark.
  - `run_converter`: a file that is converted byte by byte becomes its text in UTF-8.
-/

import Intake.Charset.Decoder
import Intake.Proofs.Charset.Mark
import Intake.Proofs.Text.Machine

namespace Intake.Charset

/-! ## Removing a mark byte by byte -/

/-- What the removal makes of bytes, with these held back. -/
def headlessFrom (held : Option (List UInt8)) (bytes : List UInt8) : List UInt8 := headless.outputFrom held bytes

theorem headlessFrom_after (bytes : List UInt8) : headlessFrom none bytes = bytes := by
  induction bytes with
  | nil => exact headless.outputFrom_nil none
  | cons b bytes ih => exact (headless.outputFrom_cons none b bytes).trans (congrArg (b :: ·) ih)

theorem headlessFrom_cons {head : List UInt8} (b : UInt8) (bytes : List UInt8) :
    headlessFrom (some head) (b :: bytes) =
      if (head ++ [b]).length < headLength then headlessFrom (some (head ++ [b])) bytes
      else (head ++ [b]).drop (markLength (head ++ [b])) ++ bytes := by
  have hcons := headless.outputFrom_cons (some head) b bytes
  by_cases hshort : (head ++ [b]).length < headLength
  · have hstep : headless.step (some head) b = (some (head ++ [b]), []) := if_pos hshort
    rw [hstep] at hcons
    rw [if_pos hshort]
    exact hcons
  · have hstep : headless.step (some head) b = (none, (head ++ [b]).drop (markLength (head ++ [b]))) := if_neg hshort
    rw [hstep] at hcons
    rw [if_neg hshort]
    exact hcons.trans (congrArg _ (headlessFrom_after bytes))

/-- What is held back is the beginning of the text, and shorter than a head. -/
theorem headlessFrom_held {head : List UInt8} (hshort : head.length < headLength) (bytes : List UInt8) :
    headlessFrom (some head) bytes =
      ((head ++ bytes).take headLength).drop (markLength ((head ++ bytes).take headLength)) ++
        (head ++ bytes).drop headLength := by
  induction bytes generalizing head with
  | nil =>
    have hnil := headless.outputFrom_nil (some head)
    have hle : head.length ≤ headLength := Nat.le_of_lt hshort
    rw [List.append_nil, List.take_of_length_le hle, List.drop_of_length_le hle, List.append_nil]
    exact hnil
  | cons b bytes ih =>
    have hmore : head ++ b :: bytes = (head ++ [b]) ++ bytes := List.append_cons head b bytes
    rw [headlessFrom_cons, hmore]
    by_cases hnext : (head ++ [b]).length < headLength
    · rw [if_pos hnext, ih hnext]
    · have hfull : (head ++ [b]).length = headLength := by
        rw [List.length_append, List.length_singleton] at hnext ⊢
        omega
      rw [if_neg hnext, List.take_left' hfull, List.drop_left' hfull]

theorem run_headless (bytes : List UInt8) : headless.run bytes = bytes.drop (markLength bytes) := by
  have hheld : headless.run bytes =
      (bytes.take headLength).drop (markLength (bytes.take headLength)) ++ bytes.drop headLength :=
    headlessFrom_held (by decide) bytes
  rw [hheld, drop_mark_head]

section

variable (mark : List UInt8)

/-- What the removal of a known mark makes of bytes, with these held back. -/
def marklessFrom (held : Option (List UInt8)) (bytes : List UInt8) : List UInt8 :=
  (markless mark).outputFrom held bytes

theorem marklessFrom_after (bytes : List UInt8) : marklessFrom mark none bytes = bytes := by
  induction bytes with
  | nil => exact (markless mark).outputFrom_nil none
  | cons b bytes ih => exact ((markless mark).outputFrom_cons none b bytes).trans (congrArg (b :: ·) ih)

variable {mark}

/-- What is held back is a part of the mark, and a byte that does not go on with it lets all of it out. -/
theorem marklessFrom_held {head : List UInt8} (hpart : head <+: mark) (hless : head ≠ mark) (bytes : List UInt8) :
    marklessFrom mark (some head) bytes =
      if mark <+: head ++ bytes then (head ++ bytes).drop mark.length else head ++ bytes := by
  induction bytes generalizing head with
  | nil =>
    have hnot : ¬mark <+: head := fun h => hless (hpart.eq_of_length_le h.length_le)
    rw [List.append_nil, if_neg hnot]
    exact (markless mark).outputFrom_nil (some head)
  | cons b bytes ih =>
    have hcons := (markless mark).outputFrom_cons (some head) b bytes
    have hmore : head ++ b :: bytes = (head ++ [b]) ++ bytes := List.append_cons head b bytes
    rw [hmore]
    by_cases hwhole : head ++ [b] = mark
    · have hstep : (markless mark).step (some head) b = (none, []) := if_pos hwhole
      rw [hstep] at hcons
      rw [hwhole, if_pos (List.prefix_append _ _), List.drop_left]
      exact hcons.trans (marklessFrom_after mark bytes)
    by_cases hnext : head ++ [b] <+: mark
    · have hstep : (markless mark).step (some head) b = (some (head ++ [b]), []) :=
        (if_neg hwhole).trans (if_pos (List.isPrefixOf_iff_prefix.mpr hnext))
      rw [hstep] at hcons
      exact hcons.trans (ih hnext hwhole)
    · have hstep : (markless mark).step (some head) b = (none, head ++ [b]) :=
        (if_neg hwhole).trans (if_neg fun h => hnext (List.isPrefixOf_iff_prefix.mp h))
      have hnot : ¬mark <+: (head ++ [b]) ++ bytes := by
        intro hmark
        refine hnext (List.prefix_of_prefix_length_le (List.prefix_append _ _) hmark ?_)
        have hshort : head.length ≠ mark.length := fun h => hless (hpart.eq_of_length h)
        have hle := hpart.length_le
        rw [List.length_append, List.length_singleton]
        omega
      rw [hstep] at hcons
      rw [if_neg hnot]
      exact hcons.trans (congrArg _ (marklessFrom_after mark bytes))

theorem marklessFrom_nil (bytes : List UInt8) : marklessFrom [] (some []) bytes = bytes := by
  cases bytes with
  | nil => exact (markless []).outputFrom_nil (some [])
  | cons b bytes =>
    exact ((markless []).outputFrom_cons (some []) b bytes).trans (congrArg (b :: ·) (marklessFrom_after [] bytes))

end

theorem run_markless (c : Charset) (bytes : List UInt8) :
    (markless c.mark).run bytes = bytes.drop (c.ownMarkLength bytes) := by
  rw [ownMarkLength_eq]
  change marklessFrom c.mark (some []) bytes = _
  by_cases hnone : c.mark = []
  · rw [hnone, marklessFrom_nil, List.length_nil, ite_self, List.drop_zero]
  · rw [marklessFrom_held List.nil_prefix fun h => hnone h.symm, List.nil_append]
    split
    · rfl
    · rw [List.drop_zero]

/-! ## What is inspected -/

/-- How many bytes are dropped at the start of a file that is inspected: a mark, whichever it is, and
    after it one of the file's own encoding. -/
def strippedLength (c : Charset) (bytes : List UInt8) : Nat :=
  markLength bytes + c.ownMarkLength (bytes.drop (markLength bytes))

theorem run_inspector [Codecs] (c : Charset) (bytes : List UInt8) :
    c.inspector.run bytes = c.decoder.run (bytes.drop (c.strippedLength bytes)) := by
  rw [inspector, Text.Machine.run_andThen, Text.Machine.run_andThen, run_headless, run_markless,
    List.drop_drop, strippedLength]

theorem inspect_eq [Codecs] (c : Charset) (bytes : List UInt8) :
    c.inspect bytes = c.decode (bytes.drop (c.strippedLength bytes)) := by
  rw [inspect, run_inspector, decode]

/-- The file starts with no mark, or with its own and not with another one of its own after it. -/
def OwnMarkOnly (c : Charset) (bytes : List UInt8) : Prop :=
  marked? bytes = none ∨ marked? bytes = some c ∧ marked? (bytes.drop c.mark.length) ≠ some c

instance (c : Charset) (bytes : List UInt8) : Decidable (c.OwnMarkOnly bytes) :=
  inferInstanceAs (Decidable (_ ∨ _))

theorem strippedLength_eq_iff {c : Charset} {bytes : List UInt8} :
    c.strippedLength bytes = c.ownMarkLength bytes ↔ c.OwnMarkOnly bytes := by
  rw [strippedLength, OwnMarkOnly, markLength]
  cases hmarked : marked? bytes with
  | none => simp [ownMarkLength, hmarked]
  | some d =>
    have hpos := length_mark_ge hmarked
    simp only [reduceCtorEq, Option.some.injEq, false_or]
    by_cases hown : d = c
    · -- its own mark is the one that counts, so nothing may come after it
      obtain rfl := hown
      rw [ownMarkLength, ownMarkLength, if_pos hmarked]
      by_cases htwice : marked? (bytes.drop d.mark.length) = some d
      · rw [if_pos htwice]
        simp only [htwice, ne_eq, not_true_eq_false, and_false, iff_false]
        omega
      · rw [if_neg htwice]
        simp [htwice]
    · -- the mark of another encoding is dropped although it does not count
      have hne : marked? bytes ≠ some c := fun h => hown (Option.some.inj (hmarked.symm.trans h))
      simp only [ownMarkLength, if_neg hne, hown, false_and, iff_false]
      omega

/-! ## Conversion -/

theorem run_writer (symbols : List Text.Symbol) : writer.run symbols = Text.Utf8.encode (legible symbols) := by
  change writer.outputFrom () symbols = _
  induction symbols with
  | nil => rfl
  | cons symbol symbols ih =>
    refine (writer.outputFrom_cons () symbol symbols).trans ?_
    rw [legible, List.map_cons, Text.Utf8.encode, List.flatMap_cons]
    exact congrArg _ ih

theorem run_converter [Codecs] (c : Charset) (bytes : List UInt8) : c.converter.run bytes = c.inspectBytes bytes := by
  rw [converter, Text.Machine.run_andThen, run_writer]
  rfl

end Intake.Charset
