/-
  Intake.Proofs.Sql.Parameters — SQL text with parameters, as the server takes it apart.

  Besides words, names, constants and punctuation, a statement that is prepared holds parameters by
  their position (`$1`) and conversions (`::`). A position ends where the digits end, and no word may
  begin there. A text without either gives the same tokens as before (`parts_of_tokens`).
-/

import Intake.Proofs.Sql.Tokens

namespace Intake.Sql

inductive Part where
  | token (t : Token)
  | parameter (position : Nat)
  /-- The sign for a conversion, before the type. -/
  | cast
  deriving DecidableEq, Repr

def readParameter : List Char → Option (Part × List Char)
  | '$' :: cs =>
    let digits := cs.takeWhile Char.isDigit
    let rest := cs.dropWhile Char.isDigit
    if digits = [] ∨ rest.head?.any continuesWord then none
    else some (.parameter (Nat.ofDigitChars 10 digits 0), rest)
  | ':' :: ':' :: rest => some (.cast, rest)
  | _ => none

def readPart (text : List Char) : Option (Part × List Char) :=
  match readToken text with
  | some (t, rest) => some (.token t, rest)
  | none => readParameter text

theorem readParameter_shorter {text rest : List Char} {p : Part} (h : readParameter text = some (p, rest)) :
    rest.length < text.length := by
  unfold readParameter at h
  split at h
  · rename_i cs
    dsimp only at h
    split at h
    · cases h
    · cases h
      exact Nat.lt_succ_of_le (List.dropWhile_suffix Char.isDigit).length_le
  · cases h
    simp only [List.length_cons]
    omega
  · cases h

theorem readPart_shorter {text rest : List Char} {p : Part} (h : readPart text = some (p, rest)) :
    rest.length < text.length := by
  unfold readPart at h
  split at h
  · rename_i ht
    cases h
    exact readToken_shorter ht
  · exact readParameter_shorter h

/-- All parts of a text; none if some of it is no part. -/
def parts : List Char → Option (List Part)
  | [] => some []
  | c :: cs =>
    if isGap c then parts cs
    else
      match _h : readPart (c :: cs) with
      | none => none
      | some (p, rest) => (parts rest).map (p :: ·)
termination_by text => text.length
decreasing_by
  · exact Nat.lt_succ_self _
  · exact readPart_shorter _h

theorem parts_gap {c : Char} (h : isGap c = true) (rest : List Char) : parts (c :: rest) = parts rest := by
  rw [parts, if_pos h]

theorem parts_part {c : Char} {cs rest : List Char} {p : Part} (hc : isGap c = false)
    (h : readPart (c :: cs) = some (p, rest)) : parts (c :: cs) = (parts rest).map (p :: ·) := by
  rw [parts, if_neg (by simp [hc])]
  split
  · rename_i h'; rw [h] at h'; cases h'
  · rename_i h'; rw [h] at h'; cases h'; rfl

theorem readPart_token {text rest : List Char} {t : Token} (h : readToken text = some (t, rest)) :
    readPart text = some (.token t, rest) := by
  rw [readPart, h]

/-- A text that is all tokens has the same parts. -/
theorem parts_of_tokens {text : List Char} {ts : List Token} (h : tokens text = some ts) :
    parts text = some (ts.map .token) := by
  fun_induction tokens text generalizing ts with
  | case1 =>
    cases h
    rw [parts]
    rfl
  | case2 c cs hc ih => rw [parts_gap hc, ih h]
  | case3 c cs hc hread => cases h
  | case4 c cs hc t rest hread ih =>
    obtain ⟨us, hus, rfl⟩ := Option.map_eq_some_iff.mp h
    rw [parts_part (Bool.eq_false_iff.mpr hc) (readPart_token hread), ih hus]
    rfl

/-! ## Pieces of text -/

/-- The text gives these parts wherever what follows it is as `ok` says. -/
def PartsAs (ok : List Char → Prop) (text : List Char) (ps : List Part) : Prop := Yields parts ok text ps

theorem endsWord_colon (rest : List Char) : EndsWord (':' :: rest) := by
  intro c hc
  cases hc
  decide

section

variable {ok ok' : List Char → Prop} {a b text : List Char} {ps qs : List Part}

theorem PartsAs.append (ha : PartsAs ok a ps) (hb : PartsAs ok' b qs) (h : ∀ rest, ok' rest → ok (b ++ rest)) :
    PartsAs ok' (a ++ b) (ps ++ qs) :=
  Yields.append ha hb h

theorem PartsAs.all (h : PartsAs ok text ps) (hok : ok []) : parts text = some ps := by
  simpa [parts] using h [] hok

theorem parts_reads {c : Char} {cs : List Char} {p : Part} (hc : isGap c = false)
    (h : ∀ rest, ok rest → readPart (c :: (cs ++ rest)) = some (p, rest)) : PartsAs ok (c :: cs) [p] := by
  intro rest hr
  exact parts_part hc (h rest hr)

theorem parts_sign {c : Char} (h : isSign c = true) : PartsAs Any [c] [.token (.sign c)] :=
  parts_reads (sign_no_word h).2 fun rest _ => readPart_token (readToken_sign h rest)

theorem parts_word {w : String} (h : isWord w.toList = true) : PartsAs EndsWord w.toList [.token (.word w)] := by
  cases hw : w.toList with
  | nil => simp [hw, isWord] at h
  | cons c cs =>
    rw [hw] at h
    rw [← String.ofList_toList (s := w), hw]
    exact parts_reads (word_no_gap h) fun rest hr => readPart_token (readToken_word h hr)

theorem parts_name (n : String) : PartsAs Apart (Identifier.quoted n).toList [.token (.name n)] := by
  rw [Identifier.toList_quoted]
  exact parts_reads (by decide) fun rest hr => readPart_token (hr.name n)

theorem parts_cast : PartsAs Any [':', ':'] [.cast] :=
  parts_reads (by decide) fun _ _ => rfl

theorem PartsAs.gap (h : PartsAs ok text ps) : PartsAs ok (' ' :: text) ps := by
  intro rest hr
  rw [List.cons_append, parts_gap (by decide)]
  exact h rest hr

theorem PartsAs.sign {c : Char} (hc : isSign c = true) (h : PartsAs ok text ps) :
    PartsAs ok (c :: text) (.token (.sign c) :: ps) :=
  (parts_sign hc).append h fun _ _ => trivial

theorem PartsAs.cast (h : PartsAs ok text ps) : PartsAs ok (':' :: ':' :: text) (.cast :: ps) :=
  parts_cast.append h fun _ _ => trivial

theorem PartsAs.mono (h : PartsAs ok text ps) (hok : ∀ rest, ok' rest → ok rest) : PartsAs ok' text ps :=
  fun rest hr => h rest (hok rest hr)

theorem PartsAs.spaced (ha : PartsAs Apart a ps) (hb : PartsAs ok b qs) : PartsAs ok (a ++ ' ' :: b) (ps ++ qs) :=
  ha.append hb.gap fun _ _ => apart_gap (by decide) _

theorem PartsAs.converted (ha : PartsAs EndsWord a ps) (hb : PartsAs ok b qs) :
    PartsAs ok (a ++ ':' :: ':' :: b) (ps ++ .cast :: qs) :=
  ha.append hb.cast fun _ _ => endsWord_colon _

theorem PartsAs.signed {c : Char} (hc : isSign c = true) (ha : PartsAs Apart a ps) (hb : PartsAs ok b qs) :
    PartsAs ok (a ++ c :: b) (ps ++ .token (.sign c) :: qs) :=
  ha.append (hb.sign hc) fun _ _ => apart_sign hc _

theorem PartsAs.listed {texts : List (List Char)} {pss : List (List Part)}
    (h : List.Forall₂ (PartsAs Apart) texts pss) :
    PartsAs Apart ([',', ' '].intercalate texts) ([Part.token (.sign ',')].intercalate pss) := by
  have hgap : PartsAs Any [' '] [] := by
    intro rest _
    simp [parts_gap (c := ' ') (by decide)]
  have hcomma : PartsAs Any [',', ' '] [.token (.sign ',')] := hgap.sign (by decide)
  have hparts : List.Forall₂ (Yields parts Apart) texts pss := h
  exact Yields.listed hcomma (fun _ => apart_sign (by decide) _) hparts

end

/-! ## Parameters -/

theorem takeWhile_digits {digits rest : List Char} (hdigits : ∀ c ∈ digits, c.isDigit = true) (hr : EndsWord rest) :
    (digits ++ rest).takeWhile Char.isDigit = digits ∧ (digits ++ rest).dropWhile Char.isDigit = rest := by
  have h : rest.takeWhile Char.isDigit = [] ∧ rest.dropWhile Char.isDigit = rest := by
    cases rest with
    | nil => simp
    | cons d rest =>
      have hd : d.isDigit = false := by
        have hword := (hr d rfl).1
        simp only [continuesWord, Bool.or_eq_false_iff] at hword
        exact hword.1.2
      simp [hd]
  rw [List.takeWhile_append_of_pos hdigits, List.dropWhile_append_of_pos hdigits, h.1, h.2]
  simp

/-- A position as it is written is read as that position. -/
theorem parts_parameter (n : Nat) : PartsAs EndsWord ('$' :: (toString n).toList) [.parameter n] := by
  refine parts_reads (by decide) fun rest hr => ?_
  rw [Nat.toString_eq_repr, Nat.toList_repr]
  have hdigits : ∀ c ∈ Nat.toDigits 10 n, c.isDigit = true := fun c hc =>
    Nat.isDigit_of_mem_toDigits (by decide) (by decide) hc
  obtain ⟨htake, hdrop⟩ := takeWhile_digits hdigits hr
  have hend : rest.head?.any continuesWord = false := by
    cases rest with
    | nil => rfl
    | cons d rest => simpa using (hr d rfl).1
  have hsome : Nat.toDigits 10 n ≠ [] := Nat.toDigits_ne_nil
  have htoken : readToken ('$' :: (Nat.toDigits 10 n ++ rest)) = none := by
    simp [readToken, isOtherConstant, beginsWord, isSign]
  simp only [readPart, htoken, readParameter, htake, hdrop, hend, hsome, Nat.ofDigitChars_ten_toDigits]
  simp

end Intake.Sql
