/-
  Intake.Proofs.Sql.Tokens — SQL text as the server takes it apart.

  A text is a row of words, names between double quotes, string constants and punctuation, with
  white space between them. Words are kept as they are written, names and constants as what they
  stand for. Everything else a statement can hold (operators, numbers, comments, other kinds of
  constants) is refused, so a text that is taken apart holds none of it.

  A piece of text is described by the tokens it gives and by what may follow it (`ReadsAs`), since
  a word or a constant goes on as long as the text lets it. Pieces are put together with
  `ReadsAs.append` and `ReadsAs.listed`.
-/

import Intake.Proofs.Sql.Quoting
import Intake.Proofs.Sql.Scanning

namespace Intake.Sql

inductive Token where
  | word (written : String)
  | name (value : String)
  | constant (value : String)
  | sign (c : Char)
  deriving DecidableEq, Repr

namespace Token

def word? : Token → Option String
  | word written => some written
  | _ => none

def name? : Token → Option String
  | name value => some value
  | _ => none

def constant? : Token → Option String
  | constant value => some value
  | _ => none

/-- The token without what stands between its quotes. -/
def outline : Token → Token
  | name _ => name ""
  | constant _ => constant ""
  | t => t

end Token

def isGap (c : Char) : Bool := [' ', '\t', '\n', '\x0b', '\x0c', '\r'].contains c

def isSign (c : Char) : Bool := ['(', ')', ',', '.', ';'].contains c

/-- Letters, and every character that is not ASCII. -/
def beginsWord (c : Char) : Bool := c.isAlpha || c = '_' || '\x80' ≤ c

def continuesWord (c : Char) : Bool := beginsWord c || c.isDigit || c = '$'

/-- Letters that make the constant behind them one of bits or of another character set. -/
def isOtherConstant (c : Char) : Bool := ['B', 'b', 'N', 'n', 'X', 'x'].contains c

def readToken : List Char → Option (Token × List Char)
  | [] => none
  | c :: cs =>
    if c = '\"' then (readMarked '\"' cs).map fun f => (.name (String.ofList f.1), f.2)
    else if c = '\x27' then (readMarked '\x27' cs).map fun f => (.constant (String.ofList f.1), f.2)
    else if (c = 'E' ∨ c = 'e') ∧ cs.head? = some '\x27' then
      (readEscaped cs.tail).map fun f => (.constant (String.ofList f.1), f.2)
    else if isOtherConstant c ∧ cs.head? = some '\x27' then none
    else if beginsWord c then
      some (.word (String.ofList (c :: cs.takeWhile continuesWord)), cs.dropWhile continuesWord)
    else if isSign c then some (.sign c, cs)
    else none

theorem readToken_shorter {text rest : List Char} {t : Token} (h : readToken text = some (t, rest)) :
    rest.length < text.length := by
  cases text with
  | nil => cases h
  | cons c cs =>
    simp only [readToken] at h
    split at h
    · obtain ⟨f, hf, he⟩ := Option.map_eq_some_iff.mp h
      cases he
      exact Nat.lt_succ_of_lt (readMarked_shorter hf)
    split at h
    · obtain ⟨f, hf, he⟩ := Option.map_eq_some_iff.mp h
      cases he
      exact Nat.lt_succ_of_lt (readMarked_shorter hf)
    split at h
    · obtain ⟨f, hf, he⟩ := Option.map_eq_some_iff.mp h
      cases he
      have := readEscaped_shorter hf
      simp only [List.length_tail, List.length_cons] at this ⊢
      omega
    split at h
    · cases h
    split at h
    · cases h
      exact Nat.lt_succ_of_le (List.dropWhile_suffix continuesWord).length_le
    split at h
    · cases h
      exact Nat.lt_succ_self _
    · cases h

/-- All tokens of a text; none if some of it is no token. -/
def tokens : List Char → Option (List Token)
  | [] => some []
  | c :: cs =>
    if isGap c then tokens cs
    else
      match _h : readToken (c :: cs) with
      | none => none
      | some (t, rest) => (tokens rest).map (t :: ·)
termination_by text => text.length
decreasing_by
  · exact Nat.lt_succ_self _
  · exact readToken_shorter _h

theorem tokens_gap {c : Char} (h : isGap c = true) (rest : List Char) :
    tokens (c :: rest) = tokens rest := by
  rw [tokens, if_pos h]

theorem tokens_token {c : Char} {cs rest : List Char} {t : Token} (hc : isGap c = false)
    (h : readToken (c :: cs) = some (t, rest)) : tokens (c :: cs) = (tokens rest).map (t :: ·) := by
  rw [tokens, if_neg (by simp [hc])]
  split
  · rename_i h'; rw [h] at h'; cases h'
  · rename_i h'; rw [h] at h'; cases h'; rfl

/-! ## Kinds of characters -/

theorem gap_no_word {c : Char} (h : isGap c = true) : continuesWord c = false := by
  simp only [isGap, List.contains_iff_mem, List.mem_cons, List.not_mem_nil, or_false] at h
  rcases h with rfl | rfl | rfl | rfl | rfl | rfl <;> decide

theorem sign_no_word {c : Char} (h : isSign c = true) : continuesWord c = false ∧ isGap c = false := by
  simp only [isSign, List.contains_iff_mem, List.mem_cons, List.not_mem_nil, or_false] at h
  rcases h with rfl | rfl | rfl | rfl | rfl <;> decide

theorem beginsWord_continues {c : Char} (h : beginsWord c = true) : continuesWord c = true := by
  simp [continuesWord, h]

theorem ne_of_class {p : Char → Bool} {c d : Char} (hc : p c = true) (hd : p d = false) : c ≠ d := by
  rintro rfl
  rw [hc] at hd
  cases hd

/-- What follows ends a token of every kind: nothing, white space or punctuation. -/
def Apart (rest : List Char) : Prop := ∀ c ∈ rest.head?, isGap c = true ∨ isSign c = true

theorem apart_gap {c : Char} (h : isGap c = true) (rest : List Char) : Apart (c :: rest) := by
  simp [Apart, h]

theorem apart_sign {c : Char} (h : isSign c = true) (rest : List Char) : Apart (c :: rest) := by
  simp [Apart, h]

theorem Apart.head_ne {rest : List Char} (h : Apart rest) {c : Char} (hg : isGap c = false)
    (hs : isSign c = false) : rest.head? ≠ some c := by
  intro e
  rcases h c e with h | h
  · exact ne_of_class h hg rfl
  · exact ne_of_class h hs rfl

/-- What follows ends a word, and does not make it the mark of a constant. -/
def EndsWord (rest : List Char) : Prop := ∀ c ∈ rest.head?, continuesWord c = false ∧ c ≠ '\x27'

theorem Apart.endsWord {rest : List Char} (h : Apart rest) : EndsWord rest := by
  intro c hc
  rcases h c hc with hgap | hsign
  · exact ⟨gap_no_word hgap, ne_of_class hgap (by decide)⟩
  · exact ⟨(sign_no_word hsign).1, ne_of_class hsign (by decide)⟩

/-! ## Pieces of text -/

/-- The text gives these tokens wherever what follows it is as `ok` says. -/
def ReadsAs (ok : List Char → Prop) (text : List Char) (ts : List Token) : Prop :=
  ∀ rest, ok rest → tokens (text ++ rest) = (tokens rest).map (ts ++ ·)

def Any (_ : List Char) : Prop := True

theorem ReadsAs.append {ok ok' : List Char → Prop} {a b : List Char} {ts us : List Token}
    (ha : ReadsAs ok a ts) (hb : ReadsAs ok' b us) (h : ∀ rest, ok' rest → ok (b ++ rest)) :
    ReadsAs ok' (a ++ b) (ts ++ us) :=
  Yields.append ha hb h

theorem ReadsAs.all {ok : List Char → Prop} {text : List Char} {ts : List Token}
    (h : ReadsAs ok text ts) (hok : ok []) : tokens text = some ts := by
  simpa [tokens] using h [] hok

theorem reads_nil : ReadsAs Any [] [] := by
  intro rest _
  simp

theorem reads_gap {c : Char} (h : isGap c = true) : ReadsAs Any [c] [] := by
  intro rest _
  simp [tokens_gap h]

theorem reads_token {ok : List Char → Prop} {c : Char} {cs : List Char} {t : Token} (hc : isGap c = false)
    (h : ∀ rest, ok rest → readToken (c :: (cs ++ rest)) = some (t, rest)) :
    ReadsAs ok (c :: cs) [t] := by
  intro rest hr
  exact tokens_token hc (h rest hr)

theorem readToken_sign {c : Char} (h : isSign c = true) (rest : List Char) :
    readToken (c :: rest) = some (.sign c, rest) := by
  simp only [isSign, List.contains_iff_mem, List.mem_cons, List.not_mem_nil, or_false] at h
  rcases h with rfl | rfl | rfl | rfl | rfl <;> rfl

theorem reads_sign {c : Char} (h : isSign c = true) : ReadsAs Any [c] [.sign c] :=
  reads_token (sign_no_word h).2 fun rest _ => readToken_sign h rest

/-- A word: it begins with a letter and goes on as words do. -/
def isWord : List Char → Bool
  | [] => false
  | c :: cs => beginsWord c && cs.all continuesWord

theorem takeWhile_word {cs rest : List Char} (hcs : cs.all continuesWord = true) (hr : EndsWord rest) :
    (cs ++ rest).takeWhile continuesWord = cs ∧ (cs ++ rest).dropWhile continuesWord = rest := by
  have h : rest.takeWhile continuesWord = [] ∧ rest.dropWhile continuesWord = rest := by
    cases rest with
    | nil => simp
    | cons d rest => simp [(hr d rfl).1]
  have hall : ∀ c ∈ cs, continuesWord c = true := List.all_eq_true.mp hcs
  rw [List.takeWhile_append_of_pos hall, List.dropWhile_append_of_pos hall, h.1, h.2]
  simp

theorem readToken_word {c : Char} {cs rest : List Char} (h : isWord (c :: cs) = true) (hr : EndsWord rest) :
    readToken (c :: (cs ++ rest)) = some (.word (String.ofList (c :: cs)), rest) := by
  rw [isWord, Bool.and_eq_true] at h
  obtain ⟨hc, hcs⟩ := h
  have hd : c ≠ '\"' := ne_of_class hc (by decide)
  have hs : c ≠ '\x27' := ne_of_class hc (by decide)
  -- a quote neither continues a word nor stands where the word has ended
  have hq : (cs ++ rest).head? ≠ some '\x27' := by
    cases cs with
    | nil => exact fun e => (hr _ e).2 rfl
    | cons d cs =>
      have hd : continuesWord d = true := by simp only [List.all_cons, Bool.and_eq_true] at hcs; exact hcs.1
      simpa using ne_of_class hd (by decide)
  obtain ⟨ht, hdr⟩ := takeWhile_word hcs hr
  simp only [readToken, hd, hs, hq, and_false, if_false, hc, if_true, ht, hdr]

theorem word_no_gap {c : Char} {cs : List Char} (h : isWord (c :: cs) = true) : isGap c = false := by
  rw [isWord, Bool.and_eq_true] at h
  cases hg : isGap c with
  | false => rfl
  | true => exact absurd rfl (ne_of_class (beginsWord_continues h.1) (gap_no_word hg))

theorem reads_word {w : String} (h : isWord w.toList = true) : ReadsAs Apart w.toList [.word w] := by
  cases hw : w.toList with
  | nil => simp [hw, isWord] at h
  | cons c cs =>
    rw [hw] at h
    rw [← String.ofList_toList (s := w), hw]
    exact reads_token (word_no_gap h) fun rest hr => readToken_word h hr.endsWord

/-- A quoted name ends at its own last quote, unless a quote follows that. -/
theorem readToken_name {rest : List Char} (hr : rest.head? ≠ some '\"') (n : String) :
    readToken ('\"' :: (Literal.doubled '\"' n.toList ++ ['\"'] ++ rest)) = some (.name n, rest) := by
  have h := readMarked_doubled hr n.toList
  simp only [readToken, if_true, List.append_assoc, List.singleton_append, h, Option.map_some, String.ofList_toList]

theorem Apart.name {rest : List Char} (h : Apart rest) (n : String) :
    readToken ('\"' :: (Literal.doubled '\"' n.toList ++ ['\"'] ++ rest)) = some (.name n, rest) :=
  readToken_name (h.head_ne (by decide) (by decide)) n

theorem reads_name (n : String) : ReadsAs Apart (Identifier.quoted n).toList [.name n] := by
  rw [Identifier.toList_quoted]
  exact reads_token (by decide) fun rest hr => hr.name n

/-- So does a constant, in the form with escapes and in the form without. -/
theorem readToken_constant {rest : List Char} (hr : rest.head? ≠ some '\x27') (v : String) :
    readToken (Literal.quoteChars v.toList ++ rest) = some (.constant v, rest) := by
  rw [Literal.quoteChars]
  by_cases hb : '\\' ∈ v.toList
  · rw [if_pos hb]
    have h := readEscaped_doubled hr v.toList
    simp [readToken, h]
  · rw [if_neg hb]
    have h := readMarked_doubled hr v.toList
    simp [readToken, h]

theorem constant_begins (cs : List Char) : ∃ c rest, Literal.quoteChars cs = c :: rest ∧ isGap c = false := by
  rw [Literal.quoteChars]
  by_cases hb : '\\' ∈ cs
  · rw [if_pos hb]
    exact ⟨'E', _, rfl, by decide⟩
  · rw [if_neg hb]
    exact ⟨'\x27', _, rfl, by decide⟩

theorem reads_constant (v : String) : ReadsAs Apart (Literal.quote v).toList [.constant v] := by
  rw [Literal.quote, String.toList_ofList]
  obtain ⟨c, cs, hform, hc⟩ := constant_begins v.toList
  rw [hform]
  refine reads_token hc fun rest hr => ?_
  rw [← List.cons_append, ← hform]
  exact readToken_constant (hr.head_ne (by decide) (by decide)) v

/-! ## Pieces in a row -/

theorem ReadsAs.gap {ok : List Char → Prop} {text : List Char} {ts : List Token}
    (h : ReadsAs ok text ts) : ReadsAs ok (' ' :: text) ts :=
  (reads_gap (by decide)).append h fun _ _ => trivial

theorem ReadsAs.sign {ok : List Char → Prop} {c : Char} {text : List Char} {ts : List Token}
    (hc : isSign c = true) (h : ReadsAs ok text ts) : ReadsAs ok (c :: text) (.sign c :: ts) :=
  (reads_sign hc).append h fun _ _ => trivial

theorem ReadsAs.spaced {ok : List Char → Prop} {a b : List Char} {ts us : List Token}
    (ha : ReadsAs Apart a ts) (hb : ReadsAs ok b us) : ReadsAs ok (a ++ ' ' :: b) (ts ++ us) :=
  ha.append hb.gap fun _ _ => apart_gap (by decide) _

theorem ReadsAs.signed {ok : List Char → Prop} {a b : List Char} {c : Char} {ts us : List Token}
    (hc : isSign c = true) (ha : ReadsAs Apart a ts) (hb : ReadsAs ok b us) :
    ReadsAs ok (a ++ c :: b) (ts ++ .sign c :: us) :=
  ha.append (hb.sign hc) fun _ _ => apart_sign hc _

theorem toList_listed (texts : List String) :
    (", ".intercalate texts).toList = [',', ' '].intercalate (texts.map String.toList) := by
  rw [String.toList_intercalate]
  rfl

theorem ReadsAs.listed {texts : List (List Char)} {tss : List (List Token)}
    (h : List.Forall₂ (ReadsAs Apart) texts tss) :
    ReadsAs Apart ([',', ' '].intercalate texts) ([Token.sign ','].intercalate tss) := by
  have hcomma : ReadsAs Any [',', ' '] [.sign ','] := (reads_gap (by decide)).sign (by decide)
  have hparts : List.Forall₂ (Yields tokens Apart) texts tss := h
  exact Yields.listed hcomma (fun _ => apart_sign (by decide) _) hparts

end Intake.Sql
