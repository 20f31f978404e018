/-
  Intake.Proofs.Sql.Quoting — quoted names and string constants, read back by the rules of the
  server.

  A reader starts after the opening mark and gives the text up to the closing one, and what
  follows. Between the marks of a name or of a plain constant, the mark written twice is one
  character of the text and nothing else has a meaning of its own. In the form with escapes a
  backslash also takes the next character with it.

  Proved:
  - `readMarked_doubled`, `readEscaped_doubled`: a text with its marks (and backslashes) doubled
    reads as that text, up to its own closing mark, whatever other marks it holds.
  - `readMarked_shorter`, `readEscaped_shorter`: a reader leaves less than it was given.
  - `check_ok_iff`: exactly which names are accepted.
-/

import Intake.Proofs.Outcome
import Intake.Proofs.Text.Length
import Intake.Sql.Literal
import Intake.Sql.Identifier

namespace Intake.Sql

def pushFound (c : Char) (found : Option (List Char × List Char)) : Option (List Char × List Char) :=
  found.map fun f => (c :: f.1, f.2)

/-- Reads up to the mark that is not doubled. -/
def readMarked (mark : Char) : List Char → Option (List Char × List Char)
  | [] => none
  | c :: cs =>
    if c = mark then
      match cs with
      | [] => some ([], [])
      | d :: rest => if d = mark then pushFound mark (readMarked mark rest) else some ([], d :: rest)
    else pushFound c (readMarked mark cs)

/-- The character that a backslash and this one stand for; codes in digits are not read. -/
def unescape? (c : Char) : Option Char :=
  if c = 'b' then some '\x08'
  else if c = 'f' then some '\x0c'
  else if c = 'n' then some '\n'
  else if c = 'r' then some '\r'
  else if c = 't' then some '\t'
  else if c.isDigit ∨ c = 'x' ∨ c = 'u' ∨ c = 'U' then none
  else some c

/-- Reads a constant with escapes up to the quote that is not doubled. -/
def readEscaped : List Char → Option (List Char × List Char)
  | [] => none
  | c :: cs =>
    if c = '\\' then
      match cs with
      | [] => none
      | d :: rest => (unescape? d).bind fun x => pushFound x (readEscaped rest)
    else if c = '\x27' then
      match cs with
      | [] => some ([], [])
      | d :: rest =>
        if d = '\x27' then pushFound '\x27' (readEscaped rest) else some ([], d :: rest)
    else pushFound c (readEscaped cs)

/-! ## Reading back -/

@[simp] theorem pushFound_some (c : Char) (cs rest : List Char) :
    pushFound c (some (cs, rest)) = some (c :: cs, rest) := rfl

@[simp] theorem doubled_nil (x : Char) : Literal.doubled x [] = [] := rfl

theorem doubled_cons (x c : Char) (cs : List Char) :
    Literal.doubled x (c :: cs) = (if c = x then [x, x] else [c]) ++ Literal.doubled x cs := rfl

/-- Marks are doubled in a name as quotes are in a constant. -/
theorem doubleQuotes_eq (cs : List Char) : Identifier.doubleQuotes cs = Literal.doubled '\"' cs := rfl

theorem readMarked_other {mark c : Char} (h : c ≠ mark) (cs : List Char) :
    readMarked mark (c :: cs) = pushFound c (readMarked mark cs) := by
  cases cs <;> simp [readMarked, h]

theorem readMarked_close {mark : Char} {rest : List Char} (h : rest.head? ≠ some mark) :
    readMarked mark (mark :: rest) = some ([], rest) := by
  cases rest with
  | nil => simp [readMarked]
  | cons d rest =>
    have hd : d ≠ mark := by simpa using h
    simp [readMarked, hd]

theorem readMarked_doubled {mark : Char} {rest : List Char} (h : rest.head? ≠ some mark)
    (cs : List Char) :
    readMarked mark (Literal.doubled mark cs ++ mark :: rest) = some (cs, rest) := by
  induction cs with
  | nil => exact readMarked_close h
  | cons c cs ih =>
    rw [doubled_cons]
    by_cases e : c = mark
    · subst e; simp [readMarked, ih]
    · simp [e, readMarked_other e, ih]

theorem readEscaped_other {c : Char} (hq : c ≠ '\x27') (hb : c ≠ '\\') (cs : List Char) :
    readEscaped (c :: cs) = pushFound c (readEscaped cs) := by
  cases cs <;> simp [readEscaped, hq, hb]

theorem readEscaped_close {rest : List Char} (h : rest.head? ≠ some '\x27') :
    readEscaped ('\x27' :: rest) = some ([], rest) := by
  cases rest with
  | nil => simp [readEscaped]
  | cons d rest =>
    have hd : d ≠ '\x27' := by simpa using h
    simp [readEscaped, hd]

/-- Doubling quotes first and backslashes after leaves no quote behind a single backslash, so the
    constant cannot end early. -/
theorem readEscaped_doubled {rest : List Char} (h : rest.head? ≠ some '\x27') (cs : List Char) :
    readEscaped (Literal.doubled '\\' (Literal.doubled '\x27' cs) ++ '\x27' :: rest) =
      some (cs, rest) := by
  induction cs with
  | nil => exact readEscaped_close h
  | cons c cs ih =>
    rw [doubled_cons]
    by_cases hq : c = '\x27'
    · subst hq; simp [doubled_cons, readEscaped, ih]
    by_cases hb : c = '\\'
    · subst hb; simp [doubled_cons, readEscaped, unescape?, ih]
    · simp [doubled_cons, hq, hb, readEscaped_other hq hb, ih]

/-! ## What is left is shorter -/

theorem pushFound_shorter {c : Char} {found : Option (List Char × List Char)}
    {cs rest text : List Char} (h : pushFound c found = some (cs, rest))
    (ih : ∀ {cs'}, found = some (cs', rest) → rest.length < text.length) :
    rest.length < text.length := by
  obtain ⟨⟨cs', rest'⟩, hf, he⟩ := Option.map_eq_some_iff.mp h
  cases he
  exact ih hf

theorem readMarked_shorter {mark : Char} {text cs rest : List Char}
    (h : readMarked mark text = some (cs, rest)) : rest.length < text.length := by
  fun_induction readMarked mark text generalizing cs with
  | case1 => cases h
  | case2 => cases h; simp
  | case3 rest' ih => exact Nat.lt_succ_of_lt (Nat.lt_succ_of_lt (pushFound_shorter h ih))
  | case4 d rest' hd => cases h; simp
  | case5 c text hc ih => exact Nat.lt_succ_of_lt (pushFound_shorter h ih)

theorem readEscaped_shorter {text cs rest : List Char} (h : readEscaped text = some (cs, rest)) :
    rest.length < text.length := by
  fun_induction readEscaped text generalizing cs with
  | case1 => cases h
  | case2 => cases h
  | case3 d rest' ih =>
    obtain ⟨x, -, hp⟩ := Option.bind_eq_some_iff.mp h
    exact Nat.lt_succ_of_lt (Nat.lt_succ_of_lt (pushFound_shorter hp ih))
  | case4 => cases h; simp
  | case5 rest' hne ih => exact Nat.lt_succ_of_lt (Nat.lt_succ_of_lt (pushFound_shorter h ih))
  | case6 d rest' hd => cases h; simp
  | case7 c text hb hq ih => exact Nat.lt_succ_of_lt (pushFound_shorter h ih)

/-! ## Names -/

namespace Identifier

/-- A name between double quotes, whether or not it is accepted. -/
def quoted (name : String) : String :=
  String.ofList (['\"'] ++ doubleQuotes name.toList ++ ['\"'])

theorem toList_quoted (name : String) :
    (quoted name).toList = '\"' :: (Literal.doubled '\"' name.toList ++ ['\"']) := by
  simp [quoted, doubleQuotes_eq]

theorem check_ok_iff {name : String} :
    check name = .ok () ↔
      name ≠ "" ∧ '\x00' ∉ name.toList ∧ name.utf8ByteSize ≤ maxIdentifierBytes := by
  simp only [check, Text.Utf8.byteLength_toList, String.toList_eq_nil_iff]
  by_cases h1 : name = ""
  · simp [h1]
  by_cases h2 : '\x00' ∈ name.toList
  · simp [h1, h2]
  by_cases h3 : name.utf8ByteSize > maxIdentifierBytes
  · simp [h1, h2, h3]
  · simp [h1, h2, h3, Nat.le_of_not_lt h3]

theorem check_error_iff {name : String} :
    (∃ e, check name = .error e) ↔
      name = "" ∨ '\x00' ∈ name.toList ∨ maxIdentifierBytes < name.utf8ByteSize := by
  have h : (∃ e, check name = .error e) ↔ ¬ check name = .ok () := by
    cases check name <;> simp
  rw [h, check_ok_iff]
  grind

theorem quote_ok_iff {name q : String} :
    quote name = .ok q ↔ check name = .ok () ∧ q = quoted name := by
  rw [quote, bind_ok_iff]
  constructor
  · rintro ⟨⟨⟩, h, hq⟩
    exact ⟨h, (pure_ok_iff.mp hq).symm⟩
  · rintro ⟨h, rfl⟩
    exact ⟨(), h, rfl⟩

theorem qualify_ok_iff {schema name q : String} :
    qualify schema name = .ok q ↔
      check schema = .ok () ∧ check name = .ok () ∧ q = quoted schema ++ "." ++ quoted name := by
  simp only [qualify, bind_ok_iff, pure_ok_iff, quote_ok_iff]
  constructor
  · rintro ⟨-, ⟨hs, rfl⟩, -, ⟨hn, rfl⟩, rfl⟩
    exact ⟨hs, hn, rfl⟩
  · rintro ⟨hs, hn, rfl⟩
    exact ⟨_, ⟨hs, rfl⟩, _, ⟨hn, rfl⟩, rfl⟩

theorem mapM_quote_ok_iff {names qs : List String} :
    names.mapM quote = .ok qs ↔ (∀ n ∈ names, check n = .ok ()) ∧ qs = names.map quoted :=
  mapM_ok_iff quote_ok_iff

end Identifier

end Intake.Sql
