/-
  Intake.Proofs.Sql.Embedded — quoted names and constants in the middle of a text.

  What is quoted is put into a statement whose other parts are not known to it, so its end must not depend on them. It
  ends at its own last quote whatever the name or the constant holds: quotes and backslashes in any order, or what looks
  like SQL. There is one exception. A quote of the same kind right behind the last one would be read together with it.

  Proved:
  - `quoted_text_ends`: the reader takes just what was quoted, gives back what it stands for, and leaves what follows.
-/

import Intake.Proofs.Sql.Tokens

namespace Intake.Sql

/-- A constant is read as its value up to its end, and a name that is accepted as that name, whatever they hold and
    whatever follows them other than a quote of their kind. -/
theorem quoted_text_ends (rest : List Char) :
    (rest.head? ≠ some '\x27' →
      ∀ v : String, readToken ((Literal.quote v).toList ++ rest) = some (.constant v, rest)) ∧
    (rest.head? ≠ some '\"' → ∀ n : String, Identifier.check n = .ok () →
      ∃ quoted, Identifier.quote n = .ok quoted ∧ readToken (quoted.toList ++ rest) = some (.name n, rest)) := by
  constructor
  · intro hrest v
    rw [Literal.quote, String.toList_ofList]
    exact readToken_constant hrest v
  · intro hrest n hn
    refine ⟨Identifier.quoted n, Identifier.quote_ok_iff.mpr ⟨hn, rfl⟩, ?_⟩
    rw [Identifier.toList_quoted, List.cons_append]
    exact readToken_name hrest n

def slashed : String := "\\'; DROP TABLE t; --"

theorem quoted_text_of_slashed :
    [',', ' ', '\x27'].head? ≠ some '\x27' ∧ Literal.quote slashed = "E'\\\\''; DROP TABLE t; --'" ∧
    readToken ((Literal.quote slashed).toList ++ [',', ' ', '\x27']) = some (.constant slashed, [',', ' ', '\x27']) ∧
    ['.', '\"'].head? ≠ some '\"' ∧ Identifier.check "\"a\"\\" = .ok () ∧
    ∃ quoted, Identifier.quote "\"a\"\\" = .ok quoted ∧
      readToken (quoted.toList ++ ['.', '\"']) = some (.name "\"a\"\\", ['.', '\"']) := by
  have hcomma : [',', ' ', '\x27'].head? ≠ some '\x27' := by decide
  have hpoint : ['.', '\"'].head? ≠ some '\"' := by decide
  have hname : Identifier.check "\"a\"\\" = .ok () := by decide +kernel
  obtain ⟨hconstant, -⟩ := quoted_text_ends [',', ' ', '\x27']
  obtain ⟨-, hquoted⟩ := quoted_text_ends ['.', '\"']
  exact ⟨hcomma, by decide +kernel, hconstant hcomma slashed, hpoint, hname, hquoted hpoint _ hname⟩

/-- A quote behind a constant makes it go on. -/
example : readToken ((Literal.quote "a").toList ++ "'b'".toList) = some (.constant "a'b", []) := by decide +kernel

end Intake.Sql
