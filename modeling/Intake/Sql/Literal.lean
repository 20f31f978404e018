/-
  Intake.Sql.Literal — string constants inside SQL text.

  A constant stands between single quotes with every quote in it doubled. One that holds a
  backslash is written in the form with escapes, `E'...'`, where backslashes are doubled too, so
  that its meaning does not depend on how the server reads backslashes in the plain form.
-/

namespace Intake.Sql.Literal

def doubled (x : Char) (cs : List Char) : List Char :=
  cs.flatMap fun c => if c = x then [x, x] else [c]

def quoteChars (cs : List Char) : List Char :=
  let quoted := doubled '\x27' cs
  if '\\' ∈ cs then ['E', '\x27'] ++ doubled '\\' quoted ++ ['\x27']
  else ['\x27'] ++ quoted ++ ['\x27']

def quote (value : String) : String := String.ofList (quoteChars value.toList)

end Intake.Sql.Literal
