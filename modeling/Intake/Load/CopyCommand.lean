/-
  Intake.Load.CopyCommand — the command that opens a bulk load.

  All that comes from outside, names and characters, is quoted, so it cannot change what the
  command does.
-/

import Intake.Delimited.Dialect
import Intake.Sql.Identifier
import Intake.Sql.Literal

namespace Intake.Load

structure CopyCommand where
  schema : String
  table : String
  columns : List String
  header : Bool
  dialect : Delimited.Dialect
  encoding : String
  deriving DecidableEq, Repr

namespace CopyCommand

def charLiteral (b : UInt8) : String :=
  Sql.Literal.quote (String.singleton (Delimited.byteChar b))

/-- The options of the command: how the rows are written. -/
def options (c : CopyCommand) : List String :=
  ["FORMAT csv", "HEADER " ++ (if c.header then "true" else "false"),
   "DELIMITER " ++ charLiteral c.dialect.delimiter, "QUOTE " ++ charLiteral c.dialect.quote] ++
    (c.dialect.escape.map fun escape => "ESCAPE " ++ charLiteral escape).toList ++
    ["ENCODING " ++ Sql.Literal.quote c.encoding]

def text (c : CopyCommand) : Except Sql.IdentifierError String := do
  let columns ← c.columns.mapM Sql.Identifier.quote
  let table ← Sql.Identifier.qualify c.schema c.table
  return "COPY " ++ table ++ " (" ++ ", ".intercalate columns ++ ") FROM STDIN WITH (" ++
    ", ".intercalate c.options ++ ")"

end CopyCommand

end Intake.Load
