/-
  Intake.Storage.Path — file paths as texts: their parts, their extension, the directory they lie
  in, and how one path is read against another.

  Parts are separated by slashes. Empty parts and parts that are a single dot say nothing, except
  for a dot at the very start of a path that does not begin with a slash.
-/

namespace Intake.Storage.Path

def isRooted (path : String) : Bool := path.toList.head? = some '/'

/-- The pieces between slashes. -/
def pieces (path : String) : List String := (path.toList.splitOn '/').map String.ofList

def parts (path : String) : List String := (pieces path).filter fun p => p ≠ "" ∧ p ≠ "."

/-- Whether a path begins with a dot of its own. -/
def isDotted (path : String) : Bool := (pieces path).head? = some "."

/-- What follows the last dot of the file name. A name that begins with its only dot has no
    extension. -/
def extension? (path : String) : Option String := do
  let last := (parts path).getLast?
  let name := (← last).toList
  if name = "..".toList then none
  else
    let reversed := name.reverse
    let after := reversed.takeWhile (· ≠ '.')
    if name.length ≤ after.length + 1 then none else some (String.ofList after.reverse)

/-- A path read backwards without slashes and single dots at its end. The slash or dot a path
    begins with stays. -/
def trimReversed : List Char → List Char
  | '/' :: c :: cs => trimReversed (c :: cs)
  | '.' :: '/' :: c :: cs => trimReversed ('/' :: c :: cs)
  | cs => cs

def dropPart (reversed : List Char) : List Char := reversed.dropWhile (· ≠ '/')

/-- The path without its last part; none for a path without parts. -/
def parent? (path : String) : Option String :=
  if (parts path).isEmpty ∧ !isDotted path then none
  else
    let reversed := trimReversed path.toList.reverse
    some (String.ofList (trimReversed (dropPart reversed)).reverse)

def join (base path : String) : String :=
  if isRooted path then path
  else if base = "" ∨ base.toList.getLast? = some '/' then base ++ path
  else base ++ "/" ++ path

/-- Where a path with this beginning starts: two slashes at the start, but not three, stay two. -/
def origin (home : String) : List Char → String
  | ['/', '/'] => "//"
  | '/' :: '/' :: c :: _ => if c = '/' then "/" else "//"
  | '/' :: _ => "/"
  | _ => home

/-- A path as it is meant from the root. -/
def absolute (home path : String) : String :=
  let whole := (parts path).foldl join (origin home path.toList)
  if path.toList.getLast? = some '/' then join whole "" else whole

end Intake.Storage.Path
