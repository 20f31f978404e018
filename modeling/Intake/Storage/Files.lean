/-
  Intake.Storage.Files — files by name.

  A path leads from the root, or from the home directory if it does not begin with a slash, part
  by part through directories. A directory can be opened but not read, and reading a damaged file
  fails after some of its bytes. What can be read of an entry is the same whenever it is opened.
-/

import Intake.Storage.Path

namespace Intake.Storage

inductive FileError where
  | notFound
  | notDirectory
  | isDirectory
  | nulInPath
  | inputOutput
  deriving DecidableEq, Repr

def FileError.message : FileError → String
  | notFound => "No such file or directory (os error 2)"
  | notDirectory => "Not a directory (os error 20)"
  | isDirectory => "Is a directory (os error 21)"
  | nulInPath => "file name contained an unexpected NUL byte"
  | inputOutput => "Input/output error (os error 5)"

inductive Entry where
  | directory
  | file (contents : List UInt8)
  /-- A file of which only so many bytes can be read. -/
  | damaged (readable : List UInt8)
  deriving DecidableEq, Repr

/-- What comes of reading from the start on: some bytes, and the failure after them if there is
    one. -/
structure Reading where
  bytes : List UInt8
  failure? : Option FileError
  deriving DecidableEq, Repr

namespace Reading

/-- All bytes, for one who reads to the end. -/
def whole (r : Reading) : Except FileError (List UInt8) :=
  match r.failure? with
  | none => .ok r.bytes
  | some e => .error e

/-- Meets the failure unless the bytes before it are enough. -/
def demand (r : Reading) (enough : Bool) : Except FileError Unit :=
  match r.failure? with
  | none => .ok ()
  | some e => if enough then .ok () else .error e

end Reading

def Entry.reading : Entry → Reading
  | directory => ⟨[], some .isDirectory⟩
  | file contents => ⟨contents, none⟩
  | damaged readable => ⟨readable, some .inputOutput⟩

def Entry.read (entry : Entry) : Except FileError (List UInt8) := entry.reading.whole

abbrev Location := List String

structure Files where
  home : Location
  entries : List (Location × Entry)
  deriving Repr

namespace Files

/-- The entry at a place; the root is always a directory. -/
def at? (files : Files) (l : Location) : Option Entry :=
  if l = [] then some .directory else (files.entries.find? fun e => e.1 = l).map (·.2)

/-- Puts an entry at a place, instead of what was there. -/
def put (files : Files) (l : Location) (entry : Entry) : Files :=
  { files with entries := (l, entry) :: files.entries.filter fun e => e.1 ≠ l }

/-- Takes away an entry and what lies in it. -/
def remove (files : Files) (l : Location) : Files :=
  { files with entries := files.entries.filter fun e => !l.isPrefixOf e.1 }

def putDirectory (files : Files) (l : Location) : Files :=
  (List.range l.length).foldl (fun fs n => fs.put (l.take (n + 1)) .directory) files

def empty (home : Location) : Files := (⟨home, []⟩ : Files).putDirectory home

/-- Puts an entry where parts of a path lead from a place, and directories on the way there. -/
def enterFrom (files : Files) (l : Location) (entry : Entry) : List String → Files
  | [] => files.put l entry
  | ".." :: rest => files.enterFrom l.dropLast entry rest
  | [part] => files.put (l ++ [part]) entry
  | part :: rest => (files.putDirectory (l ++ [part])).enterFrom (l ++ [part]) entry rest

def enter (files : Files) (path : String) (entry : Entry) : Files :=
  files.enterFrom (if Path.isRooted path then [] else files.home) entry (Path.parts path)

/-- Where pieces of a path lead from a place. -/
def walk (files : Files) (l : Location) : List String → Except FileError Location
  | [] => .ok l
  | piece :: rest =>
    match files.at? l with
    | none => .error .notFound
    | some .directory =>
      if piece = "" ∨ piece = "." then files.walk l rest
      else if piece = ".." then files.walk l.dropLast rest
      else files.walk (l ++ [piece]) rest
    | some _ => .error .notDirectory

def locate (files : Files) (path : String) : Except FileError Location :=
  if path = "" then .error .notFound
  else if '\x00' ∈ path.toList then .error .nulInPath
  else files.walk (if Path.isRooted path then [] else files.home) (Path.pieces path)

def openEntry (files : Files) (path : String) : Except FileError Entry := do
  match files.at? (← files.locate path) with
  | some entry => .ok entry
  | none => .error .notFound

def read (files : Files) (path : String) : Except FileError (List UInt8) := do
  (← files.openEntry path).read

/-- Writes a file, a new one or instead of what it held. -/
def write (files : Files) (path : String) (contents : List UInt8) : Except FileError Files := do
  let l ← files.locate path
  if files.at? l = some .directory then .error .isDirectory
  else .ok (files.put l (.file contents))

def homePath (files : Files) : String :=
  "/" ++ String.intercalate "/" files.home

end Files

end Intake.Storage
