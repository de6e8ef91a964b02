import BareUrl.Input

/-!
# `BareUrl.Program.Surroundings`: files and standard streams

What a run of the program can see and change: the files of its directory, what is left of standard
input, and what has been printed. Standard input can be read once; after that it is empty.
-/

set_option autoImplicit false

namespace BareUrl.Program

/-- The surroundings of a run. -/
structure Surroundings where
  /-- The files by their paths. -/
  files : List (Text × List UInt8)
  /-- What is left of standard input. -/
  standardInput : List UInt8
  /-- What has been printed. -/
  standardOutput : List UInt8
  /-- Directories that are there besides those that hold the files. -/
  folders : List Text
deriving DecidableEq, Repr

/-- Where output goes. -/
inductive Target where
  | standardOutput
  | file (path : Text)
deriving DecidableEq, Repr

namespace Surroundings

/-- A path without the steps that stay in the directory. -/
def plainPath : Text → Text
  | '.' :: '/' :: rest => plainPath (rest.dropWhile (· = '/'))
  | path => path
termination_by path => path.length
decreasing_by
  have _shorter := (List.dropWhile_sublist (l := rest) (· = '/')).length_le
  simp only [List.length_cons]
  omega

/-- The content of a file. -/
def contents? (w : Surroundings) (path : Text) : Option (List UInt8) :=
  w.files.lookup (plainPath path)

/-- The same surroundings with another content of a file, which is new if there was none. -/
def withFile (w : Surroundings) (path : Text) (bytes : List UInt8) : Surroundings :=
  let path := plainPath path
  { w with files := w.files.filter (fun f => f.1 != path) ++ [(path, bytes)] }

/-- The directories that a path goes through. -/
def directories (path : Text) : List Text :=
  let parts := Text.splitOn '/' path
  ((List.range (parts.length - 1)).map fun n => Text.joinWith ['/'] (parts.take (n + 1))).filter
    (· ≠ [])

/-- `true` if there is a directory at the path. -/
def isDirectory (w : Surroundings) (path : Text) : Bool :=
  let path := plainPath path
  path = ['.'] || w.folders.elem path ||
    w.files.any fun f => (directories f.1).elem path

/-- `true` if a file can be created at the path: it is no directory, and all that it goes through
are. -/
def canCreate (w : Surroundings) (path : Text) : Bool :=
  let path := plainPath path
  path ≠ [] && path.getLast? ≠ some '/' && !w.isDirectory path &&
    (directories path).all w.isDirectory

/-- Reads an input to its end. -/
def read (w : Surroundings) : Input → Option (List UInt8 × Surroundings)
  | .standardInput => some (w.standardInput, { w with standardInput := [] })
  | .file path => (w.contents? path).map (·, w)

/-- Adds to what has been written to a target. -/
def append (w : Surroundings) (target : Target) (bytes : List UInt8) : Surroundings :=
  match target with
  | .standardOutput => { w with standardOutput := w.standardOutput ++ bytes }
  | .file path => w.withFile path ((w.contents? path).getD [] ++ bytes)

/-- Prints a text. -/
def print (w : Surroundings) (t : Text) : Surroundings :=
  w.append .standardOutput (Text.Utf8.encode t)

end Surroundings

end BareUrl.Program
