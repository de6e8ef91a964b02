import BareUrl.Address.Percent

/-!
# `BareUrl.Address.Path`: paths

A path is a list of segments, or, with schemes that know no hierarchy, plain text. Segments that
are one or two dots are carried out when a path is read: one dot stays where it is and two dots go
back by one segment. They never go back behind the start, nor behind a drive letter.
-/

set_option autoImplicit false

namespace BareUrl.Address

/-- The path of an address. -/
inductive Path where
  /-- Text without hierarchy. -/
  | plain (t : Text)
  /-- Segments, each with a slash in front. -/
  | segments (list : List Text)
deriving DecidableEq, Repr

namespace Path

/-- The path as it is written in an address. -/
def text : Path → Text
  | .plain t => t
  | .segments list => list.flatMap ('/' :: ·)

/-- The text with every escaped dot written out. -/
def plainDots : Text → Text
  | '%' :: '2' :: 'e' :: t => '.' :: plainDots t
  | '%' :: '2' :: 'E' :: t => '.' :: plainDots t
  | c :: t => c :: plainDots t
  | [] => []

/-- `true` if a segment is a letter and a colon, or a letter and a bar. -/
def isDriveLetter : Text → Bool
  | [c, d] => c.isAlpha && (d == ':' || d == '|')
  | _ => false

/-- Goes back by one segment; the last segment comes first here. -/
def goBack : List Text → List Text
  | [] => []
  | last :: before => if isDriveLetter last then last :: before else before

/-- Carries out the segments behind `done`, of which the last one comes first. A path that ends in
dots ends in a slash. -/
def walk (done : List Text) : List Text → List Text
  | [] => done.reverse
  | [s] =>
    if plainDots s = "..".toList then ([] :: goBack done).reverse
    else if plainDots s = ".".toList then ([] :: done).reverse
    else (s :: done).reverse
  | s :: rest =>
    if plainDots s = "..".toList then walk (goBack done) rest
    else if plainDots s = ".".toList then walk done rest
    else walk (s :: done) rest

/-- The pieces of a text between its slashes; backslashes count as slashes if `both` is set. -/
def pieces (both : Bool) (t : Text) : List Text :=
  Text.splitOn '/' (if both then t.map fun c => if c = '\\' then '/' else c else t)

/-- The segments of a path behind its first slash, in front of which `before` stands. -/
def read (before : List Text) (both : Bool) (t : Text) : List Text :=
  walk before.reverse ((pieces both t).map (Percent.escape Percent.pathSet))

end Path

end BareUrl.Address
