import BareUrl.Failure
import BareUrl.Note
import BareUrl.Text.Blank

/-!
# `BareUrl.Markup.Exclusion`: elements whose content is left alone

Links, scripts and code hold URLs that are meant to stay as they are. An `Exclusion` is a list of
element names; while the walk over the tags of a text is inside one of these elements, its text
is skipped.

- A tag opens an excluded element if somewhere in it a `<` is followed by an excluded name, in
  any case, and then by white space or `>` (`Exclusion.opened`).
- The element ends at the first tag that holds its closing tag, in any ASCII case
  (`Mode.after`). Elements of the same name inside it are not counted.
- Names are at most `sizeLimit` bytes long altogether.
-/

set_option autoImplicit false

namespace BareUrl.Markup

/-- `true` if the text is the name of an element: a letter, then letters, digits and hyphens. -/
def isTagName : Text → Bool
  | [] => false
  | c :: rest => c.isAlpha && rest.all fun d => d.isAlphanum || d == '-'

/-- The name of an element. -/
structure TagName where
  name : Text
  valid : isTagName name = true
deriving DecidableEq

/-- A character without regard to case. Besides the ASCII capitals, the long s and the Kelvin
sign are other forms of the letters of an element name. -/
def foldCase (c : Char) : Char :=
  if c = '\u017f' then 's' else if c = '\u212a' then 'k' else c.toLower

/-- The elements whose content is left alone. -/
structure Exclusion where
  names : List TagName

/-- Checks the names of the elements, in order. -/
def checkTagNames : List Text → Except Failure (List TagName)
  | [] => .ok []
  | name :: rest =>
    if h : isTagName name = true then
      match checkTagNames rest with
      | .ok ns => .ok (⟨name, h⟩ :: ns)
      | .error e => .error e
    else .error (.invalidTagName name)

namespace Exclusion

/-- How many bytes the names may have altogether. -/
def sizeLimit : Nat := 100000

/-- How many bytes names have altogether. -/
def totalSize (names : List Text) : Nat := names.foldl (fun n name => n + Text.utf8Size name) 0

/-- The exclusion of the elements with the given names. -/
def make (names : List Text) : Except Failure Exclusion :=
  match checkTagNames names with
  | .error e => .error e
  | .ok ns =>
    if totalSize names ≤ sizeLimit then .ok ⟨ns⟩
    else .error (.invalidPattern .tooLarge)

/-- `true` if the name is an excluded one, in any case. -/
def excludes (e : Exclusion) (name : Text) : Bool :=
  e.names.any fun n => n.name.map foldCase == name.map foldCase

/-- The name at the start of what follows a `<`: all up to white space or `>`, of which there has
to be one. -/
def nameIn (t : Text) : Option Text :=
  let ends := fun c => Text.isBlank c || c == '>'
  match t.dropWhile fun c => !ends c with
  | [] => none
  | _ :: _ => some (t.takeWhile fun c => !ends c)

/-- The excluded element that a tag opens, by its name as it is written in the tag. -/
def opened (e : Exclusion) : Text → Option Text
  | [] => none
  | c :: t =>
    if c = '<' then
      match nameIn t with
      | some name => if e.excludes name then some name else opened e t
      | none => opened e t
    else opened e t

end Exclusion

/-- `true` if the tag holds the closing tag of an element, in any ASCII case. -/
def closes (tag name : Text) : Bool :=
  Text.contains ("</".toList ++ Text.asciiLower name ++ ">".toList) (Text.asciiLower tag)

/-- Where the walk over the tags stands. -/
inductive Mode where
  /-- Outside of excluded elements. -/
  | scanning
  /-- Inside of the excluded element with this name. -/
  | excluded (name : Text)
deriving DecidableEq, Repr

/-- Where the walk stands behind a tag. -/
def Mode.after (e : Exclusion) (tag : Text) : Mode → Mode
  | .scanning =>
    match e.opened tag with
    | some name => .excluded name
    | none => .scanning
  | .excluded name => if closes tag name then .scanning else .excluded name

/-- What is logged behind a tag: an excluded element that opens. -/
def Mode.notes (e : Exclusion) (tag : Text) : Mode → List Note
  | .scanning =>
    match e.opened tag with
    | some name => [⟨.trace, "Skipping content of <".toList ++ name ++ ">".toList⟩]
    | none => []
  | .excluded _ => []

/-- What is logged at the end of the text: an excluded element that is still open. -/
def Mode.notesAtEnd : Mode → List Note
  | .scanning => []
  | .excluded name =>
    [⟨.trace, '<' :: name ++ "> is never closed, skipped the remaining text".toList⟩]

end BareUrl.Markup
