import BareUrl.Text.Blank
import BareUrl.Text.Cut
import BareUrl.Text.Decimal

/-!
# `BareUrl.Markup.Comment`: comments and their mask

A comment may hold anything, also tags and URLs, which must neither break the reading of the
markup around it nor be changed. So every complete comment is replaced by a numbered token
before a text is read, and the bodies come back afterwards.

A comment starts with `<!--` and ends with the first `-->` behind that. One that is never closed
is no comment, and then no later one is closed either.
-/

set_option autoImplicit false

namespace BareUrl.Markup

/-- What a comment starts with. -/
def commentOpen : Text := "<!--".toList

/-- What a comment ends with. -/
def commentClose : Text := "-->".toList

/-- The next complete comment; its token is the body. -/
def nextComment : Scan Text := fun t =>
  match h : Text.cut commentOpen t with
  | none => none
  | some (gap, after) =>
    match h' : Text.cut commentClose after with
    | none => none
    | some (body, rest) =>
      some ⟨gap, body, rest,
        Nat.lt_trans (Text.length_lt_of_cut h' (by decide)) (Text.length_lt_of_cut h (by decide))⟩

/-- The text cut at its complete comments. -/
def comments (t : Text) : Cut Text := Scan.run nextComment t

/-- A comment with the given body. -/
def comment (body : Text) : Text := commentOpen ++ body ++ commentClose

/-- The body that stands for the comment with the given number while it is masked. -/
def maskToken (index : Nat) : Text := ' ' :: Text.Decimal.ofNat index ++ [' ']

/-- The parts of a cut with the comments replaced by tokens, numbered from `index` on. -/
def maskParts (index : Nat) : List (Text × Text) → Text
  | [] => []
  | (gap, _) :: rest => gap ++ comment (maskToken index) ++ maskParts (index + 1) rest

/-- The text with every comment masked, and the bodies in order of appearance. -/
def mask (t : Text) : Text × List Text :=
  let c := comments t
  (maskParts 0 c.parts ++ c.last, c.tokens)

/-- The body that a comment body stands for: the one whose number it is, blanks aside, and
itself if it is no such number. The number is a place among the bodies, however many there are,
so no limit of its own is set to it. -/
def unmaskBody (bodies : Array Text) (body : Text) : Text :=
  match Text.Decimal.read? (Text.trim body) with
  | some index => bodies[index]?.getD body
  | none => body

/-- The text with the masked bodies back in place of their tokens. Comments that carry no number
of a masked body stay as they are. -/
def unmask (bodies : List Text) (t : Text) : Text :=
  if bodies = [] then t
  else
    let table := bodies.toArray
    (comments t).render fun body => comment (unmaskBody table body)

end BareUrl.Markup
