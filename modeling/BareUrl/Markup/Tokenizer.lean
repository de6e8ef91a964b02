import BareUrl.Markup.Reference.Table
import BareUrl.Markup.Reference.Unclosed
import BareUrl.Text.Cut
import BareUrl.Text.Digits
import BareUrl.Text.Utf8

/-!
# `BareUrl.Markup.Tokenizer`: the character data of a text

A tokenizer of HTML resolves the references in a text. It is asked about texts without tags, and
gives the bytes of their character data.

`Tokenizer.standard` goes by the rules of HTML. They are lenient: a number ends at the first
character that is no digit of it, with or without a semicolon, and where no listed name is closed by
a semicolon, a known beginning of it is enough, so that `&notit;` becomes `¬it;`. An `&` in front of
anything else stands for itself.
-/

set_option autoImplicit false

namespace BareUrl.Markup

/-- Gives the bytes of the character data of a text. -/
abbrev Tokenizer := Text → List UInt8

namespace Tokenizer

open Reference (character lookup unclosedNames)

/-- The character of the digits at the start of a text, if there are any, and how many characters
are resolved by it: the digits, and a semicolon behind them. -/
def number (base : Nat) (isDigit : Char → Bool) (t : Text) : Option (Text × Nat) :=
  let digits := t.takeWhile isDigit
  let closed := (t.dropWhile isDigit).head? = some ';'
  if digits = [] then none
  else some ([character (Text.Digits.number base digits)],
    if closed then digits.length + 1 else digits.length)

/-- The characters of the longest known name at the start of a text, and how many characters are
resolved by it. A name with its semicolon is longer than any beginning of it. -/
def name (t : Text) : Option (Text × Nat) :=
  let letters := t.takeWhile Char.isAlphanum
  let closed := (t.dropWhile Char.isAlphanum).head? = some ';'
  match if closed then lookup letters else none with
  | some characters => some (characters, letters.length + 1)
  | none =>
    match (unclosedNames.filter (·.isPrefixOf t)).maxOn? List.length with
    | some known => (lookup known).map (·, known.length)
    | none => none

/-- What is resolved behind an `&`, and how many characters are resolved by it. -/
def resolved : Text → Option (Text × Nat)
  | '#' :: 'x' :: t => (number 16 Text.Digits.isHexadecimal t).map fun (cs, n) => (cs, n + 2)
  | '#' :: 'X' :: t => (number 16 Text.Digits.isHexadecimal t).map fun (cs, n) => (cs, n + 2)
  | '#' :: t => (number 10 Char.isDigit t).map fun (cs, n) => (cs, n + 1)
  | t => name t

/-- A reference at the start of a text, complete or not, as the characters it is resolved to. -/
def here : Recogniser Text
  | '&' :: t =>
    (resolved t).map fun p => ⟨p.1, t.drop p.2, by
      rw [List.length_drop, List.length_cons]
      omega⟩
  | _ => none

/-- The text with all of its references resolved. -/
def characters (t : Text) : Text := (Scan.run here.leftmost t).render id

/-- The tokenizer that goes by the rules of HTML. -/
def standard : Tokenizer := fun t => Text.Utf8.encode (characters t)

end Tokenizer

end BareUrl.Markup
