import BareUrl.Text.Composition.Order
import BareUrl.Text.Composition.Parts

/-!
# `BareUrl.Text.Composition`: letters and marks in composed form

An accented letter can be written as one character or as a letter and a mark. `compose` brings a
text into the form in which every letter is written with as few characters as possible: all
letters are taken apart, the marks behind each letter are put in order of their class, and what
makes one character is put together again. Hangul syllables follow from arithmetic.
-/

set_option autoImplicit false

namespace BareUrl.Text.Composition

/-- The class of a mark, and 0 for every other character. -/
def markClass (c : Char) : Nat := (markClasses.find? c.toNat).getD 0

/-- The parts of a Hangul syllable: its first consonant, its vowel, and its last consonant. -/
def hangulParts (c : Nat) : Option (List Nat) :=
  if 0xAC00 ≤ c ∧ c ≤ 0xD7A3 then
    let s := c - 0xAC00
    let head := [0x1100 + s / 588, 0x1161 + s % 588 / 28]
    some (if s % 28 = 0 then head else head ++ [0x11A7 + s % 28])
  else none

/-- The Hangul syllable that two parts make. -/
def hangulPair (a b : Nat) : Option Nat :=
  if 0x1100 ≤ a ∧ a ≤ 0x1112 ∧ 0x1161 ≤ b ∧ b ≤ 0x1175 then
    some (0xAC00 + ((a - 0x1100) * 21 + (b - 0x1161)) * 28)
  else if 0xAC00 ≤ a ∧ a ≤ 0xD7A3 ∧ (a - 0xAC00) % 28 = 0 ∧ 0x11A8 ≤ b ∧ b ≤ 0x11C2 then
    some (a + (b - 0x11A7))
  else none

/-- The parts of a character, which may be itself alone. -/
def takeApart (c : Char) : Text :=
  (((hangulParts c.toNat).or (parts.find? c.toNat)).getD [c.toNat]).map Char.ofNat

/-- The character that two characters make. -/
def pair (a b : Char) : Option Char :=
  ((hangulPair a.toNat b.toNat).or (pairs.find? (pairKey a.toNat b.toNat))).map Char.ofNat

/-- Puts a character in front of ordered ones: a mark moves behind the marks of lower classes. -/
def insertMark (c : Char) : Text → Text
  | [] => [c]
  | d :: t =>
    if 0 < markClass d ∧ markClass d < markClass c then d :: insertMark c t else c :: d :: t

/-- The text with the marks behind each letter in order of their class. -/
def orderMarks (t : Text) : Text := t.foldr insertMark []

/-- Puts a text together behind a letter and the marks that have stayed apart from it, the last of
them first. A mark gets to the letter unless one of its own class or a higher one is in between. -/
def putTogether (letter : Char) (apart : Text) : Text → Text
  | [] => letter :: apart.reverse
  | c :: t =>
    let reaches := match apart with
      | [] => true
      | m :: _ => markClass m < markClass c
    match if reaches then pair letter c else none with
    | some composed => putTogether composed apart t
    | none =>
      if markClass c = 0 then letter :: apart.reverse ++ putTogether c [] t
      else putTogether letter (c :: apart) t

/-- The composed form of a text. -/
def compose (t : Text) : Text :=
  match orderMarks (t.flatMap takeApart) with
  | [] => []
  | c :: rest => putTogether c [] rest

end BareUrl.Text.Composition
