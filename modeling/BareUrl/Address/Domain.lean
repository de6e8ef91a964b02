import BareUrl.Address.Domain.Direction
import BareUrl.Address.Domain.Joining
import BareUrl.Address.Domain.Kept
import BareUrl.Address.Domain.Mark
import BareUrl.Address.Domain.Several
import BareUrl.Address.Domain.Single
import BareUrl.Address.Punycode
import BareUrl.Text.Composition

/-!
# `BareUrl.Address.Domain`: names of hosts

A host name may be written in any script, but in an address it is ASCII. `toAscii?` brings it
there: every character is kept, replaced, left out, or forbidden (`mapChar`); the result is put
into composed form and cut into labels at the dots; each label is checked; and labels that are not
ASCII are written with the mark `xn--` in front. Labels that carry this mark from the start have to
stand for a label that could have been written in its place.

The checks are those on marks, on joiners, and on the direction of writing. How long a label is,
where its hyphens stand, and whether it is empty does not matter.
-/

set_option autoImplicit false

namespace BareUrl.Address.Domain

/-- `true` if the character is left out of a host name. -/
def isLeftOut (n : Nat) : Bool :=
  n == 0xAD || n == 0x34F || (0x115F ≤ n && n ≤ 0x1160) || (0x17B4 ≤ n && n ≤ 0x17B5) ||
    (0x180B ≤ n && n ≤ 0x180F) || n == 0x200B || (0x2060 ≤ n && n ≤ 0x2064) ||
    (0x206A ≤ n && n ≤ 0x206F) || n == 0x3164 || (0xFE00 ≤ n && n ≤ 0xFE0F) || n == 0xFEFF ||
    n == 0xFFA0 || (0x1BCA0 ≤ n && n ≤ 0x1BCA3) || (0x1D173 ≤ n && n ≤ 0x1D17A) ||
    (0xE0100 ≤ n && n ≤ 0xE01EF)

/-- `true` if the character stands in a host name as it is. Which ASCII characters may do so is
checked at the very end, when all of the name is ASCII. -/
def isKept (c : Char) : Bool :=
  if c.toNat < 0x80 then !c.isUpper else kept.mem c.toNat

/-- What becomes of a character in a host name, if it is not forbidden. -/
def mapChar (c : Char) : Option Text :=
  if isKept c then some [c]
  else if c.isUpper then some [c.toLower]
  else if isLeftOut c.toNat then some []
  else
    match single c.toNat with
    | some code => some [Char.ofNat code]
    | none => (several.find? c.toNat).map fun codes => codes.map Char.ofNat

/-- What no host name may hold, besides controls and blanks. -/
def forbidden : List Char := "%#/:<>?@[\\]^|".toList

/-- `true` if the ASCII character may stand in a host name. -/
def isAllowed (c : Char) : Bool := 0x20 < c.toNat && c.toNat != 0x7F && !forbidden.elem c

/-! ### Joiners -/

/-- `true` if, skipping what is transparent, the first character of the text joins the one behind
it in the direction of reading. -/
def joinsAt (sides : List Joining) (t : Text) : Bool :=
  match t.dropWhile fun c => joining c == .transparent with
  | [] => false
  | c :: _ => sides.elem (joining c)

/-- `true` if every joiner and non-joiner makes a difference where it stands; `before` is what
comes before the text, the last character first. A sign that suppresses a vowel may stand in front
of either; a non-joiner may also part two letters that would join. -/
def joinersFit (before : Text) : Text → Bool
  | [] => true
  | c :: t =>
    let suppressed := (before.head?.map Text.Composition.markClass) == some 9
    let fits :=
      if c = '\u200d' then suppressed
      else if c = '\u200c' then
        suppressed || (joinsAt [.after, .both] before && joinsAt [.before, .both] t)
      else true
    fits && joinersFit (c :: before) t

/-! ### Directions -/

/-- `true` if a label holds something that is written from right to left. -/
def turns (label : Text) : Bool :=
  label.any fun c =>
    match direction c with
    | .right | .arabicLetter | .arabicNumber => true
    | _ => false

/-- `true` if the last character of a label, marks aside, has one of the given directions. -/
def endsIn (ends : List Direction) (label : Text) : Bool :=
  match label.reverse.dropWhile fun c => direction c == .mark with
  | [] => false
  | c :: _ => ends.elem (direction c)

/-- `true` if a label keeps to one direction, as it has to in a name of which a part is written
from right to left. -/
def keepsDirection (label : Text) : Bool :=
  match label.map direction with
  | [] => true
  | first :: rest =>
    let all := first :: rest
    if first = .left then
      all.all (fun d => [.left, .number, .separator, .mark].elem d) && endsIn [.left, .number] label
    else if first = .right || first = .arabicLetter then
      all.all (fun d => d != .left) &&
        endsIn [.right, .arabicLetter, .number, .arabicNumber] label &&
        !(all.elem .number && all.elem .arabicNumber)
    else false

/-! ### Labels -/

/-- The mark of a label that is written in ASCII only for the sake of the address. -/
def mark : Text := "xn--".toList

/-- `true` if a label may stand in a host name, its direction aside. -/
def isValidLabel (label : Text) : Bool :=
  label.all isKept && !(label.head?.any fun c => marks.mem c.toNat) && joinersFit [] label

/-- The label that a label of a host name stands for. One with the mark stands for what is written
behind it, which must not be ASCII and must be in composed form. -/
def readLabel (label : Text) : Option Text :=
  match Text.stripLead mark label with
  | some written =>
    match Punycode.decode? written with
    | some meant =>
      if meant.any (fun c => !Punycode.isAscii c) && Text.Composition.compose meant == meant &&
          isValidLabel meant then
        some meant
      else none
    | none => none
  | none => if isValidLabel label then some label else none

/-- How many characters a label may have that is written with the mark. -/
def labelLimit : Nat := 1000

/-- A label in ASCII. -/
def writeLabel (label : Text) : Option Text :=
  if label.all Punycode.isAscii then some label
  else if label.length ≤ labelLimit then some (mark ++ Punycode.encode label)
  else none

/-- A host name in ASCII, if it is one. -/
def toAscii? (name : Text) : Option Text := do
  let mapped ← name.mapM mapChar
  let labels ← (Text.splitOn '.' (Text.Composition.compose mapped.flatten)).mapM readLabel
  if labels.any turns && !labels.all keepsDirection then none
  else
    let ascii ← labels.mapM writeLabel
    let result := Text.joinWith ['.'] ascii
    if result.all isAllowed then some result else none

end BareUrl.Address.Domain
