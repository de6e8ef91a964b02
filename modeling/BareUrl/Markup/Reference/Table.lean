import BareUrl.Markup.Reference.Capital
import BareUrl.Markup.Reference.Small

/-!
# `BareUrl.Markup.Reference.Table`: what numbers and names stand for

A reference by a number stands for one character, whatever the number is, and a reference by a name
for the one or two characters that are listed for the name.
-/

set_option autoImplicit false

namespace BareUrl.Markup.Reference

/-- Where the numbers 128 to 159 lead: to the characters of an old Western code page, which
documents use them for. Five of them lead nowhere else. -/
def westernCharacter : Nat → Nat
  | 0x80 => 0x20AC
  | 0x82 => 0x201A
  | 0x83 => 0x0192
  | 0x84 => 0x201E
  | 0x85 => 0x2026
  | 0x86 => 0x2020
  | 0x87 => 0x2021
  | 0x88 => 0x02C6
  | 0x89 => 0x2030
  | 0x8A => 0x0160
  | 0x8B => 0x2039
  | 0x8C => 0x0152
  | 0x8E => 0x017D
  | 0x91 => 0x2018
  | 0x92 => 0x2019
  | 0x93 => 0x201C
  | 0x94 => 0x201D
  | 0x95 => 0x2022
  | 0x96 => 0x2013
  | 0x97 => 0x2014
  | 0x98 => 0x02DC
  | 0x99 => 0x2122
  | 0x9A => 0x0161
  | 0x9B => 0x203A
  | 0x9C => 0x0153
  | 0x9E => 0x017E
  | 0x9F => 0x0178
  | n => n

/-- The character of a number. Zero, surrogates and what lies beyond the last code point have
none and become the replacement character. -/
def character (n : Nat) : Char :=
  if n ≠ 0 ∧ n.isValidChar then Char.ofNat (westernCharacter n) else '\ufffd'

/-- The characters that a name stands for. -/
def lookup : Text → Option Text
  | [] => none
  | c :: rest =>
    let entries := if c.isUpper then capitalNames c else smallNames c
    (entries.lookup (String.ofList (c :: rest))).map fun codes => codes.map Char.ofNat

end BareUrl.Markup.Reference
