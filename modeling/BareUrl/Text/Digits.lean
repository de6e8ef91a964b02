import BareUrl.Text.Basic

/-!
# `BareUrl.Text.Digits`: numbers in a base

Character references, the numbers of a host, escapes and settings are numbers in base 2, 8, 10 or
16, most significant digit first. The letters of hexadecimal digits may be small or capital;
`digit` writes capitals.
-/

set_option autoImplicit false

namespace BareUrl.Text.Digits

/-- The value of a hexadecimal digit, of which the decimal digits are some. -/
def value? (c : Char) : Option Nat :=
  if c.isDigit then some (c.toNat - '0'.toNat)
  else if 'a' ≤ c ∧ c ≤ 'f' then some (c.toNat - 'a'.toNat + 10)
  else if 'A' ≤ c ∧ c ≤ 'F' then some (c.toNat - 'A'.toNat + 10)
  else none

/-- `true` for a hexadecimal digit. -/
def isHexadecimal (c : Char) : Bool := (value? c).isSome

/-- `true` for a digit in a base up to 16. -/
def isIn (base : Nat) (c : Char) : Bool := (value? c).any (· < base)

/-- The number that digits stand for. -/
def number (base : Nat) (digits : Text) : Nat :=
  digits.foldl (fun n c => n * base + (value? c).getD 0) 0

/-- The number that a text stands for, if it has digits only. No digit at all counts as zero. -/
def number? (base : Nat) (t : Text) : Option Nat :=
  if t.all (isIn base) then some (number base t) else none

/-- A hexadecimal digit, in capitals. -/
def digit (n : Nat) : Char :=
  if n < 10 then Char.ofNat ('0'.toNat + n) else Char.ofNat ('A'.toNat + (n - 10))

end BareUrl.Text.Digits
