import BareUrl.Text.Digits

/-!
# `BareUrl.Text.Decimal`: numbers in decimal

`ofNat` writes a number in decimal and `read?` reads one back. Reading is as lenient as a reader
of command lines and tokens has to be: a plus sign may stand in front and zeros may lead, but
there is a digit, and nothing else stands beside the digits. `toNat?` reads a number that fits
into 64 bits.
-/

set_option autoImplicit false

namespace BareUrl.Text.Decimal

/-- A number in decimal. -/
def ofNat (n : Nat) : Text := Nat.toDigits 10 n

/-- The largest number that is read. -/
def limit : Nat := 0xFFFFFFFFFFFFFFFF

/-- The number that a text of decimal digits stands for. -/
def read? (t : Text) : Option Nat :=
  let digits := (Text.stripLead ['+'] t).getD t
  if digits ≠ [] ∧ digits.all Char.isDigit then some (Digits.number 10 digits) else none

/-- The number that a text of decimal digits stands for, if it is at most `limit`. -/
def toNat? (t : Text) : Option Nat :=
  match read? t with
  | some n => if n ≤ limit then some n else none
  | none => none

end BareUrl.Text.Decimal
