import BareUrl.Text.Decimal

/-!
# `BareUrl.Address.Ipv4`: hosts that are numbers

A host whose last part is a number is an IPv4 address, or nothing. Each of its one to four parts is
decimal, octal behind a `0`, or hexadecimal behind `0x`; all parts but the last are bytes, and the
last one fills the bytes that are left. It is written as four decimal bytes.
-/

set_option autoImplicit false

namespace BareUrl.Address.Ipv4

/-- The number that a part of the host is. -/
def number? (t : Text) : Option Nat :=
  match t with
  | [] => none
  | '0' :: 'x' :: digits => Text.Digits.number? 16 digits
  | '0' :: 'X' :: digits => Text.Digits.number? 16 digits
  | '0' :: digits => Text.Digits.number? 8 digits
  | digits => Text.Digits.number? 10 digits

/-- The parts of a host between its dots; a dot at the end does not count. -/
def partsOf (host : Text) : List Text :=
  let parts := Text.splitOn '.' host
  if 1 < parts.length ∧ parts.getLast? = some [] then parts.dropLast else parts

/-- `true` if the last part of the host is a number. -/
def endsInNumber (host : Text) : Bool :=
  match (partsOf host).getLast? with
  | none => false
  | some last => (last ≠ [] && last.all Char.isDigit) || (number? last).isSome

/-- How many values a number of bytes has. -/
def byteValues : Nat → Nat
  | 0 => 1
  | bytes + 1 => 256 * byteValues bytes

/-- The value of numbers that are bytes, except that the last one fills the rest of four bytes. -/
def value : Nat → List Nat → Option Nat
  | _, [] => none
  | room, [n] => if n < byteValues room then some n else none
  | room, n :: ns =>
    if n < 256 ∧ 0 < room then (value (room - 1) ns).map (n * byteValues (room - 1) + ·) else none

/-- The address that a host is. -/
def read (host : Text) : Option Nat :=
  let parts := partsOf host
  if parts.length ≤ 4 then (parts.mapM number?).bind (value 4) else none

/-- An address as four decimal bytes. -/
def write (n : Nat) : Text :=
  Text.joinWith ['.'] (([n / 0x1000000, n / 0x10000, n / 0x100, n].map fun b => b % 256).map
    Text.Decimal.ofNat)

end BareUrl.Address.Ipv4
