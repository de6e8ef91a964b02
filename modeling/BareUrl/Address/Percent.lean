import BareUrl.Text.Digits
import BareUrl.Text.Utf8

/-!
# `BareUrl.Address.Percent`: bytes written with a percent sign

An address is ASCII. A character that may not stand where it is, or that lies beyond ASCII, is
written as the bytes of its UTF-8 form, each as `%` and two hexadecimal digits. Which characters
that are depends on the part of the address; controls are always among them.

`escape` writes and `unescape` reads. A percent sign without two hexadecimal digits stands for
itself.
-/

set_option autoImplicit false

namespace BareUrl.Address.Percent

/-- A byte with a percent sign. -/
def escapeByte (b : UInt8) : Text :=
  ['%', Text.Digits.digit (b.toNat / 16), Text.Digits.digit (b.toNat % 16)]

/-- All bytes of a character with percent signs. -/
def escapeChar (c : Char) : Text := (String.utf8EncodeChar c).flatMap escapeByte

/-- `true` for a printable ASCII character or a blank; no other may stand for itself. -/
def isBare (c : Char) : Bool := 0x20 ≤ c.toNat && c.toNat < 0x7F

/-- The text with the characters of `extra`, controls and all beyond ASCII escaped. -/
def escape (extra : List Char) (t : Text) : Text :=
  t.flatMap fun c => if isBare c && !extra.elem c then [c] else escapeChar c

/-- What is escaped in a fragment. -/
def fragmentSet : List Char := " \"<>`".toList

/-- What is escaped in a path. -/
def pathSet : List Char := fragmentSet ++ "#?\x7b\x7d".toList

/-- What is escaped in the name of a user and in a password. -/
def userSet : List Char := pathSet ++ "/:;=@[\\]^|".toList

/-- What is escaped in a query. -/
def querySet : List Char := " \"#<>".toList

/-- What is escaped in the query of an address with a well-known scheme. -/
def specialQuerySet : List Char := '\'' :: querySet

/-- The bytes that a text with percent signs stands for. -/
def unescape : Text → List UInt8
  | [] => []
  | '%' :: a :: b :: t =>
    match Text.Digits.value? a, Text.Digits.value? b with
    | some x, some y => UInt8.ofNat (16 * x + y) :: unescape t
    | _, _ => 0x25 :: unescape (a :: b :: t)
  | c :: t => String.utf8EncodeChar c ++ unescape t
termination_by t => t.length

end BareUrl.Address.Percent
