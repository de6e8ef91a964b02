import BareUrl.Text.Basic

/-!
# `BareUrl.Text.Utf8`: texts as bytes

Files, answers and addresses are bytes. `encode` writes a text in UTF-8, one to four bytes for
each character. Reading takes the bytes apart into `pieces`: each is a character, or a stretch of
bytes that is none. Such a stretch is as long as it can be while it still is the beginning of a
character, and at least one byte.

- `decode?` reads bytes that are UTF-8 throughout, and nothing else.
- `decodeLossy` reads any bytes, with a replacement character for each stretch that is none.
-/

set_option autoImplicit false

namespace BareUrl.Text.Utf8

/-- The bytes of a text. -/
def encode (t : Text) : List UInt8 := t.flatMap String.utf8EncodeChar

/-- What the first byte of a character of several bytes says: how many bytes follow, the bounds
of the first of them, and the leading bits of the character. The bounds keep out what a shorter
form could say, surrogates, and what lies beyond the last code point. -/
def lead (b : Nat) : Option (Nat × Nat × Nat × Nat) :=
  if 0xC2 ≤ b ∧ b ≤ 0xDF then some (1, 0x80, 0xBF, b - 0xC0)
  else if b = 0xE0 then some (2, 0xA0, 0xBF, 0)
  else if b = 0xED then some (2, 0x80, 0x9F, b - 0xE0)
  else if 0xE1 ≤ b ∧ b ≤ 0xEF then some (2, 0x80, 0xBF, b - 0xE0)
  else if b = 0xF0 then some (3, 0x90, 0xBF, 0)
  else if 0xF1 ≤ b ∧ b ≤ 0xF3 then some (3, 0x80, 0xBF, b - 0xF0)
  else if b = 0xF4 then some (3, 0x80, 0x8F, b - 0xF0)
  else none

/-- Reads the given number of further bytes, the first of them within bounds, behind the bits
read so far: the code point, if none is missing, and the bytes that follow. -/
def tails : Nat → Nat → Nat → Nat → List UInt8 → Option Nat × List UInt8
  | 0, _, _, bits, bytes => (some bits, bytes)
  | _ + 1, _, _, _, [] => (none, [])
  | n + 1, lo, hi, bits, b :: bytes =>
    if lo ≤ b.toNat ∧ b.toNat ≤ hi then
      tails n 0x80 0xBF (bits * 64 + (b.toNat - 0x80)) bytes
    else (none, b :: bytes)

/-- The first piece of bytes that start with `b`, and the bytes that follow it. -/
def next (b : UInt8) (bytes : List UInt8) : Option Char × List UInt8 :=
  if b.toNat < 0x80 then (some (Char.ofNat b.toNat), bytes)
  else
    match lead b.toNat with
    | none => (none, bytes)
    | some (n, lo, hi, bits) =>
      let (code, rest) := tails n lo hi bits bytes
      (code.map Char.ofNat, rest)

theorem length_tails_le (n lo hi bits : Nat) (bytes : List UInt8) :
    (tails n lo hi bits bytes).2.length ≤ bytes.length := by
  induction n generalizing lo hi bits bytes with
  | zero => simp [tails]
  | succ n ih =>
    cases bytes with
    | nil => simp [tails]
    | cons b bytes =>
      unfold tails
      split
      · exact Nat.le_succ_of_le (ih _ _ _ _)
      · exact Nat.le_refl _

theorem length_next_le (b : UInt8) (bytes : List UInt8) :
    (next b bytes).2.length ≤ bytes.length := by
  unfold next
  split
  · exact Nat.le_refl _
  · split
    · exact Nat.le_refl _
    · exact length_tails_le _ _ _ _ _

/-- The pieces of some bytes: characters, and `none` for a stretch that is none. -/
def pieces : List UInt8 → List (Option Char)
  | [] => []
  | b :: bytes => (next b bytes).1 :: pieces (next b bytes).2
termination_by bytes => bytes.length
decreasing_by exact Nat.lt_succ_of_le (length_next_le b bytes)

/-- The text of bytes that are UTF-8 throughout. -/
def decode? (bytes : List UInt8) : Option Text := (pieces bytes).mapM id

/-- The text of any bytes, with a replacement character for each stretch that is no character. -/
def decodeLossy (bytes : List UInt8) : Text := (pieces bytes).map fun p => p.getD '\ufffd'

end BareUrl.Text.Utf8
