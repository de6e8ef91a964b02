import BareUrl.Text.Utf8

/-!
# `BareUrl.Json.Token`: the tokens of JSON

The bytes of a value are cut into tokens: brackets and marks, words, numbers and strings, with
white space between them. `tokens?` reads all of them, or none if something else is in between.

A string is read in two steps: `Token.units` goes to its end and checks its escapes, and `content`
puts its units together to a text, which fails on halves of characters and on bytes that are not
UTF-8.
-/

set_option autoImplicit false

namespace BareUrl.Json

/-- A token. -/
inductive Token where
  | openArray
  | closeArray
  | openObject
  | closeObject
  | colon
  | comma
  | null
  | bool (b : Bool)
  | number
  | string (content : Option Text)
deriving DecidableEq, Repr

namespace Token

/-- Blanks, tabs and line ends. -/
def isSpace (b : UInt8) : Bool := b == 0x20 || b == 0x09 || b == 0x0A || b == 0x0D

/-- `true` for a decimal digit. -/
def isDigit (b : UInt8) : Bool := 0x30 ≤ b && b ≤ 0x39

/-! ### Strings -/

/-- A unit of a string: a byte as it is, or an escaped number of 16 bits. -/
inductive StringUnit where
  | byte (b : UInt8)
  | code (n : Nat)
deriving DecidableEq, Repr

/-- What a letter behind a backslash stands for. -/
def escaped (b : UInt8) : Option UInt8 :=
  match Char.ofNat b.toNat with
  | '"' => some 0x22
  | '\\' => some 0x5C
  | '/' => some 0x2F
  | 'b' => some 0x08
  | 'f' => some 0x0C
  | 'n' => some 0x0A
  | 'r' => some 0x0D
  | 't' => some 0x09
  | _ => none

/-- The value of a hexadecimal digit. -/
def hexValue (b : UInt8) : Option Nat :=
  let n := b.toNat
  if 0x30 ≤ n ∧ n ≤ 0x39 then some (n - 0x30)
  else if 0x41 ≤ n ∧ n ≤ 0x46 then some (n - 0x41 + 10)
  else if 0x61 ≤ n ∧ n ≤ 0x66 then some (n - 0x61 + 10)
  else none

/-- Reads a string behind its opening quote: its units, and what follows its closing quote. -/
def units : List UInt8 → Option (List StringUnit × List UInt8)
  | [] => none
  | 0x22 :: rest => some ([], rest)
  | 0x5C :: 0x75 :: a :: b :: c :: d :: rest =>
    match hexValue a, hexValue b, hexValue c, hexValue d, units rest with
    | some w, some x, some y, some z, some (us, rest) =>
      some (.code (w * 4096 + x * 256 + y * 16 + z) :: us, rest)
    | _, _, _, _, _ => none
  | 0x5C :: e :: rest =>
    match escaped e, units rest with
    | some b, some (us, rest) => some (.byte b :: us, rest)
    | _, _ => none
  | b :: rest =>
    if b < 0x20 ∨ b = 0x5C then none else (units rest).map fun (us, rest) => (.byte b :: us, rest)

/-- The bytes that units stand for. Of the numbers from `0xD800` to `0xDFFF` it takes two, a high
one and a low one, for a character. -/
def bytesOf : List StringUnit → Option (List UInt8)
  | [] => some []
  | .byte b :: us => (bytesOf us).map (b :: ·)
  | .code high :: .code low :: us =>
    if 0xD800 ≤ high ∧ high < 0xDC00 then
      if 0xDC00 ≤ low ∧ low < 0xE000 then
        let n := 0x10000 + (high - 0xD800) * 0x400 + (low - 0xDC00)
        (bytesOf us).map (String.utf8EncodeChar (Char.ofNat n) ++ ·)
      else none
    else if 0xDC00 ≤ high ∧ high < 0xE000 then none
    else (bytesOf (.code low :: us)).map (String.utf8EncodeChar (Char.ofNat high) ++ ·)
  | .code n :: us =>
    if 0xD800 ≤ n ∧ n < 0xE000 then none
    else (bytesOf us).map (String.utf8EncodeChar (Char.ofNat n) ++ ·)

/-- The text that units stand for. -/
def content (us : List StringUnit) : Option Text := (bytesOf us).bind Text.Utf8.decode?

/-! ### Numbers -/

/-- What follows one or more digits. -/
def digits (bytes : List UInt8) : Option (List UInt8) :=
  match bytes with
  | b :: rest => if isDigit b then some (rest.dropWhile isDigit) else none
  | [] => none

/-- What follows an integer: a lone zero, or digits that do not start with one. -/
def integer (bytes : List UInt8) : Option (List UInt8) :=
  match bytes with
  | 0x30 :: rest => some rest
  | _ => digits bytes

/-- What follows a fraction, which may be missing. -/
def fraction (bytes : List UInt8) : Option (List UInt8) :=
  match bytes with
  | 0x2E :: rest => digits rest
  | _ => some bytes

/-- What follows an exponent, which may be missing. -/
def exponent (bytes : List UInt8) : Option (List UInt8) :=
  match bytes with
  | b :: rest =>
    if b = 0x65 ∨ b = 0x45 then
      match rest with
      | s :: more => if s = 0x2B ∨ s = 0x2D then digits more else digits rest
      | [] => none
    else some bytes
  | [] => some []

/-- What follows a number. -/
def number? (bytes : List UInt8) : Option (List UInt8) :=
  let unsigned := match bytes with
    | 0x2D :: rest => rest
    | _ => bytes
  ((integer unsigned).bind fraction).bind exponent

/-! ### Tokens -/

/-- What follows a word at the start of some bytes. -/
def word (w : String) (bytes : List UInt8) : Option (List UInt8) :=
  let w := w.toList.map fun c => UInt8.ofNat c.toNat
  if w.isPrefixOf bytes then some (bytes.drop w.length) else none

/-- The token at the start of some bytes, and what follows it. -/
def next (bytes : List UInt8) : Option (Token × List UInt8) :=
  match bytes with
  | [] => none
  | b :: rest =>
    match Char.ofNat b.toNat with
    | '[' => some (.openArray, rest)
    | ']' => some (.closeArray, rest)
    | '\x7b' => some (.openObject, rest)
    | '\x7d' => some (.closeObject, rest)
    | ':' => some (.colon, rest)
    | ',' => some (.comma, rest)
    | '"' => (units rest).map fun (us, rest) => (.string (content us), rest)
    | 'n' => (word "ull" rest).map (.null, ·)
    | 't' => (word "rue" rest).map (.bool true, ·)
    | 'f' => (word "alse" rest).map (.bool false, ·)
    | _ => (number? bytes).map (.number, ·)

/-- Reads tokens, at most as many as `fuel` says. -/
def readAll : Nat → List UInt8 → Option (List Token)
  | 0, bytes => if bytes.all isSpace then some [] else none
  | fuel + 1, bytes =>
    match bytes.dropWhile isSpace with
    | [] => some []
    | bytes =>
      match next bytes with
      | some (token, rest) => (readAll fuel rest).map (token :: ·)
      | none => none

end Token

/-- The tokens of some bytes. Every token has at least one byte, so there are at most as many. -/
def tokens? (bytes : List UInt8) : Option (List Token) := Token.readAll bytes.length bytes

end BareUrl.Json
