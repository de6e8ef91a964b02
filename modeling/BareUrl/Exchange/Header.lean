import BareUrl.Text.Basic

/-!
# `BareUrl.Exchange.Header`: headers of requests

A header has a name and a value. Names are made of letters, digits and some signs, and their case
does not matter, so they are kept in lower case. Values hold no controls but tabs, and are not
empty.

`Headers.ofPairs` makes a list of headers from pairs of texts, in which a later header takes the
place of an earlier one with its name.
-/

set_option autoImplicit false

namespace BareUrl.Exchange

/-- A header. -/
structure Header where
  name : Text
  value : Text
deriving DecidableEq, Repr

/-- What is wrong with a header. -/
inductive HeaderFault where
  /-- The text is not the name of a header. -/
  | badName (text : Text)
  /-- The text is not the value of a header. -/
  | badValue (text : Text)
deriving DecidableEq, Repr

namespace Header

/-- The text of the fault of a name. -/
def nameFault : Text := "invalid HTTP header name".toList

/-- The text of the fault of a value. -/
def valueFault : Text := "failed to parse header value".toList

/-- `true` for a character of a name. -/
def isNameChar (c : Char) : Bool := c.isAlphanum || "!#$%&'*+-.^_`|~".toList.elem c

/-- How long a name may be. -/
def nameLimit : Nat := 65535

/-- `true` if the text is the name of a header. -/
def isName (t : Text) : Bool := t ≠ [] && t.all isNameChar && t.length ≤ nameLimit

/-- `true` for a character of a value. -/
def isValueChar (c : Char) : Bool := c == '\t' || (0x20 ≤ c.toNat && c.toNat != 0x7F)

/-- `true` if the text is the value of a header. -/
def isValue (t : Text) : Bool := t ≠ [] && t.all isValueChar

/-- `true` for a text that is readable as it is: visible ASCII, blanks and tabs. -/
def isPlain (t : Text) : Bool := t.all fun c => isValueChar c && c.toNat < 0x80

end Header

/-- The wording of what is wrong with a header. -/
def HeaderFault.message : HeaderFault → Text
  | .badName text => "Invalid header name '".toList ++ text ++ "': ".toList ++ Header.nameFault
  | .badValue text =>
    "Invalid header value '".toList ++ text ++ "': ".toList ++ Header.valueFault

/-- Headers with different names. -/
abbrev Headers := List Header

namespace Headers

/-- The value of the header with a name. -/
def get? (hs : Headers) (name : Text) : Option Text :=
  (hs.find? fun h => h.name == name).map Header.value

/-- The headers with one more, which takes the place of the one with its name. -/
def insert (hs : Headers) (h : Header) : Headers := hs.filter (fun g => g.name != h.name) ++ [h]

/-- The headers of pairs of names and values, put in from left to right. -/
def insertPairs (hs : Headers) : List (Text × Text) → Except HeaderFault Headers
  | [] => .ok hs
  | (name, value) :: rest =>
    if Header.isName name then
      if Header.isValue value then insertPairs (hs.insert ⟨Text.asciiLower name, value⟩) rest
      else .error (.badValue value)
    else .error (.badName name)

/-- The headers of pairs of names and values. -/
def ofPairs (pairs : List (Text × Text)) : Except HeaderFault Headers := insertPairs [] pairs

end Headers

end BareUrl.Exchange
