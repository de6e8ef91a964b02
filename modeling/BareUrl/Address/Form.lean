import BareUrl.Address.Basic

/-!
# `BareUrl.Address.Form`: pairs in a query

The parameters of a request are pairs of a name and a value in the query of its address. `encode`
writes them: a blank becomes a plus sign, and all but letters, digits and four signs is escaped, so
that neither a name nor a value can end early. `decode` reads any query back into pairs.
-/

set_option autoImplicit false

namespace BareUrl.Address.Form

/-- `true` for a character that stands for itself. -/
def isPlain (c : Char) : Bool := c.isAlphanum || "*-._".toList.elem c

/-- A name or value as it is written. -/
def encodeText (t : Text) : Text :=
  t.flatMap fun c => if isPlain c then [c] else if c = ' ' then ['+'] else Percent.escapeChar c

/-- A pair as it is written. -/
def encodePair (pair : Text × Text) : Text := encodeText pair.1 ++ '=' :: encodeText pair.2

/-- Pairs as they are written, one after another. -/
def encode (pairs : List (Text × Text)) : Text := Text.joinWith ['&'] (pairs.map encodePair)

/-- The name or value that is written. -/
def decodeText (t : Text) : Text :=
  Text.Utf8.decodeLossy (Percent.unescape (t.map fun c => if c = '+' then ' ' else c))

/-- The pair that is written; without an equals sign the value is empty. -/
def decodePair (t : Text) : Text × Text :=
  let (name, value) := cutAt '=' t
  (decodeText name, decodeText (value.getD []))

/-- The pairs that a query holds. -/
def decode (query : Text) : List (Text × Text) :=
  ((Text.splitOn '&' query).filter (· ≠ [])).map decodePair

end BareUrl.Address.Form

namespace BareUrl.Address

/-- The address with pairs added to its query. -/
def addPairs (a : Address) (pairs : List (Text × Text)) : Address :=
  let added := Form.encode pairs
  { a with query := some (match a.query with
      | none | some [] => added
      | some query => query ++ '&' :: added) }

end BareUrl.Address
