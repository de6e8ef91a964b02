import BareUrl.Text.Basic

/-!
# `BareUrl.Json.Basic`: values of a data format

The answers of endpoints are values in JSON. A string in it may be well formed and still not be a
text, since it can hold bytes and halves of characters that are none; this matters only to a reader
who needs that string.

`Json.record` reads a record of optional texts, which is all that the answers are read for.
-/

set_option autoImplicit false

namespace BareUrl

/-- A value. Numbers are known only to be numbers. -/
inductive Json where
  | null
  | bool (b : Bool)
  | number
  /-- A string; `none` if it is not a text. -/
  | string (content : Option Text)
  | array (items : List Json)
  /-- Members in order of appearance, also if two have the same key. -/
  | object (members : List (Option Text × Json))

namespace Json

/-- A text that may be missing: `null` stands for none. -/
def optionalText : Json → Option (Option Text)
  | .null => some none
  | .string (some t) => some (some t)
  | _ => none

/-- The member with the given key, a text that may be missing. It may not be there at all, but not
be there twice. -/
def memberText (members : List (Option Text × Json)) (key : Text) : Option (Option Text) :=
  match members.filter fun m => m.1 == some key with
  | [] => some none
  | [m] => m.2.optionalText
  | _ => none

/-- A record of texts that may be missing, with the given keys. It is an object, in which members
with other keys do not count, or an array of as many items as there are keys, in their order. -/
def record (keys : List Text) : Json → Option (List (Option Text))
  | .object members =>
    if members.all fun m => m.1.isSome then keys.mapM (memberText members) else none
  | .array items => if items.length = keys.length then items.mapM optionalText else none
  | _ => none

end Json

end BareUrl
