import BareUrl.Json.Basic
import BareUrl.Json.Token

/-!
# `BareUrl.Json.Reader`: reading JSON

A value is read token by token. What has been opened and not yet closed is kept as a stack of
frames, so that no depth of nesting is too much, and each token is one step.
-/

set_option autoImplicit false

namespace BareUrl.Json

/-- An array or object that is being read, with what it holds so far, the last first. -/
inductive Frame where
  /-- An array; its next item is being read. -/
  | array (before : List Json)
  /-- An object; the value at a key is being read. -/
  | object (before : List (Option Text × Json)) (key : Option Text)

/-- What may come next. -/
inductive Expected where
  /-- A value. -/
  | value
  /-- The first item of an array, or its end. -/
  | itemOrEnd
  /-- The first key of an object, or its end. -/
  | keyOrEnd
  /-- A further key of an object that holds some members. -/
  | key (before : List (Option Text × Json))
  /-- The colon behind a key. -/
  | colon (before : List (Option Text × Json)) (key : Option Text)
  /-- What follows a value that is complete. -/
  | after (value : Json)

/-- How far reading has come: the frames that are open, innermost first, and what is next. -/
structure Reading where
  frames : List Frame
  expected : Expected

namespace Reading

/-- A value starts with the token. -/
def startValue (frames : List Frame) : Token → Option Reading
  | .openArray => some ⟨frames, .itemOrEnd⟩
  | .openObject => some ⟨frames, .keyOrEnd⟩
  | .null => some ⟨frames, .after .null⟩
  | .bool b => some ⟨frames, .after (.bool b)⟩
  | .number => some ⟨frames, .after .number⟩
  | .string content => some ⟨frames, .after (.string content)⟩
  | _ => none

/-- One token further. -/
def step (r : Reading) (token : Token) : Option Reading :=
  match r.expected, r.frames, token with
  | .value, frames, token => startValue frames token
  | .itemOrEnd, frames, .closeArray => some ⟨frames, .after (.array [])⟩
  | .itemOrEnd, frames, token => startValue (.array [] :: frames) token
  | .keyOrEnd, frames, .closeObject => some ⟨frames, .after (.object [])⟩
  | .keyOrEnd, frames, .string key => some ⟨frames, .colon [] key⟩
  | .key before, frames, .string key => some ⟨frames, .colon before key⟩
  | .colon before key, frames, .colon => some ⟨.object before key :: frames, .value⟩
  | .after v, .array before :: frames, .comma => some ⟨.array (v :: before) :: frames, .value⟩
  | .after v, .array before :: frames, .closeArray =>
    some ⟨frames, .after (.array (v :: before).reverse)⟩
  | .after v, .object before key :: frames, .comma => some ⟨frames, .key ((key, v) :: before)⟩
  | .after v, .object before key :: frames, .closeObject =>
    some ⟨frames, .after (.object ((key, v) :: before).reverse)⟩
  | _, _, _ => none

/-- The value, once all is read and closed. -/
def value? (r : Reading) : Option Json :=
  match r.expected, r.frames with
  | .after v, [] => some v
  | _, _ => none

end Reading

/-- The value that bytes are. -/
def read? (bytes : List UInt8) : Option Json :=
  ((tokens? bytes).bind fun ts => ts.foldlM Reading.step ⟨[], .value⟩).bind Reading.value?

end BareUrl.Json
