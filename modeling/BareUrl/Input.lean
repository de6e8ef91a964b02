import BareUrl.Note
import BareUrl.Text.Utf8

/-!
# `BareUrl.Input`: where texts come from

A text to convert comes from a file or from standard input, which a lone hyphen stands for. Its
bytes should be UTF-8; those that are not are replaced, with a warning, so that every input can be
converted.
-/

set_option autoImplicit false

namespace BareUrl

/-- Where a text comes from. -/
inductive Input where
  | standardInput
  | file (path : Text)
deriving DecidableEq, Repr

namespace Input

/-- The input that an argument names. -/
def ofArgument (raw : Text) : Input := if raw = ['-'] then .standardInput else .file raw

/-- The input as it is named in messages. -/
def text : Input → Text
  | .standardInput => "stdin".toList
  | .file path => path

/-- What is said of a file that cannot be read. -/
def unreadable (path : Text) : Text := "Cannot read input file `".toList ++ path ++ ['`']

/-- The text of the bytes of an input, and what is logged about it. -/
def decode (i : Input) (bytes : List UInt8) : Text × List Note :=
  match Text.Utf8.decode? bytes with
  | some t => (t, [])
  | none =>
    (Text.Utf8.decodeLossy bytes,
      [⟨.warn, i.text ++ " is not valid UTF-8, invalid bytes were replaced".toList⟩])

end Input

end BareUrl
