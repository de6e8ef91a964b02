import BareUrl.Exchange.Header
import BareUrl.Text.Blank

/-!
# `BareUrl.Config.HeaderLine`: headers in one line

On a command line a header is written as its name, a colon and its value. White space around either
does not matter. What is said of a line that is no header never shows its value, which may be a
secret.
-/

set_option autoImplicit false

namespace BareUrl.HeaderLine

/-- What is wrong with a line. -/
inductive Fault where
  /-- There is no colon. -/
  | noColon
  /-- What stands before the colon is not a name. -/
  | badName (name : Text)
  /-- What follows the colon is not a value. -/
  | badValue (name : Text)
  /-- The value has characters beyond ASCII. -/
  | notPlain
deriving DecidableEq, Repr

/-- The wording of what is wrong with a line. -/
def Fault.message : Fault → Text
  | .noColon =>
    "Invalid header format. Expected colon-separated string in the format ".toList ++
      "'HeaderName: HeaderValue'".toList
  | .badName name =>
    "Unable to convert header name '".toList ++ name ++ "': ".toList ++ Exchange.Header.nameFault
  | .badValue name =>
    "Unable to read value of header with name '".toList ++ name ++ "': ".toList ++
      Exchange.Header.valueFault
  | .notPlain => "Header value contains invalid UTF-8".toList

/-- The name, in lower case, and the value of the header that a line is. -/
def read (line : Text) : Except Fault (Text × Text) :=
  match Text.cut [':'] line with
  | none => .error .noColon
  | some (before, after) =>
    let name := Text.trim before
    let value := Text.trim after
    if Exchange.Header.isName name then
      if Exchange.Header.isValue value then
        if Exchange.Header.isPlain value then .ok (Text.asciiLower name, value)
        else .error .notPlain
      else .error (.badValue (Text.asciiLower name))
    else .error (.badName name)

end BareUrl.HeaderLine
