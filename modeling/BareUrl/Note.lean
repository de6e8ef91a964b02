import BareUrl.Text.Basic

/-!
# `BareUrl.Note`: what is logged

A note is a message with a level. Functions that log return their notes, in order, beside their
result; which of them reach the reader is decided by a threshold at the very end.
-/

set_option autoImplicit false

namespace BareUrl

/-- How much a note matters, from what went wrong down to each single step. -/
inductive Level where
  | error | warn | info | debug | trace
deriving DecidableEq, Repr

/-- The name of the level in front of a note. -/
def Level.name : Level → String
  | .error => "ERROR"
  | .warn => "WARN"
  | .info => "INFO"
  | .debug => "DEBUG"
  | .trace => "TRACE"

/-- How far down the level lies: 1 for errors, 5 for single steps. -/
def Level.depth : Level → Nat
  | .error => 1
  | .warn => 2
  | .info => 3
  | .debug => 4
  | .trace => 5

/-- A message that is logged. -/
structure Note where
  level : Level
  message : Text
deriving DecidableEq, Repr

/-- The line that shows a note. -/
def Note.line (n : Note) : Text := '[' :: n.level.name.toList ++ "] ".toList ++ n.message

end BareUrl
