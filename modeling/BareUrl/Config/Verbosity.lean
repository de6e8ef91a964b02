import BareUrl.Note

/-!
# `BareUrl.Config.Verbosity`: how much is logged

Warnings and errors are shown where nothing else is chosen. Each step up shows one level more, and
each step down one level less, until there is nothing left to show.
-/

set_option autoImplicit false

namespace BareUrl

/-- How many levels more than usual are shown; fewer if the number is negative. -/
structure Verbosity where
  steps : Int
deriving DecidableEq, Repr

namespace Verbosity

/-- What is shown where nothing is chosen. -/
def usual : Verbosity := ⟨0⟩

/-- The last level that is shown, if any is. -/
def threshold (v : Verbosity) : Option Level :=
  if v.steps ≤ -2 then none
  else if v.steps = -1 then some .error
  else if v.steps = 0 then some .warn
  else if v.steps = 1 then some .info
  else if v.steps = 2 then some .debug
  else some .trace

/-- The name of the last level that is shown. -/
def name (v : Verbosity) : String := (v.threshold.map Level.name).getD "OFF"

/-- `true` if a note is shown. -/
def shows (v : Verbosity) (n : Note) : Bool := v.threshold.any fun l => n.level.depth ≤ l.depth

/-- The verbosity that is named by the last level that is shown, in any case. -/
def ofName? (t : Text) : Option Verbosity :=
  match String.ofList (Text.asciiLower t) with
  | "off" => some ⟨-2⟩
  | "error" => some ⟨-1⟩
  | "warn" => some ⟨0⟩
  | "warning" => some ⟨0⟩
  | "info" => some ⟨1⟩
  | "debug" => some ⟨2⟩
  | "trace" => some ⟨3⟩
  | _ => none

end Verbosity

end BareUrl
