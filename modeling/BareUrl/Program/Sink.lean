import BareUrl.Program.Surroundings

/-!
# `BareUrl.Program.Sink`: buffered output

Output is collected before it is written, at most `Sink.capacity` bytes at a time. What is still
collected is not in the file yet, so a run that reads the file it writes to does not see it.
-/

set_option autoImplicit false

namespace BareUrl.Program

/-- Output on its way to a target. -/
structure Sink where
  target : Target
  pending : List UInt8
deriving DecidableEq, Repr

namespace Sink

/-- How many bytes are collected at most. -/
def capacity : Nat := 8192

/-- Opens a sink. A file is empty afterwards; `none` if it cannot be created. -/
def open? (target : Target) (w : Surroundings) : Option (Sink × Surroundings) :=
  match target with
  | .standardOutput => some (⟨target, []⟩, w)
  | .file path => if w.canCreate path then some (⟨target, []⟩, w.withFile path []) else none

/-- Writes what has been collected. -/
def flush (s : Sink) (w : Surroundings) : Sink × Surroundings :=
  (⟨s.target, []⟩, w.append s.target s.pending)

/-- Takes more output: it is collected if there is room for it behind what has been collected or,
failing that, once that is written; output that fills the room alone is written at once. -/
def write (s : Sink) (bytes : List UInt8) (w : Surroundings) : Sink × Surroundings :=
  if s.pending.length + bytes.length < capacity then (⟨s.target, s.pending ++ bytes⟩, w)
  else
    let (s, w) := if capacity < s.pending.length + bytes.length then s.flush w else (s, w)
    if capacity ≤ bytes.length then (s, w.append s.target bytes)
    else (⟨s.target, s.pending ++ bytes⟩, w)

end Sink

end BareUrl.Program
