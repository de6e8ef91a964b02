import BareUrl.CommandLine.Basic

/-!
# `BareUrl.CommandLine.Reader`: reading command lines

Arguments are read one by one. A flag that takes a value and has none attached waits for the next
argument. What such a flag says counts only once the argument behind its value is known to be
meaningful, so that of two mistakes an unknown flag is told first.

Behind two lone hyphens, all arguments are inputs.
-/

set_option autoImplicit false

namespace BareUrl.CommandLine

/-- How far reading has come. -/
structure Reading where
  /-- What has been said. -/
  said : CommandLine
  /-- The last flag, if what it says does not count yet, with its value once that has come. -/
  waiting : Option (Flag × Option Text)
  /-- All further arguments are inputs. -/
  onlyInputs : Bool

namespace Reading

/-- The last flag counts. -/
def settle (r : Reading) : Except Refusal CommandLine :=
  match r.waiting with
  | none => .ok r.said
  | some (f, none) => .error (.missingValue f)
  | some (f, some value) => r.said.noteValue f value

/-- A flag that takes no value. -/
def flag (r : Reading) (f : Flag) : Except Refusal Reading := do
  let said ← (← r.settle).note f
  return { r with said := said, waiting := none }

/-- A flag with its value attached. -/
def flagWith (r : Reading) (f : Flag) (value : Text) : Except Refusal Reading := do
  let said ← (← r.settle).noteValue f value
  return { r with said := said, waiting := none }

/-- A flag that waits for its value. -/
def flagWaiting (r : Reading) (f : Flag) : Except Refusal Reading := do
  return { r with said := ← r.settle, waiting := some (f, none) }

/-- An input. -/
def input (r : Reading) (argument : Text) : Except Refusal Reading := do
  let said ← r.settle
  let inputs := said.inputs ++ [.ofArgument argument]
  return { r with said := { said with inputs := inputs }, waiting := none }

/-- What stands behind two hyphens: the name of a flag, and its value behind an equals sign. -/
def long (r : Reading) (body : Text) : Except Refusal Reading :=
  let name := body.takeWhile (· ≠ '=')
  match Flag.ofName? name, (body.dropWhile (· ≠ '=')).tail? with
  | none, _ => .error (.unknownFlag ("--".toList ++ name))
  | some f, none => if f.takesValue then r.flagWaiting f else r.flag f
  | some f, some value =>
    if f.takesValue then r.flagWith f value else .error (.surplusValue f)

/-- What stands behind one hyphen: letters of flags, and behind one that takes a value its value,
in front of which there may be an equals sign. -/
def short : Text → Reading → Except Refusal Reading
  | [], r => .ok r
  | c :: rest, r =>
    match Flag.ofLetter? c with
    | none => .error (.unknownFlag ['-', c])
    | some f =>
      if f.takesValue then
        match rest with
        | [] => r.flagWaiting f
        | '=' :: value => r.flagWith f value
        | value => r.flagWith f value
      else
        match r.flag f with
        | .ok r => short rest r
        | .error e => .error e

/-- An argument that is no flag: the value that is waited for, or an input. -/
def plain (r : Reading) (argument : Text) : Except Refusal Reading :=
  match r.waiting with
  | some (f, none) => .ok { r with waiting := some (f, some argument) }
  | _ => r.input argument

/-- One argument further. -/
def step (r : Reading) (argument : Text) : Except Refusal Reading :=
  if r.onlyInputs then r.input argument
  else
    match argument with
    | ['-', '-'] => .ok { r with onlyInputs := true }
    | '-' :: '-' :: body => r.long body
    | '-' :: c :: rest => short (c :: rest) r
    | _ => r.plain argument

/-- What has been said, once all arguments are read. -/
def finish (r : Reading) : Except Refusal CommandLine :=
  match r.settle with
  | .error e => .error e
  | .ok said =>
    if 0 < said.louder ∧ 0 < said.quieter then .error .louderAndQuieter
    else if said.inputs = [] then .error .noInput
    else .ok said

end Reading

/-- What the arguments of a command line say. -/
def read (arguments : List Text) : Except Refusal CommandLine :=
  match arguments.foldlM Reading.step ⟨.empty, none, false⟩ with
  | .error e => .error e
  | .ok r => r.finish

end BareUrl.CommandLine
