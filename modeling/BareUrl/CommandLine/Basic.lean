import BareUrl.CommandLine.Flag
import BareUrl.Config.Basic
import BareUrl.Config.HeaderLine
import BareUrl.Input

/-!
# `BareUrl.CommandLine.Basic`: what is chosen on a command line

`CommandLine` holds what a command line says, and nothing for the flags that it does not give.
`CommandLine.config` is the configuration that it chooses: what is not given is as usual.
-/

set_option autoImplicit false

namespace BareUrl

/-- What a command line says. -/
structure CommandLine where
  inputs : List Input
  configFile : Option Text
  /-- How often more, and how often less is to be logged. -/
  louder : Nat
  quieter : Nat
  output : Option Text
  leader : Option Text
  protocols : Option (List Text)
  excluded : Option (List Text)
  offline : Bool
  timeout : Option Nat
  agent : Option Text
  headers : List (Text × Text)
  dump : Bool
deriving DecidableEq, Repr

namespace CommandLine

/-- The command line that says nothing. -/
def empty : CommandLine :=
  ⟨[], none, 0, 0, none, none, none, none, false, none, none, [], false⟩

/-- How much is to be logged. -/
def verbosity (c : CommandLine) : Verbosity := ⟨c.louder - c.quieter⟩

/-- The configuration that is chosen. -/
def config (c : CommandLine) : Config where
  verbosity := c.verbosity
  output := c.output
  leader := c.leader.getD Config.usual.leader
  protocols := c.protocols.getD Config.usual.protocols
  excluded := c.excluded.getD Config.usual.excluded
  offline := c.offline
  timeout := c.timeout.getD Config.usual.timeout
  agent := c.agent.getD Config.usual.agent
  headers := c.headers
  dump := c.dump
  providers := []

/-- Why there is nothing to run. -/
inductive Refusal where
  /-- Help is asked for. -/
  | help
  /-- The version is asked for. -/
  | version
  /-- There is no such flag. -/
  | unknownFlag (written : Text)
  /-- A flag lacks its value, or has an empty one where that makes no sense. -/
  | missingValue (flag : Flag)
  /-- The value of a flag is not a number. -/
  | notNumber (flag : Flag)
  /-- The value of a flag is not a header. -/
  | notHeader (fault : HeaderLine.Fault)
  /-- A flag that takes no value has one. -/
  | surplusValue (flag : Flag)
  /-- A flag is given twice that can be given once. -/
  | repeated (flag : Flag)
  /-- More and less is to be logged. -/
  | louderAndQuieter
  /-- There is no input. -/
  | noInput
deriving DecidableEq, Repr

/-- What a flag without value says. -/
def note (c : CommandLine) (f : Flag) : Except Refusal CommandLine :=
  match f with
  | .verbose => .ok { c with louder := c.louder + 1 }
  | .quiet => .ok { c with quieter := c.quieter + 1 }
  | .offline => if c.offline then .error (.repeated f) else .ok { c with offline := true }
  | .dump => if c.dump then .error (.repeated f) else .ok { c with dump := true }
  | .help => .error .help
  | .version => .error .version
  | _ => .error (.missingValue f)

/-- What a flag with a value says. -/
def noteValue (c : CommandLine) (f : Flag) (value : Text) : Except Refusal CommandLine :=
  match f with
  | .config =>
    if c.configFile.isSome then .error (.repeated f)
    else if value = [] then .error (.missingValue f)
    else .ok { c with configFile := some value }
  | .output =>
    if c.output.isSome then .error (.repeated f)
    else if value = [] then .error (.missingValue f)
    else .ok { c with output := some value }
  | .urlPrefix =>
    if c.leader.isSome then .error (.repeated f) else .ok { c with leader := some value }
  | .protocols => .ok { c with protocols := some (c.protocols.getD [] ++ Text.splitOn ',' value) }
  | .excludeTag => .ok { c with excluded := some (c.excluded.getD [] ++ [value]) }
  | .timeout =>
    if c.timeout.isSome then .error (.repeated f)
    else
      match Text.Decimal.toNat? value with
      | some n => .ok { c with timeout := some n }
      | none => .error (.notNumber f)
  | .userAgent =>
    if c.agent.isSome then .error (.repeated f) else .ok { c with agent := some value }
  | .header =>
    match HeaderLine.read value with
    | .ok header => .ok { c with headers := c.headers ++ [header] }
    | .error fault => .error (.notHeader fault)
  | _ => .error (.surplusValue f)

end CommandLine

end BareUrl
