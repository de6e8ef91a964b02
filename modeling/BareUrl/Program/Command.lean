import BareUrl.Converter
import BareUrl.Program.Sink

/-!
# `BareUrl.Program.Command`: the two commands

`convert` writes the conversions of all inputs one after another; `dump` writes a line for each
URL that would be looked up, with the answer about it. Both read their inputs one by one and stop
at the first that cannot be read; what has been written until then stays.
-/

set_option autoImplicit false

namespace BareUrl.Program

/-- Where a command stands: the surroundings, its output, and the state of the resolver. -/
structure Scene (σ : Type) where
  surroundings : Surroundings
  sink : Sink
  asked : σ

/-- How a command ends: well, or with a message of what went wrong. -/
abbrev Ending := Except Text Unit

namespace Command

/-- Does a step for each input. The step is given the text of the input and tells its output. -/
def eachInput {σ : Type} (step : Input → Text → σ → Traced σ Text) :
    List Input → Scene σ → Traced (Scene σ) Ending
  | [], s => .still (.ok ()) s
  | i :: rest, s =>
    match s.surroundings.read i with
    | none => .still (.error (Input.unreadable i.text)) s
    | some (bytes, left) =>
      let (t, notes) := i.decode bytes
      let x := step i t s.asked
      let (sink, left) := s.sink.write (Text.Utf8.encode x.result) left
      (eachInput step rest ⟨left, sink, x.state⟩).after (notes ++ x.notes)

/-- Writes what is still collected. -/
def finish {σ α : Type} (x : Traced (Scene σ) α) : Traced (Scene σ) α :=
  let (sink, left) := x.state.sink.flush x.state.surroundings
  ⟨x.result, x.notes, ⟨left, sink, x.state.asked⟩⟩

/-- Converts an input. -/
def convertInput {σ : Type} (c : Converter) (r : Resolver σ) (i : Input) (t : Text) (s : σ) :
    Traced σ Text :=
  let x := c.convert r t s
  ⟨x.result, x.notes ++ [⟨.info, "Converted ".toList ++ i.text⟩], x.state⟩

/-- The line of a dump: the URL as it is written in the input, and the answer about it. -/
def dumpLine (f : Url.Found) (answer : Answer) : Text :=
  let shown := match answer with
    | .ok resolution => resolution.text
    | .error failure => "error: ".toList ++ failure.message
  f.url ++ " [".toList ++ shown ++ [']']

/-- Looks up the URLs of a text, and tells a line for each. -/
def dumpLines {σ : Type} (c : Converter) (r : Resolver σ) (t : Text) (s : σ) :
    Traced σ (List Text) :=
  let (found, notes) := c.find t
  (Traced.each (fun f s => (r (Markup.decode f.url) s).map (dumpLine f)) found s).after notes

/-- Dumps an input. -/
def dumpInput {σ : Type} (c : Converter) (r : Resolver σ) (_ : Input) (t : Text) (s : σ) :
    Traced σ Text :=
  (dumpLines c r t s).map fun lines => lines.flatMap (· ++ ['\n'])

/-- Converts inputs. -/
def convert {σ : Type} (c : Converter) (r : Resolver σ) (inputs : List Input) (s : Scene σ) :
    Traced (Scene σ) Ending :=
  finish (eachInput (convertInput c r) inputs s)

/-- Dumps inputs. -/
def dump {σ : Type} (c : Converter) (r : Resolver σ) (inputs : List Input) (s : Scene σ) :
    Traced (Scene σ) Ending :=
  finish (eachInput (dumpInput c r) inputs s)

end Command

end BareUrl.Program
