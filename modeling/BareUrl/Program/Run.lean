import BareUrl.CommandLine.Message
import BareUrl.Config.File
import BareUrl.Program.Command
import BareUrl.Program.Setup
import BareUrl.Resolver.Cached

/-!
# `BareUrl.Program.Run`: a run of the program

A run reads its command line, joins what it says with the settings file, makes a converter, opens
its output, and converts or dumps its inputs. It ends at the first of these steps that goes wrong.
Until its output is open, nothing around it changes and no request is sent.

How much is logged is up to the command line alone, since logging starts before the settings file is
read.
-/

set_option autoImplicit false

namespace BareUrl.Program

/-- How a run ends. -/
inductive Exit where
  | success
  /-- The output cannot be opened or an input cannot be read. -/
  | failure
  /-- The command line makes no sense. -/
  | misuse
  /-- The configuration makes no sense. -/
  | badConfig
deriving DecidableEq, Repr

/-- The number by which the caller learns how a run ended. -/
def Exit.code : Exit → Nat
  | .success => 0
  | .failure => 1
  | .misuse => 2
  | .badConfig => 3

/-- What a run leaves behind: how it ended, its surroundings, what it has to say on standard error,
and the state of the network. -/
structure Outcome (σ : Type) where
  exit : Exit
  surroundings : Surroundings
  said : List Text
  network : σ

/-- The file that settings are read from where no other is chosen, if it is there. -/
def usualConfigFile : Text := "urlembed.toml".toList

/-- The configuration in a file. -/
def readConfig (w : Surroundings) (path : Text) : Except Config.FileFault Config :=
  match w.contents? path with
  | some bytes => Config.ofBytes bytes
  | none => .error (if w.isDirectory path then .directory else .missing)

/-- What is said of a file that is no configuration. -/
def configFault (file path : Text) (fault : Config.FileFault) : Text :=
  "Error while loading config: Cannot load ".toList ++ file ++ " `".toList ++ path ++
    "`: ".toList ++ fault.message

/-- The configuration of a run, or what is said if there is none. -/
def configure (c : CommandLine) (w : Surroundings) : Except Text Config :=
  match c.configFile with
  | some path =>
    match readConfig w path with
    | .ok file => .ok (c.config.merge file)
    | .error fault => .error (configFault "configuration file".toList path fault)
  | none =>
    if (w.contents? usualConfigFile).isSome then
      match readConfig w usualConfigFile with
      | .ok file => .ok (c.config.merge file)
      | .error fault =>
        .error (configFault "default configuration file".toList usualConfigFile fault)
    else .ok c.config

/-- Where the output of a configuration goes. -/
def target (c : Config) : Target := (c.output.map Target.file).getD .standardOutput

/-- The lines that show notes. -/
def shownLines (v : Verbosity) (notes : List Note) : List Text :=
  (notes.filter v.shows).map Note.line

/-- The line that says why a run failed. -/
def failureLine (message : Text) : Text := "Error: ".toList ++ message

/-- Converts or dumps the inputs. The resolver is asked through a cache that all inputs share. -/
def workWith {σ : Type} (r : Resolver σ) (c : CommandLine) (config : Config) (converter : Converter)
    (w : Surroundings) (s : σ) : Outcome σ :=
  match Sink.open? (target config) w with
  | none => ⟨.failure, w, [failureLine "Cannot open output".toList], s⟩
  | some (sink, w) =>
    let command := if config.dump then Command.dump converter (Resolver.cached r)
      else Command.convert converter (Resolver.cached r)
    let x := command c.inputs ⟨w, sink, .empty s⟩
    let lines := shownLines c.verbosity x.notes
    match x.result with
    | .ok () => ⟨.success, x.state.surroundings, lines, x.state.asked.inner⟩
    | .error message =>
      ⟨.failure, x.state.surroundings, lines ++ [failureLine message], x.state.asked.inner⟩

/-- Converts or dumps the inputs with what a setup has made. -/
def work {σ : Type} (network : Exchange.Network σ) (c : CommandLine) (config : Config)
    (setup : Setup) (w : Surroundings) (s : σ) : Outcome σ :=
  workWith (setup.lookup.resolver network) c config setup.converter w s

/-- Runs with what a command line says. -/
def runWith {σ : Type} (network : Exchange.Network σ) (c : CommandLine) (w : Surroundings) (s : σ) :
    Outcome σ :=
  match configure c w with
  | .error message => ⟨.badConfig, w, shownLines c.verbosity [⟨.error, message⟩], s⟩
  | .ok config =>
    match config.setup with
    | (.error fault, notes) =>
      ⟨.badConfig, w, shownLines c.verbosity (notes ++ [⟨.error, fault.message⟩]), s⟩
    | (.ok setup, notes) =>
      let o := work network c config setup w s
      { o with said := shownLines c.verbosity notes ++ o.said }

/-- Runs with arguments. -/
def run {σ : Type} (network : Exchange.Network σ) (arguments : List Text) (w : Surroundings)
    (s : σ) : Outcome σ :=
  match CommandLine.read arguments with
  | .ok c => runWith network c w s
  | .error .help => ⟨.success, w.print CommandLine.helpText, [], s⟩
  | .error .version => ⟨.success, w.print CommandLine.versionText, [], s⟩
  | .error refusal => ⟨.misuse, w, ["error: ".toList ++ refusal.message], s⟩

end BareUrl.Program
