import BareUrl.Config.Verbosity
import BareUrl.Converter
import BareUrl.Resolver.Online

/-!
# `BareUrl.Config.Basic`: configurations

A configuration says what is converted, whom to ask about URLs, and where the output goes. Settings
come from the command line and from a file; `Config.merge` joins the two. A setting of the file
counts where the command line leaves the setting as it usually is. Headers are joined by name, and
further providers come from the file alone.
-/

set_option autoImplicit false

namespace BareUrl

/-- A provider as it is configured. -/
structure ProviderEntry where
  name : Text
  endpoint : Text
  schemes : List Text
deriving DecidableEq, Repr

/-- A configuration. -/
structure Config where
  verbosity : Verbosity
  /-- The file to write to, if it is not standard output. -/
  output : Option Text
  /-- The text that has to stand in front of a URL. -/
  leader : Text
  protocols : List Text
  excluded : List Text
  /-- Nobody is asked; the patterns of the providers decide. -/
  offline : Bool
  /-- How many seconds an answer may take. -/
  timeout : Nat
  /-- How the requests name their sender. -/
  agent : Text
  headers : List (Text × Text)
  /-- The URLs are listed instead of replaced. -/
  dump : Bool
  /-- The providers that are asked before those that are known from the start. -/
  providers : List ProviderEntry
deriving DecidableEq, Repr

namespace Config

/-- The configuration where nothing is chosen. -/
def usual : Config where
  verbosity := .usual
  output := none
  leader := Settings.usual.leader
  protocols := Settings.usual.protocols
  excluded := Settings.usual.excluded
  offline := false
  timeout := Resolver.Online.usualTimeout
  agent := Resolver.Online.usualAgent
  headers := []
  dump := false
  providers := []

/-- What is chosen about conversions. -/
def settings (c : Config) : Settings := ⟨c.leader, c.protocols, c.excluded⟩

/-- The pairs with the value of a name, which may be new to them. -/
def putHeader (pairs : List (Text × Text)) (name value : Text) : List (Text × Text) :=
  if pairs.any fun p => p.1 == name then
    pairs.map fun p => if p.1 == name then (name, value) else p
  else pairs ++ [(name, value)]

/-- The headers of a file and of a command line. Their names are in lower case and different; of
several values the last one counts, and those of the command line come last. -/
def mergeHeaders (file chosen : List (Text × Text)) : List (Text × Text) :=
  (file ++ chosen).foldl (fun pairs h => putHeader pairs (Text.asciiLower h.1) h.2) []

/-- The chosen setting, or that of the file if the usual one is chosen. -/
def pick {α : Type} [DecidableEq α] (usual chosen file : α) : α :=
  if chosen = usual then file else chosen

/-- What is chosen, and behind it what a file says. -/
def merge (chosen file : Config) : Config where
  verbosity := pick usual.verbosity chosen.verbosity file.verbosity
  output := pick usual.output chosen.output file.output
  leader := pick usual.leader chosen.leader file.leader
  protocols := pick usual.protocols chosen.protocols file.protocols
  excluded := pick usual.excluded chosen.excluded file.excluded
  offline := pick usual.offline chosen.offline file.offline
  timeout := pick usual.timeout chosen.timeout file.timeout
  agent := pick usual.agent chosen.agent file.agent
  headers := mergeHeaders file.headers chosen.headers
  dump := pick usual.dump chosen.dump file.dump
  providers := file.providers

end Config

end BareUrl
