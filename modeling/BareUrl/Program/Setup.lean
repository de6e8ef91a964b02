import BareUrl.Config.Basic
import BareUrl.Provider.Known

/-!
# `BareUrl.Program.Setup`: from configurations to converters

A configuration can be read and still make no sense: a protocol may be none, or a header may not
be sendable. `Config.setup` makes the converter and chooses the resolver, or says what is wrong.
The providers are checked first, then what requests need, if there are to be any, and the settings
of the conversion last.
-/

set_option autoImplicit false

namespace BareUrl

/-- How it is decided whether a URL can be embedded. -/
inductive Lookup where
  /-- By the patterns of providers alone. -/
  | offline (providers : List Provider)
  /-- By the answers of endpoints. -/
  | online (resolver : Resolver.Online)

/-- The resolver that decides. -/
def Lookup.resolver {σ : Type} (l : Lookup) (network : Exchange.Network σ) : Resolver σ :=
  match l with
  | .offline providers => Resolver.offline providers
  | .online resolver => resolver.resolver network

/-- All that a run needs. -/
structure Setup where
  converter : Converter
  lookup : Lookup

/-- What is wrong with a configuration. -/
inductive SetupFault where
  /-- A provider is none. -/
  | provider (failure : Failure)
  /-- A header is none. -/
  | header (fault : Exchange.HeaderFault)
  /-- Requests cannot be sent as they are configured. -/
  | requests (failure : Failure)
  /-- Nothing can be converted with these settings. -/
  | settings (failure : Failure)
deriving DecidableEq, Repr

/-- The wording of a failure together with that of its cause. -/
def Failure.fullMessage (f : Failure) : Text :=
  f.message ++ (f.cause.map (": ".toList ++ ·)).getD []

/-- The wording of what is wrong with a configuration. -/
def SetupFault.message : SetupFault → Text
  | .provider f => "Invalid oEmbed provider in configuration: ".toList ++ f.fullMessage
  | .header f => f.message
  | .requests f => "Cannot create oEmbed resolver: ".toList ++ f.fullMessage
  | .settings f => "Invalid conversion settings: ".toList ++ f.fullMessage

namespace Config

/-- The providers to ask, in order. -/
def allProviders (c : Config) : Except Failure (List Provider) :=
  (c.providers.mapM fun p => Provider.make p.name p.endpoint p.schemes).map (· ++ Provider.known)

/-- What is logged where nobody is asked. -/
def offlineNote (providers : List Provider) : Note :=
  ⟨.debug, "Offline mode: matching URL schemes of ".toList ++
    Text.Decimal.ofNat providers.length ++ " providers".toList⟩

/-- Chooses how it is decided whether a URL can be embedded, and tells what is logged. -/
def lookup (c : Config) : Except SetupFault Lookup × List Note :=
  match c.allProviders with
  | .error f => (.error (.provider f), [])
  | .ok providers =>
    if c.offline then (.ok (.offline providers), [offlineNote providers])
    else
      match Exchange.Headers.ofPairs c.headers with
      | .error f => (.error (.header f), [])
      | .ok headers =>
        match Resolver.Online.make providers headers c.agent (some (c.timeout * 1000)) with
        | .error f => (.error (.requests f), [])
        | .ok resolver => (.ok (.online resolver), [])

/-- Makes what a run needs, and tells what is logged. -/
def setup (c : Config) : Except SetupFault Setup × List Note :=
  match c.lookup with
  | (.error f, notes) => (.error f, notes)
  | (.ok lookup, notes) =>
    match Converter.make c.settings with
    | .error f => (.error (.settings f), notes)
    | .ok converter => (.ok ⟨converter, lookup⟩, notes)

end Config

end BareUrl
