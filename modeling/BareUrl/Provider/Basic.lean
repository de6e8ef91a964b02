import BareUrl.Address.Basic
import BareUrl.Failure
import BareUrl.Provider.Wildcard

/-!
# `BareUrl.Provider.Basic`: providers

A provider serves embeds for some URLs: it has a name, an endpoint that answers questions about
them, and patterns that say which URLs these are. The patterns of one provider have at most
`Provider.asteriskLimit` asterisks altogether.
-/

set_option autoImplicit false

namespace BareUrl

/-- A provider of embeds. -/
structure Provider where
  name : Text
  endpoint : Address
  schemes : List Text
deriving DecidableEq, Repr

namespace Provider

/-- How many asterisks the patterns may have altogether. -/
def asteriskLimit : Nat := 10000

/-- How many asterisks patterns have altogether. -/
def asterisks (schemes : List Text) : Nat := schemes.foldl (fun n s => n + s.count '*') 0

/-- The provider with the given name, endpoint and patterns. -/
def make (name endpoint : Text) (schemes : List Text) : Except Failure Provider :=
  match Address.read endpoint with
  | .error fault => .error (.invalidUrl endpoint fault)
  | .ok address =>
    if asterisks schemes ≤ asteriskLimit then .ok ⟨name, address, schemes⟩
    else .error (.invalidProviderScheme (Text.joinWith ", ".toList schemes) .tooLarge)

/-- `true` if the provider serves the URL: one of its patterns fits. -/
def serves (p : Provider) (url : Text) : Bool := p.schemes.any fun s => Wildcard.fits s url

end Provider

end BareUrl
