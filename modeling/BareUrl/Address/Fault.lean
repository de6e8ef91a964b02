/-!
# `BareUrl.Address.Fault`: why a text is no address

The reasons why the text of an endpoint cannot be read as a URL, and their wording.
-/

set_option autoImplicit false

namespace BareUrl

/-- A reason why a text is not the address of a resource. -/
inductive Address.Fault where
  /-- The host is missing where the scheme needs one. -/
  | emptyHost
  /-- The name of the host has no ASCII form. -/
  | badInternationalName
  /-- The port is no number below 65536. -/
  | badPort
  /-- A host that ends in a number is no IPv4 address. -/
  | badIpv4
  /-- A host in brackets is no IPv6 address. -/
  | badIpv6
  /-- A host holds a character that no host may hold. -/
  | badHostCharacter
  /-- There is no scheme, and nothing the address could be relative to. -/
  | relative
deriving DecidableEq, Repr

/-- The wording of the reason. -/
def Address.Fault.message : Address.Fault → String
  | .emptyHost => "empty host"
  | .badInternationalName => "invalid international domain name"
  | .badPort => "invalid port number"
  | .badIpv4 => "invalid IPv4 address"
  | .badIpv6 => "invalid IPv6 address"
  | .badHostCharacter => "invalid domain character"
  | .relative => "relative URL without a base"

end BareUrl
