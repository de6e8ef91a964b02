import BareUrl.Address.Domain
import BareUrl.Address.Fault
import BareUrl.Address.Ipv6
import BareUrl.Address.Percent

/-!
# `BareUrl.Address.Host`: hosts

A host is a name, an IPv4 address, or an IPv6 address in brackets. Addresses with a well-known
scheme have hosts of the Internet (`Host.read`): their names are put into ASCII, and a name that
ends in a number has to be an IPv4 address. With other schemes a host is any text that cannot be
taken for something else (`Host.readPlain`).
-/

set_option autoImplicit false

namespace BareUrl.Address

/-- The host of an address. -/
inductive Host where
  /-- A name. -/
  | name (t : Text)
  /-- An IPv4 address, as a number of 32 bits. -/
  | ipv4 (n : Nat)
  /-- An IPv6 address, as its eight pieces. -/
  | ipv6 (pieces : List Nat)
deriving DecidableEq, Repr

namespace Host

/-- The host as it is written in an address. -/
def text : Host → Text
  | .name t => t
  | .ipv4 n => Ipv4.write n
  | .ipv6 pieces => '[' :: Ipv6.write pieces ++ [']']

/-- The text between the brackets around it, for a text that starts with one. -/
def readBracketed (t : Text) : Except Fault Host :=
  match t.reverse with
  | ']' :: inner =>
    match Ipv6.read inner.reverse with
    | some pieces => .ok (.ipv6 pieces)
    | none => .error .badIpv6
  | _ => .error .badIpv6

/-- A host of the Internet. -/
def read (t : Text) : Except Fault Host :=
  match t with
  | '[' :: rest => readBracketed rest
  | _ =>
    match (Text.Utf8.decode? (Percent.unescape t)).bind Domain.toAscii? with
    | none => .error .badInternationalName
    | some [] => .error .emptyHost
    | some domain =>
      if Ipv4.endsInNumber domain then
        match Ipv4.read domain with
        | some n => .ok (.ipv4 n)
        | none => .error .badIpv4
      else .ok (.name domain)

/-- What no host may hold. -/
def forbidden : List Char := "\x00\t\n\r #/:<>?@[\\]^|".toList

/-- A host that need not be one of the Internet. -/
def readPlain (t : Text) : Except Fault Host :=
  match t with
  | '[' :: rest => readBracketed rest
  | _ =>
    if t.any fun c => forbidden.elem c then .error .badHostCharacter
    else .ok (.name (Percent.escape [] t))

end Host

end BareUrl.Address
