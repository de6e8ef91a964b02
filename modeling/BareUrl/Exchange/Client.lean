import BareUrl.Address.Relative
import BareUrl.Exchange.Basic
import BareUrl.Failure

/-!
# `BareUrl.Exchange.Client`: sending requests

A client sends the same headers with every request and follows redirects, up to
`Client.redirectLimit` of them. It speaks the protocols of the web only, and an address that does
not fit into a request counts as none. Where it has no time to wait at all, no request gets through.
-/

set_option autoImplicit false

namespace BareUrl.Exchange

/-- What sends requests. -/
structure Client where
  headers : Headers
  /-- How long an answer may take, in milliseconds, if there is a limit. -/
  timeout : Option Nat

namespace Client

/-- How often a client is sent on at most. -/
def redirectLimit : Nat := 10

/-- `true` for the schemes that a client knows. -/
def speaks (scheme : Text) : Bool := scheme = "http".toList || scheme = "https".toList

/-- How many bytes the address of a request may have. -/
def addressLimit : Nat := 65534

/-- `true` for the addresses that fit into a request: they are not too long, and their host holds
none of four characters that a host could hold. -/
def fits (a : Address) : Bool :=
  a.text.length ≤ addressLimit && !a.authorityText.any "\"`\x7b\x7d".toList.elem

/-- `true` for the addresses that a client can ask. -/
def takes (a : Address) : Bool := speaks a.scheme && fits a

/-- Where an answer sends the client on to. -/
def redirection (address : Address) (r : Response) : Option Address :=
  if [301, 302, 303, 307, 308].elem r.status then
    match (r.header? "location".toList).map address.resolve with
    | some (.ok next) => if fits next then some next else none
    | _ => none
  else none

/-- Gets what is at an address, and is sent on as often as `hops` says. -/
def follow {σ : Type} (c : Client) (network : Network σ) :
    Nat → Address → σ → Except ClientFault Response × σ
  | hops, address, s =>
    if !takes address then (.error .building, s)
    else if c.timeout = some 0 then (.error .sending, s)
    else
      match network ⟨address, c.headers⟩ s with
      | (.silence, s) => (.error .sending, s)
      | (.answer response, s) =>
        match redirection address response, hops with
        | none, _ => (.ok response, s)
        | some _, 0 => (.error .redirecting, s)
        | some next, hops + 1 => follow c network hops next s

/-- Gets what is at an address. -/
def get {σ : Type} (c : Client) (network : Network σ) (address : Address) (s : σ) :
    Except ClientFault Response × σ :=
  follow c network redirectLimit address s

end Client

end BareUrl.Exchange
