import BareUrl.Address.Form
import BareUrl.Exchange.Header

/-!
# `BareUrl.Exchange.Basic`: requests and replies

A request asks for what is at an address and carries headers. What becomes of it is up to the
network, which may change its state on the way: there is an answer, or silence.
-/

set_option autoImplicit false

namespace BareUrl.Exchange

/-- A request for what is at an address. -/
structure Request where
  address : Address
  headers : Headers
deriving DecidableEq, Repr

/-- The first line of a request. Fragments are not sent. -/
def Request.line (r : Request) : Text :=
  "GET ".toList ++ r.address.path.text ++ (r.address.query.map ('?' :: ·)).getD [] ++
    " HTTP/1.1".toList

/-- The answer to a request. -/
structure Response where
  status : Nat
  headers : List (Text × Text)
  body : List UInt8
deriving DecidableEq, Repr

/-- What the answer holds. One without content holds nothing, whatever comes behind it. -/
def Response.content (r : Response) : List UInt8 := if r.status = 204 then [] else r.body

/-- The value of the first header with the given name, in any case. -/
def Response.header? (r : Response) (name : Text) : Option Text :=
  (r.headers.find? fun h => Text.asciiLower h.1 == Text.asciiLower name).map Prod.snd

/-- What becomes of a request. -/
inductive Reply where
  | answer (response : Response)
  /-- Nothing comes back, or not in time. -/
  | silence
deriving DecidableEq, Repr

/-- What takes requests. -/
abbrev Network (σ : Type) := Request → σ → Reply × σ

/-- A state together with the requests that were sent in it, in order. -/
structure Sent (σ : Type) where
  requests : List Request
  inner : σ

/-- The network that keeps a record of the requests to another one. -/
def Network.recorded {σ : Type} (n : Network σ) : Network (Sent σ) := fun r s =>
  let (reply, inner) := n r s.inner
  (reply, ⟨s.requests ++ [r], inner⟩)

end BareUrl.Exchange
