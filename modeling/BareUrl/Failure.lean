import BareUrl.Address.Fault
import BareUrl.Exchange.Header
import BareUrl.Status
import BareUrl.Text.Basic

/-!
# `BareUrl.Failure`: what can go wrong

A `Failure` is a cause: which setting is invalid, or what became of a request. The wording is in
one place, `Failure.message`; the cause behind a failure, where it has one, in `Failure.cause`.

Some failures carry a fault that others have found: in a pattern, in an address, in a request or in
the value of a header. Here a fault is only compared and put into words, so what it is stays open.
The faults that the rest of the library finds are the default.

Two failures are equal if they are of the same kind and agree in what that kind compares
(`Failure.same`). Their digests (`Failure.digest`) are what a hash table may tell them apart by:
equal failures have equal digests, but failures of different kinds may share one.
-/

set_option autoImplicit false

namespace BareUrl

/-- Faults that can be put into words. -/
class Worded (Fault : Type) where
  /-- The wording of a fault. -/
  wording : Fault → Text

/-- Why a set of patterns cannot be used. -/
inductive PatternFault where
  /-- The pattern is not well formed. -/
  | malformed (pattern : Text)
  /-- The patterns need more room than is allowed. -/
  | tooLarge
deriving DecidableEq, Repr

/-- The wording of a pattern fault. -/
def PatternFault.message : PatternFault → Text
  | .malformed pattern => "regex parse error:\n    ".toList ++ pattern
  | .tooLarge => "Compiled regex exceeds size limit of 10485760 bytes.".toList

instance : Worded PatternFault := ⟨PatternFault.message⟩

instance : Worded Address.Fault := ⟨fun fault => fault.message.toList⟩

/-- Why the client that sends requests has no result. -/
inductive ClientFault where
  /-- The client or a request could not be put together. -/
  | building
  /-- The request could not be sent, or there was no answer to it. -/
  | sending
  /-- There were too many redirects. -/
  | redirecting
  /-- The body of the answer is not what it should be. -/
  | decoding
deriving DecidableEq, Repr

/-- The wording of a client fault. -/
def ClientFault.message : ClientFault → Text
  | .building => "builder error".toList
  | .sending => "error sending request".toList
  | .redirecting => "error following redirect".toList
  | .decoding => "error decoding response body".toList

instance : Worded ClientFault := ⟨ClientFault.message⟩

/-- Why a text is not the value of a header. -/
inductive ValueFault where
  /-- It has a character that headers cannot hold. -/
  | badCharacter
deriving DecidableEq, Repr

/-- The wording of the fault of a value. -/
def ValueFault.message : ValueFault → Text
  | .badCharacter => Exchange.Header.valueFault

instance : Worded ValueFault := ⟨ValueFault.message⟩

/-- What can go wrong when a converter is made or a URL is looked up. -/
inductive Failure (Pattern : Type := PatternFault) (Url : Type := Address.Fault)
    (Client : Type := ClientFault) (Value : Type := ValueFault) where
  /-- The names of the excluded elements make too large a pattern. -/
  | invalidPattern (fault : Pattern)
  /-- A protocol is not the scheme of a URI. -/
  | invalidProtocol (name : Text)
  /-- There is no protocol, so no URL could ever be found. -/
  | emptyProtocols
  /-- An excluded element has no valid name. -/
  | invalidTagName (name : Text)
  /-- The URL schemes of a provider make too large a pattern. -/
  | invalidProviderScheme (schemes : Text) (fault : Pattern)
  /-- The endpoint of a provider is not an address. -/
  | invalidUrl (text : Text) (fault : Url)
  /-- The client that sends requests cannot be made. -/
  | buildRequestClient (fault : Client)
  /-- A request found no answer. -/
  | networkRequest (fault : Client)
  /-- The body of an answer could not be read. -/
  | readResponseBody (fault : Client)
  /-- The endpoint answered with a status that is no success. -/
  | rejectedStatusCode (code : Nat)
  /-- The value of a header cannot be sent. -/
  | invalidHeaderValue (fault : Value)
deriving DecidableEq, Repr

namespace Failure

open Worded (wording)

variable {Pattern Url Client Value : Type}

/-- The value of a header has a character that headers cannot hold. -/
@[match_pattern]
abbrev invalidHeader : Failure := .invalidHeaderValue .badCharacter

/-- The wording of a failure. -/
def message [Worded Client] : Failure Pattern Url Client Value → Text
  | .invalidPattern _ => "Cannot compile URL pattern".toList
  | .invalidProtocol name =>
    "Invalid protocol `".toList ++ name ++ "`: expected a URI scheme like `https`".toList
  | .emptyProtocols => "At least one protocol is required to match URLs".toList
  | .invalidTagName name => "Invalid tag name `".toList ++ name ++ "`".toList
  | .invalidProviderScheme schemes _ =>
    "Invalid URL scheme `".toList ++ schemes ++ "` for oEmbed provider".toList
  | .invalidUrl text _ => "Cannot parse `".toList ++ text ++ "` as URL".toList
  | .buildRequestClient fault => "Error creating request client: ".toList ++ wording fault
  | .networkRequest _ => "Network error while requesting oEmbed data".toList
  | .readResponseBody fault => "Error reading oEmbed response body: ".toList ++ wording fault
  | .rejectedStatusCode code =>
    "oEmbed endpoint rejected the URL with status code ".toList ++ (Status.text code).toList
  | .invalidHeaderValue _ => "Header could not be parsed.".toList

/-- The text of the fault behind a failure, if there is one. -/
def cause [Worded Pattern] [Worded Url] [Worded Client] [Worded Value] :
    Failure Pattern Url Client Value → Option Text
  | .invalidPattern fault => some (wording fault)
  | .invalidProviderScheme _ fault => some (wording fault)
  | .invalidUrl _ fault => some (wording fault)
  | .buildRequestClient fault => some (wording fault)
  | .networkRequest fault => some (wording fault)
  | .readResponseBody fault => some (wording fault)
  | .invalidHeaderValue fault => some (wording fault)
  | .invalidProtocol _ | .emptyProtocols | .invalidTagName _ | .rejectedStatusCode _ => none

/-- Equality of failures: the same kind, and equal in what that kind compares. Faults of the
client count by their wording, and those of a header's value do not count. -/
def same [BEq Pattern] [BEq Url] [Worded Client] :
    Failure Pattern Url Client Value → Failure Pattern Url Client Value → Bool
  | .invalidPattern f, .invalidPattern g => f == g
  | .invalidProtocol a, .invalidProtocol b => a = b
  | .emptyProtocols, .emptyProtocols => true
  | .invalidTagName a, .invalidTagName b => a = b
  | .invalidProviderScheme a f, .invalidProviderScheme b g => a = b && f == g
  | .invalidUrl a f, .invalidUrl b g => a = b && f == g
  | .buildRequestClient f, .buildRequestClient g => wording f = wording g
  | .networkRequest f, .networkRequest g => wording f = wording g
  | .readResponseBody f, .readResponseBody g => wording f = wording g
  | .rejectedStatusCode a, .rejectedStatusCode b => a = b
  | .invalidHeaderValue _, .invalidHeaderValue _ => true
  | _, _ => false

/-- What a hash table knows of a failure. -/
inductive Digest where
  | text (t : Text)
  | pair (t u : Text)
  | code (n : Nat)
  | kind
deriving DecidableEq, Repr

/-- The digest of a failure: the text it carries, or the text of the fault behind it. The kind
itself does not enter, except where a failure carries nothing. -/
def digest [Worded Pattern] [Worded Url] [Worded Client] [Worded Value] :
    Failure Pattern Url Client Value → Digest
  | .invalidPattern fault => .text (wording fault)
  | .invalidProtocol name => .text name
  | .invalidTagName name => .text name
  | .invalidProviderScheme schemes fault => .pair schemes (wording fault)
  | .invalidUrl text fault => .pair text (wording fault)
  | .buildRequestClient fault => .text (wording fault)
  | .networkRequest fault => .text (wording fault)
  | .readResponseBody fault => .text (wording fault)
  | .rejectedStatusCode code => .code code
  | .invalidHeaderValue fault => .text (wording fault)
  | .emptyProtocols => .kind

end Failure

end BareUrl
