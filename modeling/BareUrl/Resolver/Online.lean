import BareUrl.Exchange.Client
import BareUrl.Json.Reader
import BareUrl.Resolver.Basic
import BareUrl.Status
import BareUrl.Text.Blank

/-!
# `BareUrl.Resolver.Online`: asking endpoints

The resolver that asks the endpoint of the first provider that serves a URL. The request holds the
URL as a parameter; the answer is a record in JSON, and the URL can be embedded if there is markup
in it. A URL that no provider serves cannot be embedded, and nobody is asked about it.

An endpoint that answers without success, or not with a record, makes the lookup fail, and so does
one that does not answer.
-/

set_option autoImplicit false

namespace BareUrl.Resolver

/-- The resolver that asks endpoints: who is asked, and by which client. -/
structure Online where
  providers : List Provider
  client : Exchange.Client

namespace Online

/-- How a resolver names itself where nothing else is chosen. -/
def usualAgent : Text := "urlembed/0.3.0".toList

/-- How many seconds an answer may take where nothing else is chosen. -/
def usualTimeout : Nat := 10

/-- The headers that every request carries besides those that are chosen, and instead of these
where the name is the same. -/
def ownHeaders (agent : Text) : Exchange.Headers :=
  [⟨"user-agent".toList, agent⟩, ⟨"accept".toList, "application/json".toList⟩]

/-- The header that tells which forms of an answer can be read. -/
def encodings : Exchange.Header := ⟨"accept-encoding".toList, "gzip".toList⟩

/-- The resolver with the given providers, headers, agent and timeout in milliseconds. -/
def make (providers : List Provider) (headers : Exchange.Headers) (agent : Text)
    (timeout : Option Nat) : Except Failure Online :=
  if Exchange.Header.isValue agent then
    let chosen := (ownHeaders agent).foldl Exchange.Headers.insert headers
    let all := if (chosen.get? encodings.name).isSome then chosen else chosen.insert encodings
    .ok ⟨providers, ⟨all, timeout⟩⟩
  else .error .invalidHeader

/-- The keys of an answer, in order. -/
def answerKeys : List Text :=
  ["type", "provider_name", "title", "html", "thumbnail_url"].map String.toList

/-- What a record in an answer of a provider says of a URL. -/
def resolution (p : Provider) : List (Option Text) → Option Resolution
  | [kind, provider, title, html, thumbnail] =>
    match html with
    | some markup =>
      if Text.trim markup = [] then some .notEmbeddable
      else some (.embeddable ⟨some (provider.getD p.name), kind, title, some markup, thumbnail⟩)
    | none => some .notEmbeddable
  | _ => none

/-- What an answer of a provider says of a URL. -/
def readAnswer (p : Provider) (r : Exchange.Response) : Answer :=
  if Status.isSuccess r.status then
    match ((Json.read? r.content).bind (Json.record answerKeys)).bind (resolution p) with
    | some resolution => .ok resolution
    | none => .error (.readResponseBody .decoding)
  else .error (.rejectedStatusCode r.status)

/-- The address of the request about a URL. -/
def question (p : Provider) (url : Text) : Address :=
  p.endpoint.addPairs [("url".toList, url), ("format".toList, "json".toList)]

/-- Asks endpoints about URLs. -/
def resolver {σ : Type} (o : Online) (network : Exchange.Network σ) : Resolver σ := fun url s =>
  match providerFor o.providers url with
  | none => .still (.ok .notEmbeddable) s
  | some p =>
    let note : Note := ⟨.debug, "Asking ".toList ++ p.name ++ " about ".toList ++ url⟩
    match o.client.get network (question p url) s with
    | (.error fault, s) => ⟨.error (.networkRequest fault), [note], s⟩
    | (.ok response, s) => ⟨readAnswer p response, [note], s⟩

end Online

end BareUrl.Resolver
