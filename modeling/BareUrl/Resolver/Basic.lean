import BareUrl.Failure
import BareUrl.Provider.Basic
import BareUrl.Resolution
import BareUrl.Traced

/-!
# `BareUrl.Resolver.Basic`: asking about URLs

A resolver answers whether a URL can be embedded, or fails. It may keep a state and log notes.

- `Resolver.fixed` gives each URL one answer for ever.
- `Resolver.offline` answers by the patterns of providers alone.
- `Resolver.recorded` keeps a list of the URLs that it was asked about.
-/

set_option autoImplicit false

namespace BareUrl

/-- An answer about a URL, or why there is none. -/
abbrev Answer := Except Failure Resolution

/-- Answers whether a URL can be embedded. -/
abbrev Resolver (σ : Type) := Text → σ → Traced σ Answer

namespace Resolver

/-- The resolver whose answers never change. -/
def fixed {σ : Type} (answer : Text → Answer) : Resolver σ := fun url s => .still (answer url) s

/-- The first provider that serves a URL. -/
def providerFor (providers : List Provider) (url : Text) : Option Provider :=
  providers.find? fun p => p.serves url

/-- The resolver that calls every URL embeddable that a provider serves. It makes no request, so
the resource may not exist. -/
def offline {σ : Type} (providers : List Provider) : Resolver σ :=
  fixed fun url =>
    match providerFor providers url with
    | some p => .ok (.embeddable (.ofProvider p.name))
    | none => .ok .notEmbeddable

/-- A state together with the URLs that were asked about in it, the last one first. -/
structure Record (σ : Type) where
  latestFirst : List Text
  inner : σ

namespace Record

/-- A record of no URLs. -/
def empty {σ : Type} (inner : σ) : Record σ := ⟨[], inner⟩

/-- The URLs that were asked about, in order. -/
def asked {σ : Type} (r : Record σ) : List Text := r.latestFirst.reverse

end Record

/-- The resolver that keeps a record of the URLs that another one is asked about. -/
def recorded {σ : Type} (r : Resolver σ) : Resolver (Record σ) := fun url s =>
  let x := r url s.inner
  ⟨x.result, x.notes, ⟨url :: s.latestFirst, x.state⟩⟩

end Resolver

end BareUrl
