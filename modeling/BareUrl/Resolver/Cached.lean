import BareUrl.Resolver.Basic

/-!
# `BareUrl.Resolver.Cached`: remembered answers

A cache remembers the answers of another resolver, one for each URL, in the order in which they
came. Only answers are remembered: after a failure the other resolver is asked again the next time.
-/

set_option autoImplicit false

namespace BareUrl.Resolver

/-- A state together with the answers that are remembered. -/
structure Cache (σ : Type) where
  answers : List (Text × Resolution)
  inner : σ

namespace Cache

/-- A cache that remembers nothing yet. -/
def empty {σ : Type} (inner : σ) : Cache σ := ⟨[], inner⟩

/-- The answer that is remembered for a URL. -/
def find? {σ : Type} (c : Cache σ) (url : Text) : Option Resolution := c.answers.lookup url

/-- The number of URLs that an answer is remembered for. -/
def size {σ : Type} (c : Cache σ) : Nat := c.answers.length

/-- `true` if nothing is remembered. -/
def isEmpty {σ : Type} (c : Cache σ) : Bool := c.answers.isEmpty

end Cache

/-- The note that an answer was remembered. -/
def hit (url : Text) : Note := ⟨.trace, "Cache hit for ".toList ++ url⟩

/-- The resolver that remembers the answers of another one. -/
def cached {σ : Type} (r : Resolver σ) : Resolver (Cache σ) := fun url c =>
  match c.find? url with
  | some resolution => ⟨.ok resolution, [hit url], c⟩
  | none =>
    let x := r url c.inner
    match x.result with
    | .ok resolution => ⟨.ok resolution, x.notes, ⟨c.answers ++ [(url, resolution)], x.state⟩⟩
    | .error failure => ⟨.error failure, x.notes, ⟨c.answers, x.state⟩⟩

end BareUrl.Resolver
