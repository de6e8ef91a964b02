import BareUrl.Note

/-!
# `BareUrl.Traced`: results with their traces

Looking up a URL may change the state of whoever is asked, and logs what happens. Such a step is a
function of the state, and what it leaves behind is a `Traced` value: its result, its notes in
order, and the new state.
-/

set_option autoImplicit false

namespace BareUrl

/-- A result, the notes that were logged on the way to it, and the state it leaves behind. -/
structure Traced (σ α : Type) where
  result : α
  notes : List Note
  state : σ

namespace Traced

/-- A result without notes that leaves the state as it is. -/
def still {σ α : Type} (a : α) (s : σ) : Traced σ α := ⟨a, [], s⟩

/-- The same step with another result. -/
def map {σ α β : Type} (f : α → β) (x : Traced σ α) : Traced σ β := ⟨f x.result, x.notes, x.state⟩

/-- One step and then another, which knows the result of the first. -/
def bind {σ α β : Type} (x : Traced σ α) (f : α → σ → Traced σ β) : Traced σ β :=
  let y := f x.result x.state
  ⟨y.result, x.notes ++ y.notes, y.state⟩

/-- A step in front of which notes are logged. -/
def after {σ α : Type} (notes : List Note) (x : Traced σ α) : Traced σ α :=
  ⟨x.result, notes ++ x.notes, x.state⟩

/-- A step for each item of a list, from left to right. -/
def each {σ α β : Type} (f : α → σ → Traced σ β) : List α → σ → Traced σ (List β)
  | [], s => still [] s
  | a :: as, s => (f a s).bind fun b s' => (each f as s').map (b :: ·)

end Traced

end BareUrl
