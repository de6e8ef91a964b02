import BareUrl.Proofs.Converter.Splice

/-!
# `BareUrl.Proofs.Converter.Several`: texts one after another

Texts that are converted one after another share a resolver. One behind the other they are cut at
the URLs of all of them (`Converter.joined`), and these are all that the resolver is asked about, in
order (`Converter.answers`). `each_convert` says that the conversions, joined, are this cut with
what the answers say in the places of the URLs: what holds of one text holds of all of them
together.
-/

set_option autoImplicit false

namespace BareUrl.Converter

variable {σ : Type}

/-- Texts one behind the other, cut at the URLs that are looked up in each of them. -/
def joined (c : Converter) : List Text → Cut Url.Found
  | [] => .leaf []
  | t :: ts => (c.located t).append (joined c ts)

/-- The answers about the URLs of texts, from the first text to the last. -/
def answers (c : Converter) (r : Resolver σ) (ts : List Text) (s : σ) : Traced σ (List Answer) :=
  Traced.each r ((c.joined ts).tokens.map fun f => Markup.decode f.url) s

variable (c : Converter) (r : Resolver σ) (t : Text) (ts : List Text) (s : σ)

theorem tokens_joined : (c.joined ts).tokens = ts.flatMap fun t => (c.find t).1 := by
  induction ts with
  | nil => rfl
  | cons t ts ih => rw [joined, Cut.tokens_append, tokens_located, ih, List.flatMap_cons]

theorem render_joined : (c.joined ts).render Url.Found.matched = ts.flatten := by
  induction ts with
  | nil => rfl
  | cons t ts ih => rw [joined, Cut.render_append, render_located, ih, List.flatten_cons]

theorem length_answers_joined :
    (c.answers r ts s).result.length = (c.joined ts).tokens.length := by
  rw [answers, Traced.length_each, List.length_map]

/-- The URLs of the first text are asked about first. -/
theorem answers_cons :
    let first := Traced.each r (c.asked t) s
    (c.answers r (t :: ts) s).result = first.result ++ (c.answers r ts first.state).result ∧
      (c.answers r (t :: ts) s).state = (c.answers r ts first.state).state := by
  intro first
  have htokens : (c.joined (t :: ts)).tokens.map (fun f => Markup.decode f.url)
      = c.asked t ++ (c.joined ts).tokens.map fun f => Markup.decode f.url := by
    rw [joined, Cut.tokens_append, tokens_located, List.map_append, asked]
  rw [answers, htokens]
  exact Traced.each_append r _ _ s

/-- The conversions of texts, one behind the other, are the texts with what the answers say in the
places of their URLs. -/
theorem each_convert :
    (Traced.each (c.convert r) ts s).result.flatten
        = (c.joined ts).fill
          (List.zipWith replacement (c.joined ts).tokens (c.answers r ts s).result) ∧
      (Traced.each (c.convert r) ts s).state = (c.answers r ts s).state := by
  induction ts generalizing s with
  | nil => exact ⟨rfl, rfl⟩
  | cons t ts ih =>
      obtain ⟨hresult, hstate⟩ := c.answers_cons r t ts s
      obtain ⟨hrest, hend⟩ := ih (Traced.each r (c.asked t) s).state
      constructor
      · have hlength : (Traced.each r (c.asked t) s).result.length = (c.find t).1.length :=
          c.length_answers r t s
        rw [Traced.result_each_cons, List.flatten_cons, state_convert, hrest, result_convert,
          hresult, joined, Cut.tokens_append, tokens_located,
          List.zipWith_append hlength.symm, Cut.fill_append]
        · rw [List.length_zipWith, hlength, Nat.min_self, tokens_located]
        · rw [List.length_zipWith, length_answers_joined, Nat.min_self]
      · rw [Traced.state_each_cons, state_convert, hend, hstate]

end BareUrl.Converter
