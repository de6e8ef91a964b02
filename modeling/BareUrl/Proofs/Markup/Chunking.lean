import BareUrl.Proofs.Markup.Chunk
import Mathlib.Data.List.Chain

/-!
# `BareUrl.Proofs.Markup.Chunking`: what the chunks of a text are

The chunks of a text are found by a search from left to right. `Chunking` says what they are without
one: they make up the text, text and tags take turns, and no `<` is left in the text where a tag
could have started. `chunking_iff` says that this leaves no choice: the chunks that are found are a
chunking, and there is no other.
-/

set_option autoImplicit false

namespace BareUrl.Markup

/-- `true` for a tag, complete with its angle brackets. -/
def Chunk.isTag : Chunk → Bool
  | .text _ => false
  | .tag _ => true

/-- The chunks are those of the text. -/
structure Chunking (t : Text) (cs : List Chunk) : Prop where
  /-- One behind the other, they are the text. -/
  joined : cs.flatMap Chunk.chars = t
  /-- Text and tags take turns. -/
  turns : (cs.map Chunk.isTag).IsChain (· ≠ ·)
  /-- The first chunk is text. -/
  starts : cs.head?.map Chunk.isTag = some false
  /-- The last chunk is text. -/
  ends : cs.getLast?.map Chunk.isTag = some false
  /-- A tag is any character between angle brackets, and further ones but for `>`. -/
  closed : ∀ u, .tag u ∈ cs → ∃ c inner, u = tag c inner ∧ '>' ∉ inner
  /-- No tag starts in front of another one. -/
  gaps : ∀ u, .text u ∈ cs.dropLast → '<' ∉ u
  /-- In the last chunk, no `>` closes the first `<` behind at least one other character. -/
  rest : ∀ u, cs.getLast? = some (.text u) → ∀ g k, u = g ++ '<' :: k → '<' ∉ g → '>' ∉ k.tail

variable {t g u : Text} {cs : List Chunk}

/-- It is enough to look at the first `<` of a text to know that it holds no complete tag. -/
theorem untagged_iff :
    Untagged t ↔ ∀ g k, t = g ++ '<' :: k → '<' ∉ g → '>' ∉ k.tail := by
  constructor
  · rintro h g k rfl -
    cases k with
    | nil => exact List.not_mem_nil
    | cons c k => exact h g c k rfl
  · intro h
    rcases untagged_or_tag t with ht | ⟨g, c, inner, rest, rfl, hg, -⟩
    · exact ht
    · -- The first tag would be closed behind the first `<`.
      refine absurd ?_ (h g (c :: inner ++ '>' :: rest) (by simp [tag]) hg)
      simp

/-! ### One chunking for every text -/

theorem chunking_of_untagged (h : Untagged t) : Chunking t [.text t] where
  joined := List.flatMap_singleton _ _
  turns := .singleton _
  starts := rfl
  ends := rfl
  closed u hu := by simp at hu
  gaps u hu := absurd hu List.not_mem_nil
  rest u hu := by
    obtain rfl : t = u := by simpa using hu
    exact untagged_iff.1 h

/-- Text without `<` and a tag in front of a chunking make another one. -/
theorem Chunking.cons {c : Char} {inner : Text} (hg : '<' ∉ g) (hinner : '>' ∉ inner)
    (h : Chunking t cs) :
    Chunking (g ++ tag c inner ++ t) (.text g :: .tag (tag c inner) :: cs) := by
  obtain ⟨first, cs, rfl⟩ : ∃ first cs', cs = first :: cs' := by
    refine List.exists_cons_of_ne_nil ?_
    rintro rfl
    exact absurd h.starts (by simp)
  have hfirst : first.isTag = false := by simpa using h.starts
  constructor
  · rw [List.flatMap_cons, List.flatMap_cons, h.joined, List.append_assoc]
    rfl
  · have hturns : (false :: true :: (first :: cs).map Chunk.isTag).IsChain (· ≠ ·) := by
      refine .cons_cons Bool.noConfusion (.cons_cons ?_ h.turns)
      rw [hfirst]
      exact Bool.noConfusion
    exact hturns
  · rfl
  · rw [List.getLast?_cons_cons, List.getLast?_cons_cons]
    exact h.ends
  · intro u hu
    have hu : u = tag c inner ∨ .tag u ∈ first :: cs := by simpa using hu
    rcases hu with rfl | hu
    · exact ⟨c, inner, rfl, hinner⟩
    · exact h.closed u hu
  · intro u hu
    have hu : u = g ∨ .text u ∈ (first :: cs).dropLast := by simpa using hu
    rcases hu with rfl | hu
    · exact hg
    · exact h.gaps u hu
  · intro u hu
    rw [List.getLast?_cons_cons, List.getLast?_cons_cons] at hu
    exact h.rest u hu

/-- The chunks of a text are a chunking of it. -/
theorem chunking_chunks (t : Text) : Chunking t (chunks t) := by
  induction t using chunks_induct with
  | plain t ht =>
      rw [chunks_of_untagged ht]
      exact chunking_of_untagged ht
  | tag g c inner rest hg hinner ih =>
      rw [chunks_tag rest hg hinner]
      exact ih.cons hg hinner

/-! ### And no other -/

/-- Behind the first tag of a chunking there is a chunking of the rest. -/
theorem Chunking.behind_tag (h : Chunking t (.text g :: .tag u :: cs)) :
    ∃ c inner t', u = tag c inner ∧ t = g ++ tag c inner ++ t' ∧ '<' ∉ g ∧ '>' ∉ inner ∧
      Chunking t' cs := by
  obtain ⟨hjoined, hturns, -, hends, hclosed, hgaps, hrest⟩ := h
  obtain ⟨c, inner, rfl, hinner⟩ := hclosed u (by simp)
  have hg : '<' ∉ g := hgaps g (by simp)
  -- A tag is not the last chunk.
  obtain ⟨first, cs, rfl⟩ : ∃ first cs', cs = first :: cs' := by
    refine List.exists_cons_of_ne_nil ?_
    rintro rfl
    exact absurd hends (by simp [Chunk.isTag])
  obtain ⟨hfirst, hturns⟩ := List.isChain_cons_cons.1 (List.isChain_cons_cons.1 hturns).2
  rw [List.getLast?_cons_cons, List.getLast?_cons_cons] at hends
  refine ⟨c, inner, (first :: cs).flatMap Chunk.chars, rfl, ?_, hg, hinner, rfl, hturns, ?_, hends,
    ?_, ?_, ?_⟩
  · rw [← hjoined, List.flatMap_cons, List.flatMap_cons, List.append_assoc]
    rfl
  · cases first with
    | text u => rfl
    | tag u => exact absurd rfl hfirst
  · exact fun u hu => hclosed u (List.mem_cons_of_mem _ (List.mem_cons_of_mem _ hu))
  · exact fun u hu => hgaps u (List.mem_cons_of_mem _ (List.mem_cons_of_mem _ hu))
  · intro u hu
    exact hrest u (by rw [List.getLast?_cons_cons, List.getLast?_cons_cons, hu])

/-- A chunking is a text alone, or it starts with text, a tag, and goes on with a chunking of what
is behind them. -/
theorem Chunking.cases (h : Chunking t cs) :
    (cs = [.text t] ∧ Untagged t) ∨
      ∃ g c inner t' cs', cs = .text g :: .tag (tag c inner) :: cs' ∧
        t = g ++ tag c inner ++ t' ∧ '<' ∉ g ∧ '>' ∉ inner ∧ Chunking t' cs' := by
  cases cs with
  | nil => exact absurd h.starts (by simp)
  | cons first cs =>
      cases first with
      | tag u => exact absurd h.starts (by simp [Chunk.isTag])
      | text g =>
          cases cs with
          | nil =>
              obtain rfl : g = t := by simpa [Chunk.chars] using h.joined
              exact .inl ⟨rfl, untagged_iff.2 (h.rest g rfl)⟩
          | cons second cs =>
              cases second with
              | text u => exact absurd rfl (List.isChain_cons_cons.1 h.turns).1
              | tag u =>
                  obtain ⟨c, inner, t', rfl, rfl, hg, hinner, h'⟩ := h.behind_tag
                  exact .inr ⟨g, c, inner, t', cs, rfl, rfl, hg, hinner, h'⟩

/-- The chunks of a text are its only chunking. -/
theorem Chunking.eq_chunks {t : Text} {cs : List Chunk} (h : Chunking t cs) : cs = chunks t := by
  rcases h.cases with ⟨rfl, ht⟩ | ⟨g, c, inner, t', cs', rfl, rfl, hg, hinner, h'⟩
  · rw [chunks_of_untagged ht]
  · rw [chunks_tag t' hg hinner, ← Chunking.eq_chunks h']
termination_by cs.length
decreasing_by
  subst_vars
  simp only [List.length_cons]
  omega

/-- What the chunks of a text are leaves no choice: a list of chunks is a chunking of the text
exactly if it is the list that is found. -/
theorem chunking_iff (t : Text) (cs : List Chunk) : Chunking t cs ↔ cs = chunks t := by
  refine ⟨Chunking.eq_chunks, ?_⟩
  rintro rfl
  exact chunking_chunks t

end BareUrl.Markup
