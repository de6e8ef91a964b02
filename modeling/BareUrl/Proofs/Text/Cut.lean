import BareUrl.Text.Cut

/-!
# `BareUrl.Proofs.Text.Cut`: the algebra of cuts

A cut is a leaf, or a gap and a token in front of a cut (`Cut.ind`). Cuts form a monoid under
`Cut.append`, where the last gap of one melts into the first gap of the next; writing a cut and
listing its tokens carry that over to texts and lists.

* `Cut.gather`: the cut that a list of pieces makes, where each piece is a token or belongs to
  the gap. One list can be read as several cuts, by what counts as a token, and all of them
  split where the list splits (`gather_append`).
* `Cut.mapGaps`, `Cut.setTokens`, `Cut.fill`: the cut with other gaps, with other tokens, and the
  text with other texts for tokens.
* `Cut.spans`: from where to where the tokens reach (`of_mem_spansFrom_gather`).
-/

set_option autoImplicit false

namespace BareUrl.Cut

variable {α β γ : Type}

/-! ### Leaves and tokens -/

/-- A property of all cuts: of every leaf, and kept by a gap and a token in front. -/
@[elab_as_elim]
theorem ind {motive : Cut α → Prop} (leaf : ∀ t, motive (.leaf t))
    (cons : ∀ gap a c, motive c → motive (c.cons gap a)) (c : Cut α) : motive c := by
  obtain ⟨parts, last⟩ := c
  induction parts with
  | nil => exact leaf last
  | cons part parts ih => exact cons part.1 part.2 ⟨parts, last⟩ ih

theorem leaf_ne_cons {t gap : Text} {a : α} {c : Cut α} : leaf t ≠ c.cons gap a :=
  fun h => absurd (congrArg parts h) (List.cons_ne_nil _ _).symm

theorem leaf_inj {t t' : Text} : (leaf t : Cut α) = leaf t' ↔ t = t' :=
  ⟨congrArg last, congrArg leaf⟩

theorem cons_inj {gap gap' : Text} {a a' : α} {c c' : Cut α} :
    c.cons gap a = c'.cons gap' a' ↔ gap = gap' ∧ a = a' ∧ c = c' := by
  obtain ⟨parts, last⟩ := c
  obtain ⟨parts', last'⟩ := c'
  simp [cons, and_assoc]

@[simp] theorem render_leaf (f : α → Text) (t : Text) : (leaf t).render f = t := rfl

@[simp] theorem render_cons (f : α → Text) (gap : Text) (a : α) (c : Cut α) :
    (c.cons gap a).render f = gap ++ f a ++ c.render f := by
  simp [render, cons]

@[simp] theorem tokens_leaf (t : Text) : (leaf t : Cut α).tokens = [] := rfl

@[simp] theorem tokens_cons (gap : Text) (a : α) (c : Cut α) :
    (c.cons gap a).tokens = a :: c.tokens := rfl

theorem map_leaf (f : α → β) (t : Text) : (leaf t).map f = leaf t := rfl

theorem map_cons (f : α → β) (gap : Text) (a : α) (c : Cut α) :
    (c.cons gap a).map f = (c.map f).cons gap (f a) := rfl

theorem map_map (g : β → γ) (f : α → β) (c : Cut α) : (c.map f).map g = c.map fun a => g (f a) := by
  simp [map, Function.comp_def]

theorem tokens_map (f : α → β) (c : Cut α) : (c.map f).tokens = c.tokens.map f := by
  simp [map, tokens, Function.comp_def]

/-! ### Text in front, and cuts one behind the other -/

@[simp] theorem prepend_leaf (t last : Text) :
    (leaf last : Cut α).prepend t = leaf (t ++ last) := rfl

@[simp] theorem prepend_cons (t gap : Text) (a : α) (c : Cut α) :
    (c.cons gap a).prepend t = c.cons (t ++ gap) a := rfl

@[simp] theorem prepend_nil (c : Cut α) : c.prepend [] = c := by
  cases c using ind with
  | leaf t => rfl
  | cons gap a c _ => rfl

theorem prepend_prepend (s t : Text) (c : Cut α) :
    (c.prepend t).prepend s = c.prepend (s ++ t) := by
  cases c using ind with
  | leaf last => simp
  | cons gap a c _ => simp

@[simp] theorem render_prepend (f : α → Text) (t : Text) (c : Cut α) :
    (c.prepend t).render f = t ++ c.render f := by
  cases c using ind with
  | leaf last => rfl
  | cons gap a c _ => simp

@[simp] theorem tokens_prepend (t : Text) (c : Cut α) : (c.prepend t).tokens = c.tokens := by
  cases c using ind with
  | leaf last => rfl
  | cons gap a c _ => rfl

theorem map_prepend (f : α → β) (t : Text) (c : Cut α) :
    (c.prepend t).map f = (c.map f).prepend t := by
  cases c using ind with
  | leaf last => rfl
  | cons gap a c _ => rfl

@[simp] theorem leaf_append (t : Text) (c : Cut α) : (leaf t).append c = c.prepend t := rfl

@[simp] theorem cons_append (gap : Text) (a : α) (c d : Cut α) :
    (c.cons gap a).append d = (c.append d).cons gap a := rfl

theorem prepend_append (t : Text) (c d : Cut α) :
    (c.prepend t).append d = (c.append d).prepend t := by
  cases c using ind with
  | leaf last => simp [prepend_prepend]
  | cons gap a c _ => rfl

theorem render_map (f : β → Text) (h : α → β) (c : Cut α) :
    (c.map h).render f = c.render fun a => f (h a) := by
  induction c using ind with
  | leaf t => rfl
  | cons gap a c ih => rw [map_cons, render_cons, render_cons, ih]

theorem append_assoc (b c d : Cut α) : (b.append c).append d = b.append (c.append d) := by
  induction b using ind with
  | leaf t => simp [prepend_append]
  | cons gap a b ih => simp [ih]

@[simp] theorem append_leaf_nil (c : Cut α) : c.append (leaf []) = c := by
  induction c using ind with
  | leaf t => simp
  | cons gap a c ih => simp [ih]

@[simp] theorem render_append (f : α → Text) (c d : Cut α) :
    (c.append d).render f = c.render f ++ d.render f := by
  induction c using ind with
  | leaf t => simp
  | cons gap a c ih => simp [ih]

@[simp] theorem tokens_append (c d : Cut α) : (c.append d).tokens = c.tokens ++ d.tokens := by
  induction c using ind with
  | leaf t => simp
  | cons gap a c ih => simp [ih]

theorem map_append (f : α → β) (c d : Cut α) : (c.append d).map f = (c.map f).append (d.map f) := by
  induction c using ind with
  | leaf t => rw [leaf_append, map_prepend, map_leaf, leaf_append]
  | cons gap a c ih => rw [cons_append, map_cons, ih, map_cons, cons_append]

theorem render_congr {f g : α → Text} {c : Cut α} (h : ∀ a ∈ c.tokens, f a = g a) :
    c.render f = c.render g := by
  induction c using ind with
  | leaf t => rfl
  | cons gap a c ih =>
      rw [render_cons, render_cons, h a List.mem_cons_self,
        ih fun b hb => h b (List.mem_cons_of_mem a hb)]

/-- What is written for a token is part of the text. -/
theorem infix_render_of_mem_tokens (f : α → Text) {c : Cut α} {a : α} (h : a ∈ c.tokens) :
    f a <:+: c.render f := by
  induction c using ind with
  | leaf t => simp at h
  | cons gap b c ih =>
      rw [render_cons]
      rcases List.mem_cons.1 h with rfl | h
      · exact ⟨gap, c.render f, rfl⟩
      · exact List.infix_append_of_infix_right (ih h)

/-! ### Other gaps, other texts for the tokens -/

/-- The same tokens between other gaps. -/
def mapGaps (h : Text → Text) (c : Cut α) : Cut α :=
  ⟨c.parts.map fun (gap, token) => (h gap, token), h c.last⟩

@[simp] theorem mapGaps_leaf (h : Text → Text) (t : Text) :
    (leaf t : Cut α).mapGaps h = leaf (h t) := rfl

@[simp] theorem mapGaps_cons (h : Text → Text) (gap : Text) (a : α) (c : Cut α) :
    (c.cons gap a).mapGaps h = (c.mapGaps h).cons (h gap) a := rfl

@[simp] theorem tokens_mapGaps (h : Text → Text) (c : Cut α) :
    (c.mapGaps h).tokens = c.tokens := by
  simp [mapGaps, tokens]

/-- A gap that ends where a token stands is a gap of its own. -/
theorem mapGaps_append_cons_nil (h : Text → Text) (c d : Cut α) (a : α) :
    (c.append (d.cons [] a)).mapGaps h = (c.mapGaps h).append ((d.mapGaps h).cons [] a) := by
  induction c using ind with
  | leaf t => simp
  | cons gap b c ih => simp [ih]

theorem mapGaps_prepend {h : Text → Text} {t : Text} (ht : ∀ x, h (t ++ x) = t ++ h x)
    (c : Cut α) : (c.prepend t).mapGaps h = (c.mapGaps h).prepend t := by
  cases c using ind with
  | leaf last => simp [ht]
  | cons gap a c _ => simp [ht]

/-- The same gaps around other tokens, one after another. -/
def setTokens (c : Cut α) (tokens : List β) : Cut β :=
  ⟨List.zipWith (fun part b => (part.1, b)) c.parts tokens, c.last⟩

@[simp] theorem setTokens_leaf (t : Text) (tokens : List β) :
    (leaf t : Cut α).setTokens tokens = leaf t := rfl

@[simp] theorem setTokens_cons (gap : Text) (a : α) (c : Cut α) (b : β) (tokens : List β) :
    (c.cons gap a).setTokens (b :: tokens) = (c.setTokens tokens).cons gap b := rfl

theorem tokens_setTokens {c : Cut α} {tokens : List β} (h : tokens.length = c.tokens.length) :
    (c.setTokens tokens).tokens = tokens := by
  induction c using ind generalizing tokens with
  | leaf t => exact (List.length_eq_zero_iff.1 h).symm
  | cons gap a c ih =>
      cases tokens with
      | nil => simp at h
      | cons b tokens => exact congrArg (List.cons b) (ih (Nat.succ.inj h))

/-- Other tokens leave the gaps as they are. -/
theorem gaps_setTokens {c : Cut α} {tokens : List β} (h : tokens.length = c.tokens.length) :
    (c.setTokens tokens).parts.map Prod.fst = c.parts.map Prod.fst := by
  induction c using ind generalizing tokens with
  | leaf t => rfl
  | cons gap a c ih =>
      cases tokens with
      | nil => simp at h
      | cons b tokens => exact congrArg (List.cons gap) (ih (Nat.succ.inj h))

/-- The gaps do not remember which tokens stood between them. -/
theorem setTokens_map (f : α → β) (g : α → γ) (c : Cut α) :
    (c.map f).setTokens (c.map g).tokens = c.map g := by
  induction c using ind with
  | leaf t => rfl
  | cons gap a c ih =>
      rw [map_cons, map_cons, tokens_cons, setTokens_cons, ih]

/-- The gaps with one text after another in the places of the tokens. -/
def fill (c : Cut α) (texts : List Text) : Text :=
  (List.zipWith (fun part t => part.1 ++ t) c.parts texts).flatten ++ c.last

@[simp] theorem fill_leaf (t : Text) (texts : List Text) : (leaf t : Cut α).fill texts = t := by
  simp [fill, leaf]

@[simp] theorem fill_cons (gap : Text) (a : α) (c : Cut α) (t : Text) (texts : List Text) :
    (c.cons gap a).fill (t :: texts) = gap ++ t ++ c.fill texts := by
  simp [fill, cons]

theorem fill_prepend (t : Text) {c : Cut α} {texts : List Text}
    (h : texts.length = c.tokens.length) : (c.prepend t).fill texts = t ++ c.fill texts := by
  -- Without a text for the first token the gap before it would be lost.
  cases c using ind with
  | leaf last => simp
  | cons gap a c _ =>
      cases texts with
      | nil => simp at h
      | cons x texts => simp

theorem fill_append {c d : Cut α} {texts texts' : List Text}
    (h : texts.length = c.tokens.length) (h' : texts'.length = d.tokens.length) :
    (c.append d).fill (texts ++ texts') = c.fill texts ++ d.fill texts' := by
  induction c using ind generalizing texts with
  | leaf t =>
      obtain rfl := List.length_eq_zero_iff.1 h
      rw [leaf_append, List.nil_append, fill_prepend t h', fill_leaf]
  | cons gap a c ih =>
      cases texts with
      | nil => simp at h
      | cons x texts =>
          rw [cons_append, List.cons_append, fill_cons, fill_cons, ih (Nat.succ.inj h)]
          simp

/-- Texts that are a function of the tokens are what writing the cut puts in their places. -/
theorem fill_map_tokens (f : α → Text) (c : Cut α) : c.fill (c.tokens.map f) = c.render f := by
  induction c using ind with
  | leaf t => simp
  | cons gap a c ih => simp [ih]

/-- Tokens that are put in the places of others are written there. -/
theorem render_setTokens (f : β → Text) (c : Cut α) (tokens : List β) :
    (c.setTokens tokens).render f = c.fill (tokens.map f) := by
  rw [render, setTokens, fill, List.flatMap, List.map_zipWith, List.zipWith_map_right]

theorem length_render_le {f g : α → Text} {c : Cut α}
    (h : ∀ a ∈ c.tokens, (f a).length ≤ (g a).length) :
    (c.render f).length ≤ (c.render g).length := by
  induction c using ind with
  | leaf t => exact Nat.le_refl _
  | cons gap a c ih =>
      have ha := h a List.mem_cons_self
      have hc := ih fun b hb => h b (List.mem_cons_of_mem a hb)
      simp only [render_cons, List.length_append]
      omega

/-- Where no token is written shorter, the same text is written only if each token is written the
same. -/
theorem eq_of_render_eq {f g : α → Text} {c : Cut α}
    (h : ∀ a ∈ c.tokens, (f a).length ≤ (g a).length) (heq : c.render f = c.render g) :
    ∀ a ∈ c.tokens, f a = g a := by
  induction c using ind with
  | leaf t => simp
  | cons gap b c ih =>
      have hb := h b List.mem_cons_self
      have hrest : ∀ a ∈ c.tokens, (f a).length ≤ (g a).length :=
        fun a ha => h a (List.mem_cons_of_mem b ha)
      have hlen := length_render_le hrest
      rw [render_cons, render_cons, List.append_assoc, List.append_assoc,
        List.append_cancel_left_eq] at heq
      -- Both texts are equally long, so neither token nor rest can be written longer.
      have hall := congrArg List.length heq
      simp only [List.length_append] at hall
      obtain ⟨hhead, htail⟩ := List.append_inj heq (by omega)
      intro a ha
      rcases List.mem_cons.1 ha with rfl | ha
      · exact hhead
      · exact ih hrest htail a ha

/-! ### Pieces -/

/-- The cut that a list of pieces makes. Each piece is text of the gap, or a token. -/
def gather (read : β → Text ⊕ α) : List β → Cut α
  | [] => leaf []
  | p :: ps =>
    match read p with
    | .inl t => (gather read ps).prepend t
    | .inr a => (gather read ps).cons [] a

theorem gather_cons_inl {read : β → Text ⊕ α} {p : β} {t : Text} (h : read p = .inl t)
    (ps : List β) : gather read (p :: ps) = (gather read ps).prepend t := by
  rw [gather, h]

theorem gather_cons_inr {read : β → Text ⊕ α} {p : β} {a : α} (h : read p = .inr a)
    (ps : List β) : gather read (p :: ps) = (gather read ps).cons [] a := by
  rw [gather, h]

theorem gather_append (read : β → Text ⊕ α) (ps qs : List β) :
    gather read (ps ++ qs) = (gather read ps).append (gather read qs) := by
  induction ps with
  | nil => simp [gather]
  | cons p ps ih =>
      rw [List.cons_append]
      cases h : read p with
      | inl t => rw [gather_cons_inl h, gather_cons_inl h, ih, prepend_append]
      | inr a => rw [gather_cons_inr h, gather_cons_inr h, ih, cons_append]

/-- Writing the cut writes the pieces one after another. -/
theorem render_gather {f : α → Text} {read : β → Text ⊕ α} {write : β → Text}
    (h : ∀ p, (read p).elim id f = write p) (ps : List β) :
    (gather read ps).render f = ps.flatMap write := by
  induction ps with
  | nil => rfl
  | cons p ps ih =>
      have hp := h p
      cases hr : read p with
      | inl t =>
          rw [hr] at hp
          rw [gather_cons_inl hr, render_prepend, ih, List.flatMap_cons, ← hp]
          rfl
      | inr a =>
          rw [hr] at hp
          rw [gather_cons_inr hr, render_cons, ih, List.flatMap_cons, ← hp]
          rfl

/-- A cut as a list of pieces: gaps and tokens in turn, with a gap at both ends. -/
def pieces (gap : Text → β) (token : α → β) (c : Cut α) : List β :=
  c.parts.flatMap (fun (t, a) => [gap t, token a]) ++ [gap c.last]

@[simp] theorem pieces_leaf (gap : Text → β) (token : α → β) (t : Text) :
    (leaf t).pieces gap token = [gap t] := rfl

@[simp] theorem pieces_cons (gap : Text → β) (token : α → β) (t : Text) (a : α) (c : Cut α) :
    (c.cons t a).pieces gap token = gap t :: token a :: c.pieces gap token := by
  simp [pieces, cons]

/-- Pieces whose tokens count as tokens make the cut they come from. -/
theorem gather_pieces (gap : Text → β) (token : α → β) (read : β → Text ⊕ α)
    (hg : ∀ t, read (gap t) = .inl t) (ht : ∀ a, read (token a) = .inr a) (c : Cut α) :
    gather read (c.pieces gap token) = c := by
  induction c using ind with
  | leaf t => simp [gather_cons_inl (hg t), gather]
  | cons t a c ih => simp [gather_cons_inl (hg t), gather_cons_inr (ht a), ih]

/-- Pieces whose tokens count as text make no token at all. -/
theorem gather_pieces_text (gap : Text → β) (token : γ → β) (read : β → Text ⊕ α)
    {f : γ → Text} (hg : ∀ t, read (gap t) = .inl t) (ht : ∀ a, read (token a) = .inl (f a))
    (c : Cut γ) : gather read (c.pieces gap token) = leaf (c.render f) := by
  induction c using ind with
  | leaf t => simp [gather_cons_inl (hg t), gather]
  | cons t a c ih => simp [gather_cons_inl (hg t), gather_cons_inl (ht a), ih]

/-- Text in front of a cut with a token belongs to what is in front of the token. -/
theorem of_prepend_eq_append {c front back : Cut α} {t : Text} {a : α}
    (h : c.prepend t = front.append (back.cons [] a)) :
    ∃ front' : Cut α, front = front'.prepend t ∧ c = front'.append (back.cons [] a) := by
  cases c using ind with
  | leaf last =>
      cases front using ind with
      | leaf u => exact absurd h leaf_ne_cons
      | cons gap b k _ =>
          rw [cons_append] at h
          exact absurd h leaf_ne_cons
  | cons gap b c _ =>
      cases front using ind with
      | leaf u =>
          rw [prepend_cons, leaf_append, prepend_cons, List.append_nil] at h
          obtain ⟨rfl, rfl, rfl⟩ := cons_inj.1 h
          exact ⟨leaf gap, rfl, by simp⟩
      | cons gap' b' k _ =>
          rw [prepend_cons, cons_append] at h
          obtain ⟨rfl, rfl, rfl⟩ := cons_inj.1 h
          exact ⟨k.cons gap b, rfl, rfl⟩

/-- A token of gathered pieces is that of a piece. In front of it and behind it stands what the
other pieces write. -/
theorem of_gather_eq_append {f : α → Text} {read : β → Text ⊕ α} {write : β → Text}
    (h : ∀ p, (read p).elim id f = write p) {ps : List β} {front back : Cut α} {a : α}
    (hcut : gather read ps = front.append (back.cons [] a)) :
    ∃ qs p rs, ps = qs ++ p :: rs ∧ read p = .inr a ∧ qs.flatMap write = front.render f ∧
      rs.flatMap write = back.render f := by
  induction ps generalizing front with
  | nil =>
      cases front using ind with
      | leaf u => exact absurd hcut leaf_ne_cons
      | cons gap b k _ =>
          rw [cons_append] at hcut
          exact absurd hcut leaf_ne_cons
  | cons p ps ih =>
      have hp := h p
      cases hr : read p with
      | inl t =>
          rw [hr] at hp
          rw [gather_cons_inl hr] at hcut
          obtain ⟨front, rfl, hrest⟩ := of_prepend_eq_append hcut
          obtain ⟨qs, q, rs, rfl, hq, hfront, hback⟩ := ih hrest
          refine ⟨p :: qs, q, rs, rfl, hq, ?_, hback⟩
          rw [List.flatMap_cons, hfront, render_prepend, ← hp]
          rfl
      | inr b =>
          rw [hr] at hp
          rw [gather_cons_inr hr] at hcut
          cases front using ind with
          | leaf u =>
              rw [leaf_append, prepend_cons, List.append_nil] at hcut
              obtain ⟨rfl, rfl, rfl⟩ := cons_inj.1 hcut
              exact ⟨[], p, ps, rfl, hr, rfl, (render_gather h ps).symm⟩
          | cons gap b' k _ =>
              rw [cons_append] at hcut
              obtain ⟨rfl, rfl, hrest⟩ := cons_inj.1 hcut
              obtain ⟨qs, q, rs, rfl, hq, hfront, hback⟩ := ih hrest
              refine ⟨p :: qs, q, rs, rfl, hq, ?_, hback⟩
              rw [List.flatMap_cons, hfront, render_cons, List.nil_append, ← hp]
              rfl

/-! ### Spans -/

/-- Where tokens written with `f` start and end, counted in characters, from `start` on. -/
def spansFrom (f : α → Text) (start : Nat) : List (Text × α) → List (Nat × Nat)
  | [] => []
  | (gap, a) :: rest =>
    let first := start + gap.length
    let stop := first + (f a).length
    (first, stop) :: spansFrom f stop rest

/-- Where the tokens of a cut start and end in the text that writes them with `f`. -/
def spans (f : α → Text) (c : Cut α) : List (Nat × Nat) := spansFrom f 0 c.parts

theorem spansFrom_prepend (f : α → Text) (start : Nat) (t : Text) (c : Cut α) :
    spansFrom f start (c.prepend t).parts = spansFrom f (start + t.length) c.parts := by
  cases c using ind with
  | leaf last => rfl
  | cons gap a c _ => simp [spansFrom, prepend, cons, Nat.add_assoc]

/-- The spans of two cuts are those of the first one, and those of the second one behind it. -/
theorem spansFrom_append (f : α → Text) (start : Nat) (c d : Cut α) :
    spansFrom f start (c.append d).parts
      = spansFrom f start c.parts ++ spansFrom f (start + (c.render f).length) d.parts := by
  induction c using ind generalizing start with
  | leaf t => exact spansFrom_prepend f start t d
  | cons gap a c ih =>
      have hlen : start + gap.length + (f a).length + (c.render f).length
          = start + ((c.cons gap a).render f).length := by
        simp only [render_cons, List.length_append]
        omega
      show _ :: spansFrom f _ (c.append d).parts = _ :: spansFrom f _ c.parts ++ _
      rw [ih, hlen]
      rfl

/-- No span is outside of the text. -/
theorem bounds_of_mem_spansFrom {f : α → Text} {start : Nat} {c : Cut α} {s : Nat × Nat}
    (hs : s ∈ spansFrom f start c.parts) : start ≤ s.1 ∧ s.2 ≤ start + (c.render f).length := by
  induction c using ind generalizing start with
  | leaf t => simp [leaf, spansFrom] at hs
  | cons gap a c ih =>
      rw [cons, spansFrom, List.mem_cons] at hs
      rw [render_cons, List.length_append, List.length_append]
      rcases hs with rfl | hs
      · exact ⟨Nat.le_add_right _ _, by simp only; omega⟩
      · obtain ⟨hfirst, hstop⟩ := ih hs
        exact ⟨by omega, by omega⟩

/-- A span of gathered pieces is that of a piece: it starts where the pieces before it end. -/
theorem of_mem_spansFrom_gather {f : α → Text} {read : β → Text ⊕ α} {write : β → Text}
    (h : ∀ p, (read p).elim id f = write p) {ps : List β} {start : Nat} {s : Nat × Nat}
    (hs : s ∈ spansFrom f start (gather read ps).parts) :
    ∃ before p after a, ps = before ++ p :: after ∧ read p = .inr a ∧
      s.1 = start + (before.flatMap write).length ∧ s.2 = s.1 + (f a).length := by
  induction ps generalizing start with
  | nil => simp [gather, leaf, spansFrom] at hs
  | cons p ps ih =>
      have hp := h p
      cases hr : read p with
      | inl t =>
          -- The piece belongs to the gap and moves what follows by its length.
          rw [hr] at hp
          rw [gather_cons_inl hr, spansFrom_prepend] at hs
          obtain ⟨before, q, after, a, rfl, hq, hfirst, hstop⟩ := ih hs
          refine ⟨p :: before, q, after, a, rfl, hq, ?_, hstop⟩
          rw [hfirst, List.flatMap_cons, List.length_append, ← hp, Nat.add_assoc]
          rfl
      | inr a =>
          rw [hr] at hp
          rw [gather_cons_inr hr, cons, spansFrom, List.mem_cons] at hs
          rcases hs with rfl | hs
          · exact ⟨[], p, ps, a, rfl, hr, rfl, rfl⟩
          · obtain ⟨before, q, after, b, rfl, hq, hfirst, hstop⟩ := ih hs
            refine ⟨p :: before, q, after, b, rfl, hq, ?_, hstop⟩
            rw [hfirst, List.flatMap_cons, List.length_append, ← hp, List.length_nil,
              Nat.add_zero, Nat.add_assoc]
            rfl

end BareUrl.Cut
