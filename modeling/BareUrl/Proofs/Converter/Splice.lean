import BareUrl.Proofs.Converter.Rewrite
import BareUrl.Proofs.Traced

/-!
# `BareUrl.Proofs.Converter.Splice`: what a conversion changes

A conversion changes nothing but the URLs that can be embedded: `convert_eq_fill` says that it
writes the text cut at its URLs, gap for gap, with the answer about each URL in its place. That
the text was masked in between cannot be seen.

Asking is a walk of its own (`replaceAll_eq`): the URLs are asked about in order, each with its
references decoded, and the answers alone decide what is written. `each_recorded` reads the order
off the record.
-/

set_option autoImplicit false

namespace BareUrl

open Markup (Mode Chunk Commented)

namespace Resolver

variable {σ : Type}

/-- A record of another resolver holds what it was asked about, in order, and changes neither its
answers nor its state. -/
theorem each_recorded (r : Resolver σ) (urls : List Text) (s : Record σ) :
    (Traced.each r.recorded urls s).result = (Traced.each r urls s.inner).result ∧
      (Traced.each r.recorded urls s).state.asked = s.asked ++ urls := by
  induction urls generalizing s with
  | nil => exact ⟨rfl, (List.append_nil _).symm⟩
  | cons url urls ih =>
      obtain ⟨hresult, hasked⟩ := ih (r.recorded url s).state
      constructor
      · rw [Traced.result_each_cons, hresult, Traced.result_each_cons]
        rfl
      · rw [Traced.state_each_cons, hasked]
        simp [recorded, Record.asked]

end Resolver

/-! ### Pieces with answers -/

namespace Piece

open Converter

/-- The piece that stands for a URL by the answer about it. -/
def answered (f : Url.Found) : Answer → Piece
  | .ok (.embeddable _) => .plain (placeholder f.url)
  | .ok .notEmbeddable => .url f
  | .error _ => .url f

/-- The pieces with one answer after another about the URLs. -/
def rewrite : List Piece → List Answer → List Piece
  | .url f :: ps, a :: as => answered f a :: rewrite ps as
  | p :: ps, as => p :: rewrite ps as
  | [], _ => []

theorem written_answered (f : Url.Found) (a : Answer) :
    (answered f a).written = replacement f a := by
  rcases a with e | (_ | _) <;> rfl

/-- Answers turn pieces into rewritten ones, if the URLs hold no angle brackets. -/
theorem rewritten_rewrite {ps : List Piece} (as : List Answer)
    (hclean : ∀ f, .url f ∈ ps → '<' ∉ f.url ∧ '>' ∉ f.url) : Rewritten ps (rewrite ps as) := by
  induction ps generalizing as with
  | nil =>
      rw [rewrite]
      exact .nil
  | cons p ps ih =>
      have hrest : ∀ f, .url f ∈ ps → '<' ∉ f.url ∧ '>' ∉ f.url :=
        fun f hf => hclean f (List.mem_cons_of_mem p hf)
      cases p with
      | plain t => exact .keep _ (ih as hrest)
      | comment body => exact .keep _ (ih as hrest)
      | url f =>
          cases as with
          | nil => exact .keep _ (ih [] hrest)
          | cons a as =>
              obtain ⟨hopen, hclose⟩ := hclean f List.mem_cons_self
              rcases a with e | (_ | _)
              · exact .keep _ (ih as hrest)
              · exact .embed f hopen hclose (ih as hrest)
              · exact .keep _ (ih as hrest)

/-- The rewritten pieces are written as the cut at the URLs with the answers in it. -/
theorem text_rewrite {ps : List Piece} {as : List Answer}
    (h : as.length = (urls ps).tokens.length) :
    text (rewrite ps as) = (urls ps).fill (List.zipWith replacement (urls ps).tokens as) := by
  induction ps generalizing as with
  | nil => rfl
  | cons p ps ih =>
      cases p with
      | plain t =>
          have htokens : (urls (.plain t :: ps)).tokens = (urls ps).tokens := Cut.tokens_prepend _ _
          rw [htokens] at h ⊢
          show t ++ text (rewrite ps as) = ((urls ps).prepend t).fill _
          rw [ih h, Cut.fill_prepend t (by simp [h])]
      | comment body =>
          have htokens : (urls (.comment body :: ps)).tokens = (urls ps).tokens :=
            Cut.tokens_prepend _ _
          rw [htokens] at h ⊢
          show Markup.comment body ++ text (rewrite ps as)
            = ((urls ps).prepend (Markup.comment body)).fill _
          rw [ih h, Cut.fill_prepend _ (by simp [h])]
      | url f =>
          have htokens : (urls (.url f :: ps)).tokens = f :: (urls ps).tokens := rfl
          rw [htokens] at h ⊢
          cases as with
          | nil => simp at h
          | cons a as =>
              have hlen : as.length = (urls ps).tokens.length := by simpa using h
              show (answered f a).written ++ text (rewrite ps as)
                = ((urls ps).cons [] f).fill (replacement f a :: List.zipWith _ _ _)
              rw [written_answered, ih hlen, Cut.fill_cons, List.nil_append]

/-- Only comments have bodies, and answers are not about them. -/
theorem map_unmasked_rewrite (bodies : List Text) (ps : List Piece) (as : List Answer) :
    (rewrite ps as).map (unmasked bodies) = rewrite (ps.map (unmasked bodies)) as := by
  induction ps generalizing as with
  | nil =>
      rw [rewrite]
      rfl
  | cons p ps ih =>
      cases p with
      | plain t => exact congrArg (List.cons _) (ih as)
      | comment body => exact congrArg (List.cons _) (ih as)
      | url f =>
          cases as with
          | nil => exact congrArg (List.cons _) (ih [])
          | cons a as =>
              have hhead : unmasked bodies (answered f a) = answered f a := by
                rcases a with e | (_ | _) <;> rfl
              show unmasked bodies (answered f a) :: _ = answered f a :: _
              rw [hhead, ih as]

end Piece

namespace Converter

variable {σ : Type}

open Piece

/-! ### Asking -/

/-- What is written for a cut depends on the answers alone, and the URLs are asked about in
order. -/
theorem replaceAll_eq (r : Resolver σ) (c : Cut Url.Found) (s : σ) :
    let answers := Traced.each r (c.tokens.map fun f => Markup.decode f.url) s
    (replaceAll r c s).result.render id = c.fill (List.zipWith replacement c.tokens answers.result)
      ∧ (replaceAll r c s).state = answers.state := by
  intro answers
  induction c using Cut.ind generalizing s with
  | leaf t => exact ⟨rfl, rfl⟩
  | cons gap f c ih =>
      obtain ⟨hrender, hstate⟩ := ih (r (Markup.decode f.url) s).state
      constructor
      · have hresult : (replaceAll r (c.cons gap f) s).result
            = (replaceAll r c (r (Markup.decode f.url) s).state).result.cons gap
                (replacement f (r (Markup.decode f.url) s).result) := rfl
        rw [hresult, Cut.render_cons, hrender]
        exact (Cut.fill_cons _ _ _ _ _).symm
      · exact hstate

/-- The URLs of a text, as they are asked about. -/
def asked (c : Converter) (t : Text) : List Text := (c.find t).1.map fun f => Markup.decode f.url

theorem state_convert (c : Converter) (r : Resolver σ) (t : Text) (s : σ) :
    (c.convert r t s).state = (Traced.each r (c.asked t) s).state :=
  (replaceAll_eq r _ s).2

/-- A record of the calls of a conversion holds the URLs of the text. -/
theorem asked_recorded (c : Converter) (r : Resolver σ) (t : Text) (s : σ) :
    (c.convert r.recorded t (.empty s)).state.asked = c.asked t := by
  rw [state_convert]
  exact (Resolver.each_recorded r (c.asked t) (.empty s)).2

/-! ### URLs of the walk -/

theorem mem_tokens_of_mem {f : Url.Found} {ps : List Piece} (h : .url f ∈ ps) :
    f ∈ (urls ps).tokens := by
  induction ps with
  | nil => simp at h
  | cons p ps ih =>
      rcases List.mem_cons.1 h with rfl | hmem
      · exact List.mem_cons_self
      · cases p with
        | plain t => exact (Cut.tokens_prepend t _).symm ▸ ih hmem
        | comment body => exact (Cut.tokens_prepend (Markup.comment body) _).symm ▸ ih hmem
        | url f' => exact List.mem_cons_of_mem f' (ih hmem)

/-- A URL of the walk is found in some text between two tags. -/
theorem mem_find_of_mem_walk {c : Converter} {mode : Mode} {chunks : List Chunk} {f : Url.Found}
    (h : f ∈ (c.walk mode chunks).1.tokens) : ∃ t, f ∈ (c.grammar.find t).tokens := by
  induction chunks generalizing mode with
  | nil =>
      rw [walk] at h
      simp at h
  | cons chunk chunks ih =>
      cases chunk with
      | tag t =>
          rw [walk, Cut.tokens_prepend] at h
          exact ih h
      | text t =>
          cases mode with
          | scanning =>
              rw [walk, Cut.tokens_append] at h
              rcases List.mem_append.1 h with h | h
              · exact ⟨t, h⟩
              · exact ih h
          | excluded name =>
              rw [walk, Cut.tokens_prepend] at h
              exact ih h

theorem mem_find_of_mem_maskedLayout {c : Converter} {t : Text} {f : Url.Found}
    (h : .url f ∈ c.maskedLayout t) : f ∈ (c.find t).1 := by
  have hmem := mem_tokens_of_mem h
  rw [urls_maskedLayout] at hmem
  exact hmem

theorem mem_find_of_mem_layout {c : Converter} {t : Text} {f : Url.Found}
    (h : .url f ∈ c.layout t) : f ∈ (c.find t).1 := by
  have hmem := mem_tokens_of_mem h
  rwa [urls_layout, tokens_located] at hmem

/-- No URL that is looked up holds a delimiter. -/
theorem not_mem_of_mem_find {c : Converter} {t : Text} {f : Url.Found} {d : Char}
    (hd : Url.isDelimiter d = true) (h : f ∈ (c.find t).1) : d ∉ f.url := by
  obtain ⟨x, hx⟩ := mem_find_of_mem_walk h
  exact Url.Grammar.not_mem_url_of_mem_find hd hx

theorem clean_of_mem_find {c : Converter} {t : Text} {f : Url.Found} (h : f ∈ (c.find t).1) :
    '<' ∉ f.url ∧ '>' ∉ f.url :=
  ⟨not_mem_of_mem_find rfl h, not_mem_of_mem_find rfl h⟩

theorem rewritten_maskedLayout (c : Converter) (t : Text) (as : List Answer) :
    Rewritten (c.maskedLayout t) (rewrite (c.maskedLayout t) as) :=
  rewritten_rewrite as fun _ hf => clean_of_mem_find (mem_find_of_mem_maskedLayout hf)

theorem rewritten_layout (c : Converter) (t : Text) (as : List Answer) :
    Rewritten (c.layout t) (rewrite (c.layout t) as) :=
  rewritten_rewrite as fun _ hf => clean_of_mem_find (mem_find_of_mem_layout hf)

/-! ### Converting -/

theorem length_answers (c : Converter) (r : Resolver σ) (t : Text) (s : σ) :
    (Traced.each r (c.asked t) s).result.length = (c.find t).1.length := by
  rw [Traced.length_each, asked, List.length_map]

/-- There is one text to put in for each URL. -/
theorem length_replacements (c : Converter) (r : Resolver σ) (t : Text) (s : σ) :
    (List.zipWith replacement (c.find t).1 (Traced.each r (c.asked t) s).result).length
      = (c.located t).tokens.length := by
  rw [List.length_zipWith, length_answers, Nat.min_self, tokens_located]

/-- The result of a conversion is what the pieces of the text are written as, with the answers
about its URLs. -/
theorem convert_eq_text (c : Converter) (r : Resolver σ) (t : Text) (s : σ) :
    (c.convert r t s).result
      = text (rewrite (c.layout t) (Traced.each r (c.asked t) s).result) := by
  have htokens : (urls (c.maskedLayout t)).tokens = (c.find t).1 := by
    rw [urls_maskedLayout]
    rfl
  have hrender : (replaceAll r (c.scan (Markup.mask t).1).1 s).result.render id
      = text (rewrite (c.maskedLayout t) (Traced.each r (c.asked t) s).result) := by
    rw [text_rewrite (by rw [htokens, length_answers]), urls_maskedLayout]
    exact (replaceAll_eq r _ s).1
  -- The text is unmasked after the rewriting, so its comments have to be where they were.
  have hcut : Commented
      (comments (rewrite (c.maskedLayout t) (Traced.each r (c.asked t) s).result)) :=
    (c.rewritten_maskedLayout t _).commented (c.commented_maskedLayout t)
  show Markup.unmask (Markup.mask t).2
    ((replaceAll r (c.scan (Markup.mask t).1).1 s).result.render id) = _
  rw [hrender, unmask_text _ hcut, map_unmasked_rewrite, map_relabel_maskedLayout]

/-- The result of a conversion is the text cut at its URLs with the answers in their places. -/
theorem result_convert (c : Converter) (r : Resolver σ) (t : Text) (s : σ) :
    (c.convert r t s).result
      = (c.located t).fill (List.zipWith replacement (c.find t).1
          (Traced.each r (c.asked t) s).result) := by
  have hlocated : (urls (c.layout t)).tokens = (c.find t).1 := by
    rw [urls_layout, tokens_located]
  rw [convert_eq_text, text_rewrite (by rw [hlocated, length_answers]), hlocated, urls_layout]

/-- Resolvers that agree from related states, and lead to related states, make conversions that
agree. -/
theorem convert_agree {τ : Type} {R : σ → τ → Prop} {r : Resolver σ} {r' : Resolver τ}
    (hresult : ∀ url a b, R a b → (r url a).result = (r' url b).result)
    (hstate : ∀ url a b, R a b → R (r url a).state (r' url b).state) (c : Converter) (t : Text)
    {a : σ} {b : τ} (h : R a b) :
    (c.convert r t a).result = (c.convert r' t b).result ∧
      R (c.convert r t a).state (c.convert r' t b).state := by
  obtain ⟨hanswers, hend⟩ := Traced.each_agree hresult hstate (c.asked t) h
  constructor
  · rw [result_convert, result_convert, hanswers]
  · rw [state_convert, state_convert]
    exact hend

/-- What every lookup keeps is kept by a conversion. -/
theorem convert_keeps {P : σ → Prop} {r : Resolver σ} (hstep : ∀ url s, P s → P (r url s).state)
    (c : Converter) (t : Text) {s : σ} (h : P s) : P (c.convert r t s).state := by
  rw [state_convert]
  exact Traced.each_keeps hstep (c.asked t) h

end Converter

end BareUrl
