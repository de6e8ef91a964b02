import BareUrl.Proofs.Converter.Again

/-!
# `BareUrl.Proofs.Converter.Idempotence`: converting what was converted

A converted text is meant to be left alone by a second conversion with the same answers. It is,
unless a URL that can be embedded stands right in front of a placeholder (`convert_convert_iff`).
Such a URL was none in the first text: its domain was followed by more letters, those of the URL
that the placeholder stands for now, and no word ended there. `convert_convert_ne` shows one.

The second conversion masks another text, with the same comments in it: `mask_settled` says that
masking it gives the masked text of the first one, converted. So the walk over it is the one of
`onlyExposed_walk`.
-/

set_option autoImplicit false

namespace BareUrl

open Markup (Commented)
open Url (Found)

namespace Converter

open Piece

variable {σ : Type} {answer : Found → Answer} {f : Found} {k : Cut Found}

/-! ### Masking a converted text -/

theorem text_settled (answer : Found → Answer) (ps : List Piece) :
    text (ps.map (settled answer)) = (urls ps).render fun f => replacement f (answer f) := by
  have hwritten : ∀ p : Piece,
      p.asUrl.elim id (fun f => replacement f (answer f)) = (settled answer p).written := by
    intro p
    cases p with
    | plain t => rfl
    | comment body => rfl
    | url f => exact (written_answered f (answer f)).symm
  rw [urls, Cut.render_gather hwritten, text, List.flatMap_map]

/-- Masking a converted text leads to the same pieces as converting the masked text. -/
theorem mask_settled (answer : Found → Answer) (c : Converter) (t : Text) :
    (Markup.mask (text ((c.layout t).map (settled answer)))).1
      = text ((c.maskedLayout t).map (settled answer)) := by
  have hmasked : rewrite (c.maskedLayout t) ((c.find t).1.map answer)
      = (c.maskedLayout t).map (settled answer) := by
    rw [← rewrite_eq_map, urls_maskedLayout]
    rfl
  have hlayout : rewrite (c.layout t) ((c.find t).1.map answer)
      = (c.layout t).map (settled answer) := by
    rw [← rewrite_eq_map, urls_layout, tokens_located]
  have hbodies : rewrite (c.layout t) ((c.find t).1.map answer)
      = (rewrite (c.maskedLayout t) ((c.find t).1.map answer)).map
          (relabel (Markup.unmaskBody (Markup.mask t).2.toArray)) := by
    rw [← map_relabel_maskedLayout]
    exact (map_unmasked_rewrite _ _ _).symm
  have hcut : Commented (comments (rewrite (c.layout t) ((c.find t).1.map answer))) := by
    refine (c.rewritten_layout t _).commented ?_
    rw [comments_layout]
    exact Markup.commented_comments t
  have htokens : (comments (rewrite (c.maskedLayout t) ((c.find t).1.map answer))).tokens
      = (Markup.comments (Markup.mask t).1).tokens := by
    rw [← comments_maskedLayout]
    exact (c.rewritten_maskedLayout t _).tokens_comments
  rw [hbodies, comments_relabel] at hcut
  rw [← hlayout, ← hmasked, hbodies, ← render_comments, comments_relabel,
    Markup.mask_render _ htokens hcut, render_comments]

/-! ### Unmasking in front of a placeholder -/

/-- Unmasking leaves a placeholder as it is. -/
theorem unmask_placeholder (bodies : List Text) {url : Text} (hurl : '<' ∉ url) (t : Text) :
    Markup.unmask bodies (placeholder url ++ t) = placeholder url ++ Markup.unmask bodies t := by
  have hstart : ∀ b, Markup.commentOpen <:+: placeholder url ++ b → Markup.commentOpen <:+: b := by
    intro b hb
    have hnil : ¬ Markup.commentOpen <:+: [] := by decide
    exact ((open_infix_placeholder (a := []) hurl).1 hb).resolve_left hnil
  rw [Markup.unmask_eq_render, Markup.comments_append_of_no_start hstart, Cut.render_prepend,
    ← Markup.unmask_eq_render]

theorem Exposed.mapGaps (h : Exposed k f) (bodies : List Text) :
    Exposed (k.mapGaps (Markup.unmask bodies)) f := by
  obtain ⟨before, after, url, hopen, hclose, rfl⟩ := h
  refine ⟨before.mapGaps (Markup.unmask bodies), after.mapGaps (Markup.unmask bodies), url, hopen,
    hclose, ?_⟩
  rw [Cut.mapGaps_append_cons_nil, Cut.mapGaps_prepend (unmask_placeholder bodies hopen)]

theorem Exposed.mem_tokens (h : Exposed k f) : f ∈ k.tokens := by
  obtain ⟨before, after, url, -, -, rfl⟩ := h
  simp

/-- Of the URLs of a converted text, only those right in front of a placeholder become
placeholders. -/
theorem onlyExposed_located (answer : Found → Answer) (c : Converter) (t : Text) :
    OnlyExposed answer (c.located (text ((c.layout t).map (settled answer)))) := by
  intro f hf hembeds
  rw [located, mask_settled, Cut.tokens_mapGaps] at hf
  rw [located, mask_settled]
  exact (onlyExposed_walk answer c .scanning _ f hf hembeds).mapGaps _

/-! ### What a placeholder changes -/

theorem length_placeholder (url : Text) : (placeholder url).length = url.length + 43 := by
  simp [placeholder_eq, placeholderFront_eq, placeholderBack_eq]

theorem replacement_of_embeds {a : Answer} (h : embeds a = true) :
    replacement f a = placeholder f.url := by
  rw [← written_answered, answered_of_embeds h]
  rfl

theorem replacement_of_not_embeds {a : Answer} (h : embeds a = false) :
    replacement f a = f.matched := by
  rw [← written_answered, answered_of_not_embeds h]
  rfl

/-- A placeholder is never what it stands for: it ends in `>`, and no URL does. -/
theorem placeholder_ne_matched {c : Converter} {t : Text} (h : f ∈ (c.find t).1) :
    placeholder f.url ≠ f.matched := by
  obtain ⟨x, hx⟩ := mem_find_of_mem_walk h
  obtain ⟨hled, rest, hurl⟩ := Url.Grammar.exists_url_of_mem_find hx
  obtain ⟨-, hclose⟩ := clean_of_mem_find h
  have hend : placeholder f.url
      = placeholderFront ++ (f.url ++ placeholderBack.dropLast) ++ ['>'] := by
    simp [placeholder_eq, placeholderBack_eq]
  rcases List.eq_nil_or_concat f.url with hnil | ⟨u, d, hu⟩
  · have hlt := Url.Grammar.length_lt_of_url hurl
    rw [hnil, List.nil_append] at hlt
    exact absurd hlt (Nat.lt_irrefl _)
  · intro heq
    rw [hend, hled, hu, List.concat_eq_append, ← List.append_assoc c.grammar.leader] at heq
    have hd : '>' = d := (List.cons.inj (List.append_inj' heq rfl).2).1
    exact hclose (by simp [hu, ← hd])

/-- How much longer than what was found a replacement is depends on the leader alone. -/
theorem length_replacement {c : Converter} {t : Text} (h : f ∈ (c.find t).1) (a : Answer) :
    (replacement f a).length = f.matched.length ∨
      (replacement f a).length + c.grammar.leader.length = f.matched.length + 43 := by
  obtain ⟨x, hx⟩ := mem_find_of_mem_walk h
  cases he : embeds a with
  | false => exact .inl (by rw [replacement_of_not_embeds he])
  | true =>
      refine .inr ?_
      rw [replacement_of_embeds he, length_placeholder,
        (Url.Grammar.exists_url_of_mem_find hx).1, List.length_append]
      omega

/-- A text is left alone exactly if none of its URLs is embedded. -/
theorem render_replacement_iff {c : Converter} {t : Text} :
    ((c.located t).render fun f => replacement f (answer f)) = t ↔
      ∀ f ∈ (c.find t).1, embeds (answer f) = false := by
  rw [← tokens_located]
  constructor
  · intro h
    have heq := h.trans (c.render_located t).symm
    have hlen : ∀ f ∈ (c.located t).tokens, _ := fun f hf =>
      length_replacement (c.tokens_located t ▸ hf) (answer f)
    -- Either no placeholder is shorter than what it stands for, or none is longer.
    have hsame : ∀ f ∈ (c.located t).tokens, replacement f (answer f) = f.matched := by
      by_cases hlong : c.grammar.leader.length ≤ 43
      · refine fun f hf => (Cut.eq_of_render_eq (fun f hf => ?_) heq.symm f hf).symm
        have := hlen f hf
        omega
      · refine Cut.eq_of_render_eq (fun f hf => ?_) heq
        have := hlen f hf
        omega
    intro f hf
    cases he : embeds (answer f) with
    | false => rfl
    | true =>
        have hplaceholder := hsame f hf
        rw [replacement_of_embeds he] at hplaceholder
        rw [tokens_located] at hf
        exact absurd hplaceholder (placeholder_ne_matched hf)
  · intro h
    rw [Cut.render_congr fun f hf => replacement_of_not_embeds (h f hf), render_located]

/-! ### Texts with one placeholder at most -/

theorem located_of_uncommented {c : Converter} {t : Text} (h : Markup.Uncommented t) :
    c.located t = (c.walk .scanning (Markup.chunks t)).1 := by
  have hmask : Markup.mask t = (t, []) := by
    rw [Markup.mask, Markup.comments_of_uncommented h]
    rfl
  have hsame : ∀ x, Markup.unmask [] x = x := fun _ => rfl
  rw [located, hmask, scan]
  simp [Cut.mapGaps, hsame]

/-- A text without `<` is one stretch of text. -/
theorem located_of_not_mem {c : Converter} {t : Text} (h : '<' ∉ t) :
    c.located t = c.grammar.find t := by
  have hun := Markup.untagged_of_not_mem h
  rw [located_of_uncommented (Markup.uncommented_of_untagged hun), Markup.chunks_of_untagged hun,
    walk_text, scanned, walk, Cut.append_leaf_nil]

/-- A text without `<` and a placeholder behind it. -/
theorem located_placeholder {c : Converter} {t url : Text} (h : '<' ∉ t) (hopen : '<' ∉ url)
    (hclose : '>' ∉ url) :
    c.located (t ++ placeholder url) = (c.grammar.find t).append (.leaf (placeholder url)) := by
  have hun : Markup.Uncommented (t ++ placeholder url) := by
    refine Markup.uncommented_of_no_open fun hstart => ?_
    rw [← List.append_nil (placeholder url), open_infix_placeholder hopen] at hstart
    rcases hstart with hstart | hstart
    · exact h (hstart.subset (by decide))
    · exact absurd hstart (by decide)
  obtain ⟨before, opened, mode, rfl, -, hopened, -, hwalk⟩ :=
    c.walk_placeholder .scanning (Markup.untagged_of_not_mem h) hopen hclose
  have hnil : opened = [] := by
    refine hopened.resolve_right ?_
    rintro ⟨y, rfl⟩
    simp at h
  have hend := hwalk []
  rw [List.append_nil, Markup.chunks_of_untagged (Markup.untagged_of_not_mem List.not_mem_nil),
    walk_text, scanned_nil, walk, hnil] at hend
  rw [located_of_uncommented hun, hnil, hend]
  simp [scanned]

/-- If the answers of a resolver never change, they alone decide what is written. -/
theorem result_convert_of_answer {r : Resolver σ} {answer : Text → Answer}
    (hr : ∀ url s, (r url s).result = answer url) (c : Converter) (t : Text) (s : σ) :
    (c.convert r t s).result
      = (c.located t).render fun f => replacement f (answer (Markup.decode f.url)) := by
  have hanswers : (Traced.each r (c.asked t) s).result = (c.asked t).map answer :=
    Traced.each_eq_map (P := fun _ => True) (fun url s _ => hr url s) (fun _ _ _ => trivial) _
      trivial
  rw [result_convert, hanswers, asked, List.map_map, List.zipWith_map_right, List.zipWith_self,
    ← tokens_located, Cut.fill_map_tokens]
  rfl

/-! ### Converting again -/

/-- With answers that never change, a second conversion leaves a converted text alone exactly if
no URL in it that can be embedded stands right in front of a placeholder. -/
theorem convert_convert_iff (c : Converter) (r : Resolver σ) {answer : Text → Answer}
    (hr : ∀ url s, (r url s).result = answer url) (t : Text) (s s' : σ) :
    let once := (c.convert r t s).result
    (c.convert r once s').result = once ↔
      ∀ f, Exposed (c.located once) f → embeds (answer (Markup.decode f.url)) = false := by
  intro once
  have honce : once
      = text ((c.layout t).map (settled fun f => answer (Markup.decode f.url))) := by
    rw [text_settled, urls_layout]
    exact result_convert_of_answer hr c t s
  rw [result_convert_of_answer hr, render_replacement_iff, ← tokens_located]
  constructor
  · exact fun h f hf => h f hf.mem_tokens
  · intro h f hf
    cases he : embeds (answer (Markup.decode f.url)) with
    | false => rfl
    | true =>
        have hexposed : Exposed (c.located once) f := by
          rw [honce] at hf ⊢
          exact onlyExposed_located _ c t f hf he
        rw [h f hexposed] at he
        exact absurd he Bool.noConfusion

/-- Finds HTTP URLs behind an underscore. -/
def underscored : Converter := ⟨⟨['_'], [⟨['h', 't', 't', 'p'], by decide⟩], by simp⟩, ⟨[]⟩⟩

theorem find_underscored {u : Text} (h : underscored.grammar.head u = some (u, [])) :
    underscored.grammar.find ('_' :: u) = (Cut.leaf []).cons [] ⟨'_' :: u, u⟩ :=
  Url.Grammar.find_of_head h Url.Grammar.clearBefore_nil

/-- A URL alone in a text is embedded once. -/
theorem convert_convert_single :
    let r : Resolver Unit := .fixed fun _ => .ok (.embeddable (.ofProvider []))
    let once := (underscored.convert r "_http:bb".toList ()).result
    (∀ url s, (r url s).result = .ok (.embeddable (.ofProvider []))) ∧
      once = placeholder "http:bb".toList ∧ (underscored.convert r once ()).result = once := by
  intro r once
  have hr : ∀ url s, (r url s).result = .ok (.embeddable (.ofProvider [])) := fun _ _ => rfl
  have hurl : "http:bb".toList = ['h', 't', 't', 'p', ':', 'b', 'b'] := by decide
  have htext : "_http:bb".toList = '_' :: "http:bb".toList := by decide
  have honce : once = placeholder "http:bb".toList := by
    show (underscored.convert r _ ()).result = _
    rw [result_convert_of_answer hr, located_of_not_mem (by decide), htext,
      find_underscored (by rw [hurl]; decide)]
    simp [replacement]
  have hnone : underscored.located once = .leaf (placeholder "http:bb".toList) := by
    rw [honce, ← List.nil_append (placeholder _),
      located_placeholder (by decide) (by decide) (by decide), Url.Grammar.find_nil]
    rfl
  refine ⟨hr, honce, (convert_convert_iff underscored r hr _ () ()).2 fun f hf => ?_⟩
  have hmem := hf.mem_tokens
  rw [hnone] at hmem
  simp at hmem

/-- No word ends between the two URLs, so only the second one is found at first. -/
theorem convert_convert_ne :
    let r : Resolver Unit := .fixed fun _ => .ok (.embeddable (.ofProvider []))
    let once := (underscored.convert r "_http:aa_http:bb".toList ()).result
    Converter.make ⟨"_".toList, ["http".toList], []⟩ = .ok underscored ∧
      once = "_http:aa".toList ++ placeholder "http:bb".toList ∧
      (underscored.convert r once ()).result
        = placeholder "http:aa".toList ++ placeholder "http:bb".toList ∧
      (underscored.convert r once ()).result ≠ once := by
  intro r once
  have hr : ∀ url s, (r url s).result = .ok (.embeddable (.ofProvider [])) := fun _ _ => rfl
  have hfirst : "http:aa".toList = ['h', 't', 't', 'p', ':', 'a', 'a'] := by decide
  have hsecond : "http:bb".toList = ['h', 't', 't', 'p', ':', 'b', 'b'] := by decide
  have hfront : "_http:aa".toList = '_' :: "http:aa".toList := by decide
  have htext : "_http:aa_http:bb".toList = "_http:aa".toList ++ (['_'] ++ "http:bb".toList) := by
    decide
  have honce : once = "_http:aa".toList ++ placeholder "http:bb".toList := by
    have hclear : underscored.grammar.ClearBefore "_http:aa".toList ('_' :: "http:bb".toList) := by
      rw [hfront, hfirst, hsecond]
      simp only [Url.Grammar.clearBefore_cons, Url.Grammar.clearBefore_nil, and_true]
      decide
    have hhead : underscored.grammar.head "http:bb".toList = some ("http:bb".toList, []) := by
      rw [hsecond]
      decide
    have hfind : underscored.grammar.find ("_http:aa".toList ++ (['_'] ++ "http:bb".toList))
        = (Cut.leaf []).cons "_http:aa".toList ⟨'_' :: "http:bb".toList, "http:bb".toList⟩ :=
      Url.Grammar.find_of_head hhead hclear
    show (underscored.convert r _ ()).result = _
    rw [result_convert_of_answer hr, located_of_not_mem (by decide), htext, hfind]
    simp [replacement]
  have htwice : (underscored.convert r once ()).result
      = placeholder "http:aa".toList ++ placeholder "http:bb".toList := by
    rw [honce, result_convert_of_answer hr, located_placeholder (by decide) (by decide) (by decide),
      hfront, find_underscored (by rw [hfirst]; decide)]
    simp [replacement]
  refine ⟨rfl, honce, htwice, fun heq => ?_⟩
  rw [htwice, honce, List.append_cancel_right_eq] at heq
  have hlen := congrArg List.length heq
  rw [length_placeholder] at hlen
  exact absurd hlen (by decide)

end Converter

end BareUrl
