import BareUrl.Proofs.Converter.Splice

/-!
# `BareUrl.Proofs.Converter.Bodies`: comment bodies do not interfere

A comment may hold anything: tags, closing tags of an element that is excluded around it, URLs,
text that looks like the number of a masked body. None of it may show in what a conversion does
outside of the comment. Two texts that differ only in the bodies of their comments are one text
and the same text with other bodies (`Markup.rebody`), and converting commutes with putting other
bodies in: `convert_rebody`.

The reason is the mask. Both texts are masked to the same text (`Markup.mask_rebody`), so the
walk, the URLs, the calls and the answers are the same; the bodies come in at the very end, each
where its comment is.
-/

set_option autoImplicit false

namespace BareUrl.Converter

open Markup (commentClose rebody)
open Piece

variable {σ : Type}

/-! ### The comments of a result -/

/-- The comments of a result are those among its pieces. -/
theorem comments_convert (c : Converter) (r : Resolver σ) (t : Text) (s : σ) :
    Markup.comments (c.convert r t s).result
      = comments (rewrite (c.layout t) (Traced.each r (c.asked t) s).result) := by
  have hcut : Markup.Commented
      (comments (rewrite (c.layout t) (Traced.each r (c.asked t) s).result)) := by
    refine (c.rewritten_layout t _).commented ?_
    rw [comments_layout]
    exact Markup.commented_comments t
  rw [convert_eq_text, ← render_comments, Markup.comments_render_of_commented hcut]

/-- A conversion keeps every comment body. -/
theorem tokens_comments_convert (c : Converter) (r : Resolver σ) (t : Text) (s : σ) :
    (Markup.comments (c.convert r t s).result).tokens = (Markup.comments t).tokens := by
  rw [comments_convert, (c.rewritten_layout t _).tokens_comments, comments_layout]

/-- The bodies come in where the numbers of the masked text are. -/
theorem comments_rewrite_layout (c : Converter) (t : Text) (as : List Answer) :
    comments (rewrite (c.layout t) as)
      = (comments (rewrite (c.maskedLayout t) as)).map
          (Markup.unmaskBody (Markup.mask t).2.toArray) := by
  rw [← map_relabel_maskedLayout, ← map_unmasked_rewrite, unmasked, comments_relabel]

/-! ### Other bodies -/

variable {bodies : List Text} {t : Text}

/-- The walk does not see the bodies. -/
theorem maskedLayout_rebody (c : Converter)
    (hlength : bodies.length = (Markup.comments t).tokens.length)
    (hbodies : ∀ body ∈ bodies, ¬ commentClose <:+: body) :
    c.maskedLayout (rebody bodies t) = c.maskedLayout t := by
  rw [maskedLayout, Markup.mask_rebody hlength hbodies, maskedLayout]

theorem find_rebody (c : Converter)
    (hlength : bodies.length = (Markup.comments t).tokens.length)
    (hbodies : ∀ body ∈ bodies, ¬ commentClose <:+: body) :
    c.find (rebody bodies t) = c.find t := by
  rw [find, Markup.mask_rebody hlength hbodies, find]

/-- Other bodies in a text are other bodies in what it is converted to. -/
theorem result_convert_rebody (c : Converter) (r : Resolver σ)
    (hlength : bodies.length = (Markup.comments t).tokens.length)
    (hbodies : ∀ body ∈ bodies, ¬ commentClose <:+: body) (s : σ) :
    (c.convert r (rebody bodies t) s).result = rebody bodies (c.convert r t s).result := by
  have hasked : c.asked (rebody bodies t) = c.asked t := by
    rw [asked, find_rebody c hlength hbodies, asked]
  have hcut := c.comments_convert r t s
  have hcut' := c.comments_convert r (rebody bodies t) s
  have htokens := c.tokens_comments_convert r (rebody bodies t) s
  -- Both cuts at the comments come from one and the same cut with numbers for bodies.
  rw [comments_rewrite_layout] at hcut hcut'
  rw [hasked, maskedLayout_rebody c hlength hbodies] at hcut'
  rw [Markup.comments_rebody hbodies, Cut.tokens_setTokens hlength] at htokens
  calc (c.convert r (rebody bodies t) s).result
      = (Markup.comments (c.convert r (rebody bodies t) s).result).render Markup.comment :=
        (Markup.render_comments _).symm
    _ = ((Markup.comments (c.convert r t s).result).setTokens
          (Markup.comments (c.convert r (rebody bodies t) s).result).tokens).render
            Markup.comment := by
        rw [hcut, hcut', Cut.setTokens_map]
    _ = rebody bodies (c.convert r t s).result := by
        rw [htokens, rebody]

/-- Texts that differ only in the bodies of their comments have the same URLs, lead to the same
calls and leave the same state and notes, and their results differ only in the bodies: each
comment of a result has the body that it had. -/
theorem convert_rebody (c : Converter) (r : Resolver σ) (t : Text) {bodies : List Text}
    (hlength : bodies.length = (Markup.comments t).tokens.length)
    (hbodies : ∀ body ∈ bodies, ¬ commentClose <:+: body) (s : σ) :
    let t' := rebody bodies t
    let x := c.convert r t s
    let x' := c.convert r t' s
    c.find t' = c.find t ∧
    (c.convert r.recorded t' (.empty s)).state.asked
      = (c.convert r.recorded t (.empty s)).state.asked ∧
    x'.state = x.state ∧ x'.notes = x.notes ∧
    x'.result = rebody bodies x.result ∧
    (Markup.comments x.result).tokens = (Markup.comments t).tokens ∧
    (Markup.comments x'.result).tokens = bodies := by
  intro t' x x'
  have hfind : c.find t' = c.find t := find_rebody c hlength hbodies
  have hscan : c.scan (Markup.mask t').1 = c.scan (Markup.mask t).1 := by
    rw [Markup.mask_rebody hlength hbodies]
  have hasked : c.asked t' = c.asked t := by rw [asked, hfind, asked]
  refine ⟨hfind, ?_, ?_, ?_, ?_, ?_, ?_⟩
  · rw [state_convert, state_convert, hasked]
  · show (c.convert r t' s).state = (c.convert r t s).state
    rw [state_convert, state_convert, hasked]
  · show (c.scan (Markup.mask t').1).2 ++ (replaceAll r (c.scan (Markup.mask t').1).1 s).notes = _
    rw [hscan]
    rfl
  · exact result_convert_rebody c r hlength hbodies s
  · exact c.tokens_comments_convert r t s
  · have htokens := c.tokens_comments_convert r t' s
    rwa [Markup.comments_rebody hbodies, Cut.tokens_setTokens hlength] at htokens

/-- Bodies with a URL, a tag, the closing tag of the excluded element around them, a number of a
masked body, and dashes in front of the closing delimiter. -/
theorem convert_rebody_tags :
    let r : Resolver Unit := .fixed fun _ => .ok (.embeddable (.ofProvider []))
    let t := "<a><!--x-->http://a.cc</a>http://b.cc<p <!-- 1 -->>http://c.cc<!---->".toList
    let bodies := ["</a>http://d.cc<a>", "> 0 <pre>", "--"].map String.toList
    let t' := rebody bodies t
    let x := usual.convert r t ()
    let x' := usual.convert r t' ()
    bodies.length = (Markup.comments t).tokens.length ∧
      (∀ body ∈ bodies, ¬ commentClose <:+: body) ∧
      t' = ("<a><!--</a>http://d.cc<a>-->http://a.cc</a>http://b.cc<p <!--> 0 <pre>-->>" ++
        "http://c.cc<!------>").toList ∧
      (usual.find t).1.map Url.Found.url = ["http://b.cc", "http://c.cc"].map String.toList ∧
      usual.find t' = usual.find t ∧
      (usual.convert r.recorded t' (.empty ())).state.asked
        = (usual.convert r.recorded t (.empty ())).state.asked ∧
      x'.state = x.state ∧ x'.notes = x.notes ∧
      x'.result = rebody bodies x.result ∧
      (Markup.comments x.result).tokens = (Markup.comments t).tokens ∧
      (Markup.comments x'.result).tokens = bodies := by
  intro r t bodies t' x x'
  have hlength : bodies.length = (Markup.comments t).tokens.length := by decide +kernel
  have hbodies : ∀ body ∈ bodies, ¬ commentClose <:+: body := by decide +kernel
  exact ⟨hlength, hbodies, by decide +kernel, by decide +kernel,
    convert_rebody usual r t hlength hbodies ()⟩

end BareUrl.Converter
