import BareUrl.Proofs.Converter.Numbers
import BareUrl.Proofs.Converter.Splice

/-!
# `BareUrl.Proofs.Converter.Seam`: texts one behind the other

Every stage of a conversion has its own way of reaching from one text into the one behind it: a
comment or a tag that is not closed yet, an excluded element that is still open, and the numbers of
masked bodies, which go on. `convert_append` says when two texts are converted one by one.

* No comment and no tag may be open where the texts meet. Then the text is cut at its comments and
  tags where both texts are (`Markup.comments_append_of_last`, `Markup.tags_append`), and the
  numbers make no difference (`pieces_congr`). So the pieces of both texts together are those of
  the first one, and then those of the second one from where the walk over the first one ended:
  `exists_layout_append`.
* If the walk ended outside of excluded elements, and the second text starts with a tag, so that
  no URL reaches across, these are the pieces of the second text (`located_append_scanning`).
* If it ended in an excluded element that the second text does not close, there is no URL in the
  second text (`located_append_excluded`).
-/

set_option autoImplicit false

namespace BareUrl

open Markup (Mode Chunk chunks chunksOf closer commentOpen)

namespace Markup

/-- Where the walk stands behind tags, in order. -/
def Mode.through (e : Exclusion) (mode : Mode) (tags : List Text) : Mode :=
  tags.foldl (fun mode t => mode.after e t) mode

theorem Mode.Valid.through {e : Exclusion} {mode : Mode} (h : mode.Valid e) (tags : List Text) :
    (mode.through e tags).Valid e := by
  induction tags generalizing mode with
  | nil => exact h
  | cons t tags ih => exact ih (h.after t)

/-! ### Masking -/

variable {a b : Text}

/-- No delimiter of a comment is cut in two at the end of a text where no tag is open. -/
theorem open_infix_append {s : Text} (hs : '<' ∉ (tags (a ++ s)).last) (b : Text)
    (h : commentOpen <:+: s ++ b) : commentOpen <:+: s ∨ commentOpen <:+: b := by
  rw [List.infix_append_iff_ne_nil] at h
  rcases h with h | h | ⟨p, q, hp, hq, hsplit, hsuffix, -⟩
  · exact .inl h
  · exact .inr h
  · -- The part in front starts with a `<`, and the delimiter holds no `>` that could close it.
    obtain ⟨d, p, rfl⟩ := List.exists_cons_of_ne_nil hp
    obtain ⟨y, rfl⟩ := hsuffix
    rw [commentOpen_eq] at hsplit
    obtain ⟨rfl, hrest⟩ := List.cons.inj hsplit
    have hclose : '>' ∈ p := mem_of_open hs (List.append_assoc a y _).symm
    have hmem : '>' ∈ ['!', '-', '-'] := by
      rw [hrest]
      exact List.mem_append_left q hclose
    exact absurd hmem (by decide)

/-- Where no comment and no tag is open at the end of a text, the comments behind it are cut on
their own. -/
theorem comments_append_of_closed_end (hcomment : ¬ commentOpen <:+: (comments a).last)
    (htag : '<' ∉ (tags (mask a).1).last) (b : Text) :
    comments (a ++ b) = (comments a).append (comments b) := by
  obtain ⟨front, hfront⟩ : ∃ front, (mask a).1 = front ++ (comments a).last := ⟨_, rfl⟩
  rw [hfront] at htag
  exact comments_append_of_last
    (fun b h => (open_infix_append htag b h).resolve_left hcomment) b

/-- Behind the masked text the numbers go on. -/
theorem mask_append (h : comments (a ++ b) = (comments a).append (comments b)) :
    (mask (a ++ b)).1
      = (mask a).1 ++ (numbered (comments a).tokens.length (comments b)).render comment := by
  rw [mask_eq_render, mask_eq_render, h, numbered_append, Cut.render_append, Nat.zero_add]

end Markup

namespace Converter

open Piece

variable {σ : Type} {c : Converter} {a b : Text}

/-! ### Pieces -/

/-- Where the walk over a text ends. -/
def modeAfter (c : Converter) (t : Text) : Mode :=
  Mode.scanning.through c.exclusion (Markup.tags (Markup.mask t).1).tokens

theorem valid_modeAfter (c : Converter) (t : Text) : (c.modeAfter t).Valid c.exclusion :=
  (show Mode.scanning.Valid c.exclusion from trivial).through _

/-- The pieces of the tags of a cut are the same, whatever follows it. -/
theorem exists_front (h : Text → Text) (c : Converter) (mode : Mode) (k : Cut Text) :
    ∃ front, ∀ d, pieces h c mode (chunksOf (k.append d))
      = front ++ pieces h c (mode.through c.exclusion k.tokens) (chunksOf (d.prepend k.last)) := by
  induction k using Cut.ind generalizing mode with
  | leaf t => exact ⟨[], fun d => rfl⟩
  | cons g t k ih =>
      obtain ⟨front, hfront⟩ := ih (mode.after c.exclusion t)
      refine ⟨c.textPieces mode g ++ (tagPieces h t ++ front), fun d => ?_⟩
      show c.textPieces mode g ++ (tagPieces h t ++
        pieces h c (mode.after c.exclusion t) (chunksOf (k.append d))) = _
      rw [hfront, List.append_assoc, List.append_assoc]
      rfl

/-- The pieces of two texts are those of the first one, and then those of the second one from
where the walk over the first one ended. -/
theorem exists_layout_append (c : Converter)
    (hcomment : ¬ commentOpen <:+: (Markup.comments a).last)
    (htag : '<' ∉ (Markup.tags (Markup.mask a).1).last) (b : Text) :
    let last := (Markup.tags (Markup.mask a).1).last
    ∃ front, c.layout a = front ++ c.textPieces (c.modeAfter a) last ∧
      c.layout (a ++ b)
        = front ++ pieces (Markup.unmaskBody (Markup.mask b).2.toArray) c (c.modeAfter a)
            (chunks (last ++ (Markup.mask b).1)) := by
  intro last
  have hcomments : Markup.comments (a ++ b) = (Markup.comments a).append (Markup.comments b) :=
    Markup.comments_append_of_closed_end hcomment htag b
  have hlast : Markup.comments (last ++ b) = (Markup.comments b).prepend last :=
    Markup.comments_append_of_not_mem htag b
  have hmask (n : Nat) : last ++ (Markup.numbered n (Markup.comments b)).render Markup.comment
      = (Markup.numbered n (Markup.comments (last ++ b))).render Markup.comment := by
    rw [hlast, Markup.numbered_prepend, Cut.render_prepend]
  have hbodies : (Markup.mask (a ++ b)).2
      = (Markup.comments a).tokens ++ (Markup.comments b).tokens := by
    rw [Markup.mask, hcomments]
    exact Cut.tokens_append _ _
  -- The bodies of the first text keep their numbers.
  have hfirst : pieces (Markup.unmaskBody (Markup.mask (a ++ b)).2.toArray) c .scanning
      (chunks (Markup.mask a).1) = c.layout a := by
    rw [layout, Markup.mask_eq_render]
    refine pieces_congr (Markup.commented_numbered 0 a)
      (fun _ => Markup.exists_of_mem_tokens_numbered)
      (fun _ => Markup.exists_of_mem_tokens_numbered) ?_ trivial
    have hown := Markup.map_comments_mask a
    rw [Markup.comments_mask] at hown
    rw [hown, hbodies]
    exact Markup.map_numbered [] _ _
  -- The bodies of the second text have other numbers now.
  have hsecond : pieces (Markup.unmaskBody (Markup.mask (a ++ b)).2.toArray) c (c.modeAfter a)
      (chunks (last ++
        (Markup.numbered (Markup.comments a).tokens.length (Markup.comments b)).render
          Markup.comment))
      = pieces (Markup.unmaskBody (Markup.mask b).2.toArray) c (c.modeAfter a)
          (chunks (last ++ (Markup.mask b).1)) := by
    rw [Markup.mask_eq_render, hmask, hmask]
    refine pieces_congr (Markup.commented_numbered _ _)
      (fun _ => Markup.exists_of_mem_tokens_numbered)
      (fun _ => Markup.exists_of_mem_tokens_numbered) ?_ (c.valid_modeAfter a)
    have hown := Markup.map_comments_mask b
    have hnow := Markup.map_numbered (Markup.comments a).tokens [] (Markup.comments b)
    rw [Markup.comments_mask] at hown
    rw [List.append_nil] at hnow
    rw [hlast, Markup.numbered_prepend, Markup.numbered_prepend, Cut.map_prepend, Cut.map_prepend,
      hown, hbodies, hnow]
  obtain ⟨front, hfront⟩ :=
    exists_front (Markup.unmaskBody (Markup.mask (a ++ b)).2.toArray) c .scanning
      (Markup.tags (Markup.mask a).1)
  refine ⟨front, ?_, ?_⟩
  · -- Alone, the first text is followed by nothing.
    have hnil := hfront (.leaf [])
    rw [Cut.append_leaf_nil, Cut.prepend_leaf, List.append_nil] at hnil
    rw [← hfirst, chunks, hnil]
    exact congrArg (front ++ ·) (List.append_nil _)
  · rw [layout, Markup.mask_append hcomments, chunks, Markup.tags_append htag, hfront,
      ← Markup.tags_append_of_not_mem htag]
    exact congrArg (front ++ ·) hsecond

/-! ### URLs -/

/-- No URL reaches from one text into another that starts with a tag. -/
theorem located_append_scanning (hcomment : ¬ commentOpen <:+: (Markup.comments a).last)
    (htag : '<' ∉ (Markup.tags (Markup.mask a).1).last) (hmode : c.modeAfter a = .scanning)
    (hb : ∃ t rest, chunks (Markup.mask b).1 = .text [] :: .tag t :: rest) :
    c.located (a ++ b) = (c.located a).append (c.located b) := by
  obtain ⟨t, rest, hb⟩ := hb
  obtain ⟨front, hfirst, hboth⟩ := exists_layout_append c hcomment htag b
  have hnil : urls (c.textPieces .scanning []) = .leaf [] := by
    rw [urls_textPieces, Url.Grammar.find_nil]
  have hsecond : c.layout b = c.textPieces .scanning []
      ++ pieces (Markup.unmaskBody (Markup.mask b).2.toArray) c .scanning (.tag t :: rest) := by
    rw [layout, hb]
    rfl
  rw [hmode] at hfirst
  rw [hmode, Markup.chunks_append_of_not_mem htag hb, pieces] at hboth
  rw [← urls_layout, ← urls_layout, ← urls_layout, hboth, hfirst, hsecond, urls_append,
    urls_append, urls_append, urls_append, hnil, Cut.leaf_append, Cut.prepend_nil,
    Cut.append_assoc]

/-- In an excluded element that is not closed there are no URLs. -/
theorem urls_pieces_excluded (h : Text → Text) (c : Converter) {name t : Text}
    (hclose : Markup.closes t name = false) :
    urls (pieces h c (.excluded name) (chunks t))
      = .leaf (text (pieces h c (.excluded name) (chunks t))) := by
  -- No tag of the text closes the element, so the walk is in it to the end.
  induction t using Markup.chunks_induct with
  | plain t hun =>
      rw [Markup.chunks_of_untagged hun]
      simp [pieces, textPieces, urls, Cut.gather, asUrl, written]
  | tag g d inner rest hg hi ih =>
      have hpart {s : Text} (hs : s <:+: g ++ Markup.tag d inner ++ rest) :
          Markup.closes s name = false := by
        rw [← Bool.not_eq_true]
        intro hcloses
        rw [Markup.closes_of_infix hs hcloses] at hclose
        exact absurd hclose Bool.noConfusion
      have hafter : (Mode.excluded name).after c.exclusion (Markup.tag d inner)
          = .excluded name := by
        rw [Mode.after, hpart ⟨g, rest, rfl⟩]
        rfl
      have hrest := ih (hpart List.infix_append_right)
      rw [Markup.chunks_tag rest hg hi, pieces, pieces, hafter, urls_append, urls_append,
        urls_tagPieces, hrest]
      simp [textPieces, urls, Cut.gather, asUrl, written]

/-- No URL is in a text behind an excluded element that is not closed. -/
theorem located_append_excluded (hcomment : ¬ commentOpen <:+: (Markup.comments a).last)
    (htag : '<' ∉ (Markup.tags (Markup.mask a).1).last) {name : Text}
    (hmode : c.modeAfter a = .excluded name) (hb : Markup.closes b name = false) :
    c.located (a ++ b) = (c.located a).append (.leaf b) := by
  obtain ⟨front, hfirst, hboth⟩ := exists_layout_append c hcomment htag b
  have hvalid : c.exclusion.excludes name = true := by
    have hall := c.valid_modeAfter a
    rwa [hmode] at hall
  have hopen : '<' ∉ name := Markup.Exclusion.not_mem_of_excludes hvalid (by decide)
  have hend : '>' ∉ name := Markup.Exclusion.not_mem_of_excludes hvalid (by decide)
  have hclose : Markup.closes ((Markup.tags (Markup.mask a).1).last ++ (Markup.mask b).1) name
      = false := by
    rw [← Bool.not_eq_true, Markup.closes_append_of_not_mem htag]
    intro h
    rw [Markup.mask_eq_render] at h
    have hcloses := Markup.closes_of_numbered hopen hend h
    rw [Markup.render_comments, hb] at hcloses
    exact absurd hcloses Bool.noConfusion
  have hplain : urls (c.textPieces (.excluded name) (Markup.tags (Markup.mask a).1).last)
      = .leaf (Markup.tags (Markup.mask a).1).last := by
    simp [textPieces, urls, Cut.gather, asUrl]
  rw [hmode] at hfirst hboth
  have hurls := congrArg urls hfirst
  have hurls' := congrArg urls hboth
  rw [urls_layout, urls_append, hplain] at hurls
  rw [urls_layout, urls_append, urls_pieces_excluded _ c hclose] at hurls'
  -- What is behind the last URL is the rest of both texts, since the cut writes all of them.
  have hwritten := c.render_located (a ++ b)
  have hwritten' := c.render_located a
  rw [hurls', Cut.render_append, Cut.render_leaf] at hwritten
  rw [hurls, Cut.render_append, Cut.render_leaf] at hwritten'
  have hrest := hwritten.trans (congrArg (· ++ b) hwritten').symm
  rw [List.append_assoc, List.append_cancel_left_eq] at hrest
  rw [hurls', hurls, hrest, Cut.append_assoc, Cut.leaf_append, Cut.prepend_leaf]

/-! ### Converting -/

/-- If no comment and no tag is open where two texts meet, and the walk over the first one ended
outside of excluded elements in front of a tag of the second one, both texts are converted one by
one, the second one in the state that the first one left. If the walk ended in an excluded element
and the second text does not hold its closing tag, the second text is not touched. -/
theorem convert_append (c : Converter) (r : Resolver σ) {a b : Text}
    (hcomment : ¬ commentOpen <:+: (Markup.comments a).last)
    (htag : '<' ∉ (Markup.tags (Markup.mask a).1).last) (s : σ) :
    let asked := fun t s => (c.convert r.recorded t (.empty s)).state.asked
    let x := c.convert r a s
    let xy := c.convert r (a ++ b) s
    (c.modeAfter a = .scanning →
      (∃ t rest, chunks (Markup.mask b).1 = .text [] :: .tag t :: rest) →
      let y := c.convert r b x.state
      xy.result = x.result ++ y.result ∧ xy.state = y.state ∧
      (c.find (a ++ b)).1 = (c.find a).1 ++ (c.find b).1 ∧
      asked (a ++ b) s = asked a s ++ asked b x.state) ∧
    (∀ name, c.modeAfter a = .excluded name → ¬ closer name <:+: Text.asciiLower b →
      xy.result = x.result ++ b ∧ xy.state = x.state ∧
      (c.find (a ++ b)).1 = (c.find a).1 ∧
      asked (a ++ b) s = asked a s) := by
  intro asked x xy
  constructor
  · intro hmode hb y
    have hlocated := located_append_scanning hcomment htag hmode hb
    have hfind : (c.find (a ++ b)).1 = (c.find a).1 ++ (c.find b).1 := by
      rw [← tokens_located, hlocated, Cut.tokens_append, tokens_located, tokens_located]
    have hasked : c.asked (a ++ b) = c.asked a ++ c.asked b := by
      rw [Converter.asked, hfind, List.map_append]
      rfl
    obtain ⟨hanswers, hstate⟩ := Traced.each_append r (c.asked a) (c.asked b) s
    have hxstate : x.state = (Traced.each r (c.asked a) s).state := state_convert c r a s
    refine ⟨?_, ?_, hfind, ?_⟩
    · show (c.convert r (a ++ b) s).result
        = (c.convert r a s).result ++ (c.convert r b x.state).result
      rw [result_convert, result_convert, result_convert, hlocated, hfind, hasked, hanswers,
        List.zipWith_append (c.length_answers r a s).symm, hxstate,
        Cut.fill_append (c.length_replacements r a s) (c.length_replacements r b _)]
    · show (c.convert r (a ++ b) s).state = (c.convert r b x.state).state
      rw [state_convert, state_convert, hasked, hstate, hxstate]
    · show (c.convert r.recorded (a ++ b) _).state.asked
        = (c.convert r.recorded a _).state.asked ++ (c.convert r.recorded b _).state.asked
      rw [asked_recorded, asked_recorded, asked_recorded, hasked]
  · intro name hmode hb
    have hnot : Markup.closes b name = false := by
      rwa [← Bool.not_eq_true, Markup.closes_iff]
    have hlocated := located_append_excluded hcomment htag hmode hnot
    have hfind : (c.find (a ++ b)).1 = (c.find a).1 := by
      rw [← tokens_located, hlocated, Cut.tokens_append, Cut.tokens_leaf, List.append_nil,
        tokens_located]
    have hasked : c.asked (a ++ b) = c.asked a := by
      rw [Converter.asked, hfind]
      rfl
    refine ⟨?_, ?_, hfind, ?_⟩
    · -- The second text is a cut without tokens, which takes no replacements.
      have hnone : ([] : List Text).length = (Cut.leaf b : Cut Url.Found).tokens.length := rfl
      have hfill := Cut.fill_append (c.length_replacements r a s) hnone
      rw [List.append_nil, Cut.fill_leaf] at hfill
      show (c.convert r (a ++ b) s).result = (c.convert r a s).result ++ b
      rw [result_convert, result_convert, hlocated, hfind, hasked, hfill]
    · show (c.convert r (a ++ b) s).state = (c.convert r a s).state
      rw [state_convert, state_convert, hasked]
    · show (c.convert r.recorded (a ++ b) _).state.asked = (c.convert r.recorded a _).state.asked
      rw [asked_recorded, asked_recorded, hasked]

/-- A comment at both sides of the seam, and an excluded element in the second text; then an
excluded element that stays open, with tags and almost a closing tag in the second text. -/
theorem convert_append_tags :
    let r : Resolver Unit := .fixed fun _ => .ok (.embeddable (.ofProvider []))
    let asked := fun t => (usual.convert r.recorded t (.empty ())).state.asked
    let a := "<p><!--<pre>-->http://a.cc<!-- 1 -->".toList
    let b := "<!--http://b.cc--><code>http://c.cc</CODE> http://d.cc".toList
    let a' := "http://a.cc<PRE>".toList
    let b' := "</pre<!--</pre >--><b>http://b.cc</b></pres>".toList
    (¬ commentOpen <:+: (Markup.comments a).last ∧
      '<' ∉ (Markup.tags (Markup.mask a).1).last ∧ usual.modeAfter a = .scanning ∧
      (∃ t rest, chunks (Markup.mask b).1 = .text [] :: .tag t :: rest) ∧
      (usual.convert r (a ++ b) ()).result
        = (usual.convert r a ()).result ++ (usual.convert r b ()).result ∧
      asked (a ++ b) = asked a ++ asked b ∧
      asked (a ++ b) = ["http://a.cc", "http://d.cc"].map String.toList) ∧
    (¬ commentOpen <:+: (Markup.comments a').last ∧
      '<' ∉ (Markup.tags (Markup.mask a').1).last ∧
      usual.modeAfter a' = .excluded "PRE".toList ∧
      ¬ closer "PRE".toList <:+: Text.asciiLower b' ∧
      (usual.convert r (a' ++ b') ()).result = (usual.convert r a' ()).result ++ b' ∧
      asked (a' ++ b') = asked a') := by
  intro r asked a b a' b'
  constructor
  · have hcomment : ¬ commentOpen <:+: (Markup.comments a).last := by decide +kernel
    have htag : '<' ∉ (Markup.tags (Markup.mask a).1).last := by decide +kernel
    have hmode : usual.modeAfter a = .scanning := by decide +kernel
    have hb : ∃ t rest, chunks (Markup.mask b).1 = .text [] :: .tag t :: rest :=
      ⟨"<!-- 0 -->".toList, (chunks (Markup.mask b).1).drop 2, by decide +kernel⟩
    obtain ⟨hresult, -, -, hasked⟩ := (convert_append usual r hcomment htag ()).1 hmode hb
    exact ⟨hcomment, htag, hmode, hb, hresult, hasked, by decide +kernel⟩
  · have hcomment : ¬ commentOpen <:+: (Markup.comments a').last := by decide +kernel
    have htag : '<' ∉ (Markup.tags (Markup.mask a').1).last := by decide +kernel
    have hmode : usual.modeAfter a' = .excluded "PRE".toList := by decide +kernel
    have hb : ¬ closer "PRE".toList <:+: Text.asciiLower b' := by decide +kernel
    obtain ⟨hresult, -, -, hasked⟩ := (convert_append usual r hcomment htag ()).2 _ hmode hb
    exact ⟨hcomment, htag, hmode, hb, hresult, hasked⟩

end Converter

end BareUrl
