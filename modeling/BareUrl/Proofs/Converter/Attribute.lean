import BareUrl.Proofs.Converter.Idempotence
import BareUrl.Proofs.Markup.StartTag

/-!
# `BareUrl.Proofs.Converter.Attribute`: URLs in the values of attributes

A walk goes from tag to tag, and the text at a tag is cut at its URLs in front of the tag and behind
it (`walk_split`). So no URL is found in the value of an attribute that ends before the first `>` of
its tag, and a conversion leaves the value as it is (`convert_value`). With a `>` in a value the tag
counts as closed there. What is behind the `>` is text then, although it stands in quotes:
`convert_value_closed` shows a URL that is replaced in a value.
-/

set_option autoImplicit false

namespace BareUrl.Converter

open Markup (Attribute StartTag Node Mode chunks chunksOf tags)

variable {σ : Type}

/-! ### Walks from tag to tag -/

theorem render_scanned (c : Converter) (mode : Mode) (t : Text) :
    (c.scanned mode t).render Url.Found.matched = t := by
  cases mode with
  | scanning => exact c.grammar.render_find t
  | excluded name => rfl

/-- The cut of a walk writes what was walked over. -/
theorem render_walk (c : Converter) (mode : Mode) (k : Cut Text) :
    (c.walk mode (chunksOf k)).1.render Url.Found.matched = k.render id := by
  induction k using Cut.ind generalizing mode with
  | leaf t =>
      show (c.walk mode [.text t]).1.render _ = t
      rw [walk_text, Cut.render_append, render_scanned]
      simp [walk]
  | cons g t k ih =>
      show (c.walk mode (.text g :: .tag t :: chunksOf k)).1.render _ = _
      rw [walk_text, walk_tag, Cut.render_append, Cut.render_prepend, render_scanned, ih,
        Cut.render_cons, List.append_assoc]
      rfl

/-- A walk over chunks cuts what is in front of a tag, and what is behind it. -/
theorem walk_split (c : Converter) (mode : Mode) (k : Cut Text) (t : Text) (d : Cut Text) :
    ∃ front back : Cut Url.Found,
      (c.walk mode (chunksOf (k.append (d.cons [] t)))).1 = front.append (back.prepend t) ∧
      front.render Url.Found.matched = k.render id ∧
      back.render Url.Found.matched = d.render id := by
  -- The mode in which the text behind the tag is walked over depends on all tags before it.
  induction k using Cut.ind generalizing mode with
  | leaf g =>
      refine ⟨c.scanned mode g, (c.walk (mode.after c.exclusion t) (chunksOf d)).1, ?_,
        c.render_scanned mode g, c.render_walk _ d⟩
      show (c.walk mode (.text (g ++ []) :: .tag t :: chunksOf d)).1 = _
      rw [walk_text, walk_tag, List.append_nil]
  | cons g t' k ih =>
      obtain ⟨front, back, hwalk, hfront, hback⟩ := ih (mode.after c.exclusion t')
      refine ⟨(c.scanned mode g).append (front.prepend t'), back, ?_, ?_, hback⟩
      · show (c.walk mode (.text g :: .tag t' :: chunksOf (k.append (d.cons [] t)))).1 = _
        rw [walk_text, walk_tag, hwalk, Cut.append_assoc, Cut.prepend_append]
      · rw [Cut.render_append, Cut.render_prepend, render_scanned, hfront, Cut.render_cons,
          List.append_assoc]
        rfl

/-! ### Values -/

/-- A page is cut at its URLs in front of a value and behind it, as long as no `>` has come before
the end of the value. -/
theorem located_value (c : Converter) (front back : List Node) {t : StartTag}
    {before after : List Attribute} {x : Attribute} (h : t.attributes = before ++ x :: after)
    (hclose : ∀ y ∈ before ++ [x], '>' ∉ y.value) :
    ∃ first last : Cut Url.Found,
      c.located (Markup.page (front ++ .tag t :: back)) = first.append (last.prepend x.value) ∧
      first.render Url.Found.matched = Markup.page front ++ t.upTo before x ∧
      last.render Url.Found.matched = t.behind after ++ Markup.page back := by
  obtain ⟨d, inner, rest, loose, htag, hvalue, hinner, -⟩ := StartTag.exists_tag_of_values h hclose
  have hpage : Markup.page (front ++ .tag t :: back)
      = Markup.page front ++ ([] ++ Markup.tag d inner ++ (loose ++ Markup.page back)) := by
    rw [Markup.page_append, List.nil_append, ← List.append_assoc (Markup.tag d inner), ← htag]
    rfl
  have htags : tags (Markup.page (front ++ .tag t :: back))
      = (tags (Markup.page front)).append
        ((tags (loose ++ Markup.page back)).cons [] (Markup.tag d inner)) := by
    rw [hpage, Markup.tags_append (Markup.not_mem_last_page front),
      Markup.tags_tag _ List.not_mem_nil hinner]
  obtain ⟨first, last, hwalk, hfirst, hlast⟩ := c.walk_split .scanning (tags (Markup.page front))
    (Markup.tag d inner) (tags (loose ++ Markup.page back))
  rw [Markup.render_tags] at hfirst hlast
  -- What is behind the value in the tag and what is behind the tag make up the rest of the text.
  have hrest : rest ++ loose = t.behind after := by
    have hwritten := (StartTag.written_eq h).symm.trans htag
    rw [hvalue, List.append_assoc, List.append_assoc, List.append_cancel_left_eq,
      List.append_cancel_left_eq] at hwritten
    exact hwritten.symm
  refine ⟨first.append (.leaf (t.upTo before x)), last.prepend rest, ?_, ?_, ?_⟩
  · rw [located_of_uncommented (Markup.uncommented_of_no_open (Markup.no_open_in_page _)), chunks,
      htags, hwalk, hvalue, Cut.append_assoc, Cut.leaf_append, Cut.prepend_prepend,
      Cut.prepend_prepend, List.append_assoc]
  · rw [Cut.render_append, hfirst, Cut.render_leaf]
  · rw [Cut.render_prepend, hlast, ← List.append_assoc, hrest]

/-- Text without URLs is left where it is, between what becomes of the text in front of it and what
becomes of the text behind it. -/
theorem result_convert_of_split (c : Converter) (r : Resolver σ) {t x : Text} (s : σ)
    {first last : Cut Url.Found} (h : c.located t = first.append (last.prepend x)) :
    let y := replaceAll r first s
    (c.convert r t s).result
      = y.result.render id ++ (x ++ (replaceAll r last y.state).result.render id) := by
  intro y
  let urls := fun (k : Cut Url.Found) => k.tokens.map fun f => Markup.decode f.url
  obtain ⟨hy, hstate⟩ := replaceAll_eq r first s
  obtain ⟨hz, -⟩ := replaceAll_eq r last y.state
  have hfind : (c.find t).1 = first.tokens ++ last.tokens := by
    rw [← tokens_located, h, Cut.tokens_append, Cut.tokens_prepend]
  have hasked : c.asked t = urls first ++ urls last := by
    rw [asked, hfind, List.map_append]
  have hanswers : (Traced.each r (c.asked t) s).result
      = (Traced.each r (urls first) s).result ++ (Traced.each r (urls last) y.state).result := by
    rw [hasked, (Traced.each_append r _ _ s).1, hstate]
  -- There is one answer for each URL, so the answers are split where the URLs are.
  have hlength (k : Cut Url.Found) (s : σ) :
      (Traced.each r (urls k) s).result.length = k.tokens.length := by
    rw [Traced.length_each, List.length_map]
  have hreplaced (k : Cut Url.Found) (s : σ) :
      (List.zipWith replacement k.tokens (Traced.each r (urls k) s).result).length
        = k.tokens.length := by
    rw [List.length_zipWith, hlength, Nat.min_self]
  have hlast := hreplaced last y.state
  have hback : (List.zipWith replacement last.tokens
      (Traced.each r (urls last) y.state).result).length = (last.prepend x).tokens.length := by
    rw [Cut.tokens_prepend, hlast]
  rw [result_convert, hfind, hanswers, List.zipWith_append (hlength first s).symm, h,
    Cut.fill_append (hreplaced first s) hback, Cut.fill_prepend x hlast, hy, hz]

/-- The URLs of a page, and what a conversion does to it, at a value that no `>` has come before the
end of. No URL shares a character with the value, and the conversion leaves it where it is, between
what becomes of the text in front of it and what becomes of the text behind it. -/
theorem convert_value (c : Converter) (r : Resolver σ) (s : σ) (front back : List Node)
    {t : StartTag} {before after : List Attribute} {x : Attribute}
    (h : t.attributes = before ++ x :: after) (hclose : ∀ y ∈ before ++ [x], '>' ∉ y.value) :
    let text := Markup.page (front ++ .tag t :: back)
    let start := (Markup.page front ++ t.upTo before x).length
    (∀ p ∈ (c.located text).spans Url.Found.matched,
      p.2 ≤ start ∨ start + x.value.length ≤ p.1) ∧
    ∃ first last : Cut Url.Found,
      first.render Url.Found.matched = Markup.page front ++ t.upTo before x ∧
      last.render Url.Found.matched = t.behind after ++ Markup.page back ∧
      (c.find text).1 = first.tokens ++ last.tokens ∧
      let y := replaceAll r first s
      (c.convert r text s).result
        = y.result.render id ++ (x.value ++ (replaceAll r last y.state).result.render id) := by
  intro text start
  obtain ⟨first, last, hlocated, hfirst, hlast⟩ := c.located_value front back h hclose
  have hfind : (c.find text).1 = first.tokens ++ last.tokens := by
    rw [← tokens_located, hlocated, Cut.tokens_append, Cut.tokens_prepend]
  refine ⟨fun p hp => ?_, first, last, hfirst, hlast, hfind, ?_⟩
  · -- The spans are those of the text in front of the value, and those of the text behind it.
    rw [hlocated, Cut.spans, Cut.spansFrom_append, Cut.spansFrom_prepend, hfirst] at hp
    rcases List.mem_append.1 hp with hp | hp
    · have hbounds := (Cut.bounds_of_mem_spansFrom hp).2
      rw [hfirst, Nat.zero_add] at hbounds
      exact .inl hbounds
    · have hbounds := (Cut.bounds_of_mem_spansFrom hp).1
      rw [Nat.zero_add] at hbounds
      exact .inr hbounds
  · exact c.result_convert_of_split r s hlocated

/-- A URL in a value, with one in a text of the same page. -/
theorem convert_value_kept :
    let x : Attribute := ⟨" title=".toList, "http://a.cc".toList, by decide, by decide, by decide⟩
    let t : StartTag := ⟨['p'], [x], [], by decide, by decide, by decide⟩
    let text := Markup.page [.tag t, .text "http://b.cc".toList (by decide)]
    let r : Resolver Unit := .fixed fun _ => .ok (.embeddable (.ofProvider []))
    t.attributes = [] ++ x :: [] ∧ (∀ y ∈ [] ++ [x], '>' ∉ y.value) ∧
      text = "<p title=\"http://a.cc\">http://b.cc".toList ∧
      (∀ p ∈ (usual.located text).spans Url.Found.matched, p.2 ≤ 10 ∨ 21 ≤ p.1) ∧
      (usual.convert r text ()).result
        = "<p title=\"http://a.cc\">".toList ++ placeholder "http://b.cc".toList := by
  intro x t text r
  have hclose : ∀ y ∈ [] ++ [x], '>' ∉ y.value := by decide
  obtain ⟨hspans, -⟩ := convert_value usual r () [] [.text "http://b.cc".toList (by decide)]
    (show t.attributes = [] ++ x :: [] from rfl) hclose
  exact ⟨rfl, hclose, by decide, hspans, by decide +kernel⟩

/-- A `>` in a value closes the tag, and a URL behind it in the same value is found and replaced. -/
theorem convert_value_closed :
    let x : Attribute :=
      ⟨" title=".toList, "a > http://b.cc".toList, by decide, by decide, by decide⟩
    let t : StartTag := ⟨['p'], [x], [], by decide, by decide, by decide⟩
    let text := Markup.page [.tag t]
    let r : Resolver Unit := .fixed fun _ => .ok (.embeddable (.ofProvider []))
    text = "<p title=\"a > http://b.cc\">".toList ∧
      t.upTo [] x = text.take 10 ∧ x.value = (text.drop 10).take 15 ∧
      (usual.located text).spans Url.Found.matched = [(14, 25)] ∧
      (usual.find text).1.map Url.Found.url = ["http://b.cc".toList] ∧
      (usual.convert r text ()).result
        = "<p title=\"a > ".toList ++ placeholder "http://b.cc".toList ++ "\">".toList := by
  intro x t text r
  refine ⟨?_, ?_, ?_, ?_, ?_, ?_⟩ <;> decide +kernel

end BareUrl.Converter
