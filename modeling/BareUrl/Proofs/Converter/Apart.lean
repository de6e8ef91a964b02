import BareUrl.Proofs.Converter.Layout

/-!
# `BareUrl.Proofs.Converter.Apart`: URLs stay away from markup

No URL that is looked up shares a character with a comment or with a tag: `located_apart`. URLs and
comments are different pieces of one layout, so they are apart (`apart_of_ne`).

For tags it takes more, since what is a tag in a masked text need not be one in the text itself.
A URL is found in a stretch of text with a tag or nothing before it, and either there is no `<` in
the stretch, or the text ends with it and no `<` in it is closed (`Between`). In both cases a region
from a `<` to the next `>` ends before the stretch or starts behind it, wherever it started.
-/

set_option autoImplicit false

namespace BareUrl

open Markup (Mode chunks EndsClosed Untagged)

namespace Piece

/-! ### Places of pieces -/

theorem of_mem_spans_urls {ps : List Piece} {s : Nat × Nat}
    (h : s ∈ (urls ps).spans Url.Found.matched) :
    ∃ before f after, ps = before ++ .url f :: after ∧ s.1 = (text before).length ∧
      s.2 = s.1 + f.matched.length := by
  obtain ⟨before, p, after, f, hps, hp, hfirst, hstop⟩ :=
    Cut.of_mem_spansFrom_gather elim_asUrl h
  cases p with
  | plain t => simp [asUrl] at hp
  | comment body => simp [asUrl] at hp
  | url f' =>
      obtain rfl := Sum.inr.inj hp
      exact ⟨before, f', after, hps, by rw [hfirst, Nat.zero_add]; rfl, hstop⟩

theorem of_mem_spans_comments {ps : List Piece} {s : Nat × Nat}
    (h : s ∈ (comments ps).spans Markup.comment) :
    ∃ before body after, ps = before ++ .comment body :: after ∧ s.1 = (text before).length ∧
      s.2 = s.1 + (Markup.comment body).length := by
  obtain ⟨before, p, after, body, hps, hp, hfirst, hstop⟩ :=
    Cut.of_mem_spansFrom_gather elim_asComment h
  cases p with
  | plain t => simp [asComment] at hp
  | url f => simp [asComment] at hp
  | comment body' =>
      obtain rfl := Sum.inr.inj hp
      exact ⟨before, body', after, hps, by rw [hfirst, Nat.zero_add]; rfl, hstop⟩

/-- Two different pieces stand one behind the other. -/
theorem apart_of_ne {a b a' b' : List Piece} {p q : Piece} (h : a ++ p :: b = a' ++ q :: b')
    (hne : p ≠ q) : (text a).length + p.written.length ≤ (text a').length ∨
      (text a').length + q.written.length ≤ (text a).length := by
  rcases List.append_eq_append_iff.1 h with ⟨m, rfl, hm⟩ | ⟨m, rfl, hm⟩
  · cases m with
    | nil => exact absurd (List.cons.inj hm).1 hne
    | cons p' m =>
        obtain ⟨rfl, -⟩ := List.cons.inj hm
        refine .inl ?_
        simp only [text_append, text_cons, List.length_append]
        omega
  · cases m with
    | nil => exact absurd (List.cons.inj hm).1.symm hne
    | cons q' m =>
        obtain ⟨rfl, -⟩ := List.cons.inj hm
        refine .inr ?_
        simp only [text_append, text_cons, List.length_append]
        omega

/-- A piece of two lists is a piece of one of them. -/
theorem split_append {a b ps qs : List Piece} {p : Piece} (h : ps ++ qs = a ++ p :: b) :
    (∃ m, ps = a ++ p :: m ∧ b = m ++ qs) ∨ ∃ m, qs = m ++ p :: b ∧ a = ps ++ m := by
  rcases List.append_eq_append_iff.1 h with ⟨m, ha, hqs⟩ | ⟨m, hps, hb⟩
  · exact .inr ⟨m, hqs, ha⟩
  · cases m with
    | nil => exact .inr ⟨[], by simpa using hb.symm, by simpa using hps.symm⟩
    | cons q m =>
        obtain ⟨rfl, rfl⟩ := List.cons.inj hb
        exact .inl ⟨m, hps, rfl⟩

end Piece

namespace Converter

open Piece

/-! ### Text between tags -/

/-- The text `x` has a tag or nothing before it. It holds no `<`, or it is the end of the text and
holds no complete tag. -/
def Between (before x after : Text) : Prop :=
  EndsClosed before ∧ ('<' ∉ x ∨ after = [] ∧ Untagged x)

variable {h : Text → Text} {c : Converter} {mode : Mode}

/-- Text that ends in `>` still does so when the comments in it have other bodies. -/
theorem ends_render_comments (h : Text → Text) {t : Text} (ht : EndsClosed t) (hne : t ≠ []) :
    ∃ s, ((Markup.comments t).map h).render Markup.comment = s ++ ['>'] := by
  induction t using Markup.comments_induct with
  | plain t hun =>
      rw [Markup.comments_of_uncommented hun]
      exact ht.resolve_left hne
  | comment g body rest hg hb ih =>
      rw [Markup.comments_comment rest hg hb, Cut.map_cons, Cut.render_cons]
      cases rest with
      | nil =>
          have hnil : Markup.comments [] = .leaf [] :=
            Markup.comments_of_uncommented (Markup.uncommented_of_no_open (by decide))
          rw [hnil, Cut.map_leaf, Cut.render_leaf, List.append_nil]
          exact ⟨g ++ (Markup.commentOpen ++ h body ++ "--".toList), by
            simp [Markup.comment, Markup.commentClose_eq]⟩
      | cons d rest =>
          obtain ⟨s, hs⟩ := ih ht.of_append (List.cons_ne_nil d rest)
          exact ⟨_, by rw [hs, ← List.append_assoc]⟩

theorem ends_text_tagPieces (h : Text → Text) (d : Char) (inner : Text) :
    ∃ s, text (tagPieces h (Markup.tag d inner)) = s ++ ['>'] := by
  rw [← render_comments, comments_tagPieces]
  exact ends_render_comments h (Markup.endsClosed_tag d inner) (by simp [Markup.tag])

theorem not_mem_tagPieces {t : Text} {f : Url.Found} : Piece.url f ∉ tagPieces h t := by
  simp [tagPieces, Cut.pieces]

/-- Every URL of a walk lies between tags, whatever bodies the comments have. -/
theorem between_of_pieces {u : Text} {a b : List Piece} {f : Url.Found}
    (hp : pieces h c mode (chunks u) = a ++ .url f :: b) :
    ∃ before x y after, text a = before ++ x ∧ text b = y ++ after ∧
      Between before (x ++ f.matched ++ y) after := by
  induction u using Markup.chunks_induct generalizing mode a with
  | plain t ht =>
      have htext : text a ++ (f.matched ++ text b) = t := by
        have hall := congrArg text hp
        rw [Markup.chunks_of_untagged ht, pieces, pieces, List.append_nil, text_textPieces,
          text_append] at hall
        exact hall.symm
      refine ⟨[], text a, text b, [], rfl, (List.append_nil _).symm, .inl rfl, .inr ⟨rfl, ?_⟩⟩
      rwa [List.append_assoc, htext]
  | tag g d inner rest hg hi ih =>
      rw [Markup.chunks_tag rest hg hi, pieces, pieces] at hp
      rcases split_append hp with ⟨m, hm, rfl⟩ | ⟨m, hm, rfl⟩
      · -- The URL stands in the text before the tag.
        have htext : text a ++ (f.matched ++ text m) = g := by
          have hall := congrArg text hm
          rw [text_textPieces, text_append] at hall
          exact hall.symm
        refine ⟨[], text a, text m, _, rfl, text_append _ _, .inl rfl, .inl ?_⟩
        rwa [List.append_assoc, htext]
      · rcases split_append hm with ⟨m', hm', rfl⟩ | ⟨m', hm', rfl⟩
        · exact absurd (hm' ▸ List.mem_append_right _ List.mem_cons_self) not_mem_tagPieces
        · obtain ⟨before, x, y, after, ha, hb, hclosed, hx⟩ := ih hm'
          refine ⟨g ++ text (tagPieces h (Markup.tag d inner)) ++ before, x, y, after, ?_, hb, ?_,
            hx⟩
          · simp only [text_append, text_textPieces, ha, List.append_assoc]
          · refine .append (.inr ?_) hclosed
            obtain ⟨s, hs⟩ := ends_text_tagPieces h d inner
            exact ⟨g ++ s, by rw [hs, List.append_assoc]⟩

/-- Where a `<` has a `>` behind it and something between the two, there is a complete tag. -/
theorem not_untagged {x : Text} {i j : Nat} (hi : x[i]? = some '<') (hj : x[j]? = some '>')
    (hij : i + 2 ≤ j) : ¬ Untagged x := by
  intro hx
  obtain ⟨hlt, hi⟩ := List.getElem?_eq_some_iff.1 hi
  obtain ⟨hlt', -⟩ := List.getElem?_eq_some_iff.1 hj
  have hdrop : x.drop i = '<' :: x[i + 1] :: x.drop (i + 2) := by
    rw [List.drop_eq_getElem_cons hlt, hi, List.drop_eq_getElem_cons (by omega)]
  have hsplit : x = x.take i ++ '<' :: x[i + 1] :: x.drop (i + 2) := by
    rw [← hdrop, List.take_append_drop]
  refine hx _ _ _ hsplit (List.mem_of_getElem? (i := j - (i + 2)) ?_)
  rw [List.getElem?_drop, ← hj]
  congr 1
  omega

/-- A region from a `<` to the next `>`, with something between the two, ends before a text
between tags or starts behind it. -/
theorem region_apart {t before x after : Text} {p q : Nat} (ht : t = before ++ (x ++ after))
    (hx : Between before x after) (hp : t[p]? = some '<') (hq : t[q]? = some '>')
    (hpq : p + 2 ≤ q) (hnext : ∀ k, p < k → k < q → t[k]? ≠ some '>') :
    q < before.length ∨ before.length + x.length ≤ p := by
  obtain ⟨hclosed, hx⟩ := hx
  by_cases hbefore : p < before.length
  · -- The text before `x` ends in a `>`, so the region cannot reach beyond it.
    obtain ⟨s, rfl⟩ := hclosed.resolve_left (by rintro rfl; simp at hbefore)
    rw [List.length_append, List.length_singleton] at hbefore ⊢
    have hlast : t[s.length]? = some '>' := by
      rw [ht]
      simp
    have hne : p ≠ s.length := by
      rintro rfl
      rw [hlast] at hp
      simp at hp
    refine .inl (Nat.lt_succ_of_le (Nat.le_of_not_lt fun hlt => ?_))
    exact hnext s.length (by omega) hlt hlast
  · -- Otherwise it starts in `x`, and only at the end of the text could `x` hold a `<`.
    refine .inr (Nat.le_of_not_lt fun hlt => ?_)
    have hpx : x[p - before.length]? = some '<' := by
      rw [ht, List.getElem?_append_right (by omega), List.getElem?_append_left (by omega)] at hp
      exact hp
    rcases hx with hx | ⟨rfl, hx⟩
    · exact hx (List.mem_of_getElem? hpx)
    · rw [ht, List.append_nil, List.getElem?_append_right (by omega)] at hq
      exact not_untagged hpx hq (by omega) hx

/-! ### URLs of a text -/

/-- The URLs to look up stand where they do not share a character with a comment, or with a region
from a `<` to the next `>` that has something between the two. -/
theorem located_apart (c : Converter) (t : Text) :
    (c.located t).tokens = (c.find t).1 ∧
    (c.located t).render Url.Found.matched = t ∧
    ∀ s ∈ (c.located t).spans Url.Found.matched,
      (∀ s' ∈ (Markup.comments t).spans Markup.comment, s.2 ≤ s'.1 ∨ s'.2 ≤ s.1) ∧
      ∀ p q, t[p]? = some '<' → t[q]? = some '>' → p + 2 ≤ q →
        (∀ k, p < k → k < q → t[k]? ≠ some '>') → s.2 ≤ p ∨ q < s.1 := by
  refine ⟨c.tokens_located t, c.render_located t, fun s hs => ?_⟩
  rw [← urls_layout] at hs
  obtain ⟨a, f, b, hlayout, hfirst, hstop⟩ := of_mem_spans_urls hs
  constructor
  · intro s' hs'
    rw [← comments_layout c] at hs'
    obtain ⟨a', body, b', hlayout', hfirst', hstop'⟩ := of_mem_spans_comments hs'
    rw [hstop, hfirst, hstop', hfirst']
    exact apart_of_ne (hlayout.symm.trans hlayout') (by simp)
  · intro p q hp hq hpq hnext
    obtain ⟨before, x, y, after, ha, hb, hbetween⟩ := between_of_pieces hlayout
    have ht : t = before ++ (x ++ f.matched ++ y ++ after) := by
      have htext := text_layout c t
      rw [hlayout, text_append, text_cons, ha, hb] at htext
      rw [← htext]
      simp [written]
    rw [hstop, hfirst, ha, List.length_append]
    rcases region_apart ht hbetween hp hq hpq hnext with h | h
    · exact .inr (Nat.lt_of_lt_of_le h (Nat.le_add_right _ _))
    · simp only [List.length_append] at h
      exact .inl (by omega)

end Converter

end BareUrl
