import BareUrl.Proofs.Converter.Apart
import BareUrl.Proofs.Markup.Reference
import BareUrl.Proofs.Url.Longest

/-!
# `BareUrl.Proofs.Converter.Behind`: what stands behind a URL

A URL is read with the text behind it up to the next tag (`behind_of_pieces`), and it takes all of
that text that it can. So the text behind it does not go on to where the URL might have ended just
as well (`not_runs_of_located`).

A URL may end in any character between the `&` and the `;` of a character reference, so it does not
end in front of one. But it may not end in the `;`. Where a URL that reaches into a reference
cannot go on behind it, the `;` is left over: `located_reference`.
-/

set_option autoImplicit false

namespace BareUrl

open Markup (Mode Reference chunks)
open Url (Runs isPathChar isPathEnd isQueryChar isQueryEnd)

namespace Converter

open Piece

variable {h : Text → Text} {c : Converter} {mode : Mode} {t : Text} {a b : List Piece}
  {f : Url.Found}

/-! ### The text up to the next tag -/

/-- A URL is read with all of the text behind it. -/
theorem url_of_textPieces (hp : c.textPieces mode t = a ++ .url f :: b) :
    c.grammar.url (f.url ++ text b) = some (f.url, text b) := by
  cases mode with
  | excluded name =>
      have hmem : Piece.url f ∈ c.textPieces (.excluded name) t := by
        rw [hp]
        exact List.mem_append_right _ List.mem_cons_self
      simp [textPieces] at hmem
  | scanning =>
      induction t using Url.Grammar.find_induct c.grammar generalizing a with
      | silent t _ hfind =>
          have hmem : Piece.url f ∈ c.textPieces .scanning t := by
            rw [hp]
            exact List.mem_append_right _ List.mem_cons_self
          simp [textPieces, hfind] at hmem
      | url gap f' rest hled hurl hclear hfind ih =>
          rw [textPieces, hfind, Cut.pieces_cons] at hp
          cases a with
          | nil => exact absurd (List.cons.inj hp).1 (by simp)
          | cons p a =>
              cases a with
              | nil =>
                  -- It is the first URL of the text, and what is left of the text is behind it.
                  obtain ⟨hf, hb⟩ := List.cons.inj (List.cons.inj hp).2
                  obtain rfl := Piece.url.inj hf
                  have htext : text b = rest := by
                    rw [← hb]
                    exact text_textPieces c .scanning rest
                  rw [htext]
                  exact hurl
              | cons q a => exact ih (List.cons.inj (List.cons.inj hp).2).2

/-- Texts whose comments have other bodies start with the same character. -/
theorem head?_render_comments (h : Text → Text) (t : Text) :
    (((Markup.comments t).map h).render Markup.comment).head? = t.head? := by
  induction t using Markup.comments_induct with
  | plain t ht => rw [Markup.comments_of_uncommented ht, Cut.map_leaf, Cut.render_leaf]
  | comment g body rest hg hb ih =>
      rw [Markup.comments_comment rest hg hb, Cut.map_cons, Cut.render_cons]
      cases g with
      | nil => rfl
      | cons d g => rfl

theorem head?_text_tagPieces (h : Text → Text) (d : Char) (inner : Text) :
    (text (tagPieces h (Markup.tag d inner))).head? = some '<' := by
  rw [← render_comments, comments_tagPieces, head?_render_comments]
  rfl

/-- A URL of a walk is read with the text behind it up to a `<`, whatever bodies the comments
have. -/
theorem behind_of_pieces {u : Text} (hp : pieces h c mode (chunks u) = a ++ .url f :: b) :
    ∃ y after, text b = y ++ after ∧ c.grammar.url (f.url ++ y) = some (f.url, y) ∧
      ∀ d ∈ after.head?, d = '<' := by
  induction u using Markup.chunks_induct generalizing mode a with
  | plain t ht =>
      rw [Markup.chunks_of_untagged ht, pieces, pieces, List.append_nil] at hp
      exact ⟨text b, [], (List.append_nil _).symm, url_of_textPieces hp, by simp⟩
  | tag g d inner rest hg hi ih =>
      rw [Markup.chunks_tag rest hg hi, pieces, pieces] at hp
      rcases split_append hp with ⟨m, hm, rfl⟩ | ⟨m, hm, rfl⟩
      · refine ⟨text m, _, text_append _ _, url_of_textPieces hm, fun d' hd' => ?_⟩
        rw [text_append, List.head?_append, head?_text_tagPieces] at hd'
        exact (Option.some.inj hd').symm
      · rcases split_append hm with ⟨m', hm', rfl⟩ | ⟨m', hm', rfl⟩
        · exact absurd (hm' ▸ List.mem_append_right _ List.mem_cons_self) not_mem_tagPieces
        · exact ih hm'

/-- Behind a URL that is looked up no path goes on, or, if there is a question mark in the URL, no
query does. -/
theorem not_runs_of_located {front back : Cut Url.Found}
    (ht : c.located t = front.append (back.cons [] f)) :
    ¬ Runs isPathChar isPathEnd (back.render Url.Found.matched) ∨
      '?' ∈ f.url ∧ ¬ Runs isQueryChar isQueryEnd (back.render Url.Found.matched) := by
  rw [← urls_layout] at ht
  obtain ⟨a, p, b, hlayout, hp, -, hback⟩ := Cut.of_gather_eq_append elim_asUrl ht
  obtain rfl : p = .url f := by
    cases p with
    | plain t => simp [asUrl] at hp
    | comment body => simp [asUrl] at hp
    | url f' => exact congrArg Piece.url (Sum.inr.inj hp)
  obtain ⟨y, after, htext, hurl, hafter⟩ := behind_of_pieces hlayout
  rw [← hback]
  show ¬ Runs _ _ (text b) ∨ _ ∧ ¬ Runs _ _ (text b)
  rw [htext]
  -- What goes on does so in front of the tag.
  have hruns {inside last : Char → Bool} (hin : inside '<' = false) (hlast : last '<' = false) :
      Runs inside last (y ++ after) ↔ Runs inside last y := by
    cases after with
    | nil => rw [List.append_nil]
    | cons d after =>
        obtain rfl := hafter d rfl
        exact Url.runs_append_cons hin hlast after
  rw [hruns (by decide) (by decide), hruns (by decide) (by decide)]
  exact Url.Grammar.not_runs_of_url hurl

/-! ### References -/

/-- The ends of URLs among the characters of a reference. -/
theorem ends_of_mem_body {r : Reference} (hr : r.Valid) {d : Char} (hd : d ∈ r.body) :
    isPathEnd d = true ∧ isQueryEnd d = true := by
  rcases Reference.class_of_mem_body hr hd with rfl | hd
  · exact ⟨by decide, by decide⟩
  · have hclass : Url.isAlphanumeric d = true := by
      rw [Char.isAlphanum, Bool.or_eq_true] at hd
      rw [Url.isAlphanumeric, Bool.or_eq_true]
      exact hd.imp Url.isLetter_of_isAlpha Url.isNumber_of_isDigit
    rw [isPathEnd, isQueryEnd, hclass]
    exact ⟨rfl, by rw [Url.isAsciiAlphanumeric]; exact Bool.or_eq_true_iff.2 (.inl hd)⟩

/-- Where the text does not go on from inside of a reference, it is in front of the `;`, and the
text behind that does not go on either. -/
theorem of_not_runs_reference {inside last : Char → Bool} {l y : Text} (hin : inside ';' = true)
    (hlast : ∀ d ∈ l, last d = true) (hnot : ¬ Runs inside last (l ++ ';' :: y)) :
    l = [] ∧ ¬ Runs inside last y := by
  cases l with
  | nil => exact ⟨rfl, fun hy => hnot (Url.runs_cons.2 (.inr ⟨hin, hy⟩))⟩
  | cons d l => exact absurd (Url.runs_cons.2 (.inl (hlast d List.mem_cons_self))) hnot

/-- A place inside of a reference leaves a part of its body, and the `;`. -/
theorem split_written {r : Reference} {x y front back : Text}
    (heq : x ++ (r.written ++ y) = front ++ back) (hfirst : x.length < front.length)
    (hlast : front.length < (x ++ r.written).length) :
    ∃ k l, r.body = k ++ l ∧ front = x ++ '&' :: k ∧ back = l ++ ';' :: y := by
  obtain ⟨m, rfl, hm⟩ := Reader.exists_rest heq.symm (Nat.le_of_lt hfirst)
  obtain ⟨d, k, rfl⟩ := List.exists_cons_of_ne_nil (l := m) (by rintro rfl; simp at hfirst)
  have hwritten : r.written ++ y = '&' :: (r.body ++ ';' :: y) := by
    simp [Reference.written]
  rw [hwritten, List.cons_append] at hm
  obtain ⟨rfl, hbehind⟩ := List.cons.inj hm
  -- As the place is in front of the end, all in front of it is in the body.
  have hle : k.length ≤ r.body.length := by
    simp only [Reference.written, List.length_append, List.length_cons, List.length_nil] at hlast
    omega
  obtain ⟨l, hbody, hback⟩ := Reader.exists_rest hbehind hle
  exact ⟨k, l, hbody, rfl, hback⟩

/-- A URL that is looked up and ends inside of a complete character reference, behind its `&` and
in front of its end, ends in front of its `;`. It does so only where the text behind the reference
goes on to no further end of a path, or, if there is a question mark in the URL, to no further end
of a query. -/
theorem located_reference (c : Converter) (t : Text) :
    (c.located t).tokens = (c.find t).1 ∧
    (c.located t).render Url.Found.matched = t ∧
    ∀ (front back : Cut Url.Found) (f : Url.Found), c.located t = front.append (back.cons [] f) →
      let upTo := front.render Url.Found.matched ++ f.matched
      ∀ (x y : Text) (r : Reference), t = x ++ (r.written ++ y) → r.Valid →
        x.length < upTo.length → upTo.length < (x ++ r.written).length →
        upTo.length + 1 = (x ++ r.written).length ∧
          (¬ Runs isPathChar isPathEnd y ∨ '?' ∈ f.url ∧ ¬ Runs isQueryChar isQueryEnd y) := by
  refine ⟨c.tokens_located t, c.render_located t, ?_⟩
  intro front back f hlocated upTo x y r ht hr hfirst hlast
  have hsplit : x ++ (r.written ++ y) = upTo ++ back.render Url.Found.matched := by
    rw [← ht, ← c.render_located t, hlocated]
    simp [upTo]
  obtain ⟨k, l, hbody, hup, hback⟩ := split_written hsplit hfirst hlast
  have hnot := not_runs_of_located hlocated
  rw [hback] at hnot
  have hends : ∀ d ∈ l, isPathEnd d = true ∧ isQueryEnd d = true :=
    fun d hd => ends_of_mem_body hr (hbody ▸ List.mem_append_right k hd)
  obtain ⟨rfl, hy⟩ :
      l = [] ∧ (¬ Runs isPathChar isPathEnd y ∨ '?' ∈ f.url ∧ ¬ Runs isQueryChar isQueryEnd y) := by
    rcases hnot with hpath | ⟨hmark, hquery⟩
    · obtain ⟨hl, hy⟩ := of_not_runs_reference (by decide) (fun d hd => (hends d hd).1) hpath
      exact ⟨hl, .inl hy⟩
    · obtain ⟨hl, hy⟩ := of_not_runs_reference (by decide) (fun d hd => (hends d hd).2) hquery
      exact ⟨hl, .inr ⟨hmark, hy⟩⟩
  refine ⟨?_, hy⟩
  rw [hup, Reference.written, hbody]
  simp only [List.length_append, List.length_cons, List.length_nil]
  omega

/-- The query of a URL ends in a reference for a space that does not break. -/
theorem located_reference_query :
    let x := "<p>https://example.com/?a=1".toList
    let r : Reference := .hexadecimal 'x' "A0".toList
    let y := " b".toList
    let t := x ++ (r.written ++ y)
    let url := "https://example.com/?a=1&#xA0".toList
    ∃ front back : Cut Url.Found, usual.located t = front.append (back.cons [] ⟨url, url⟩) ∧
      let upTo := front.render Url.Found.matched ++ url
      r.Valid ∧ x.length < upTo.length ∧ upTo.length < (x ++ r.written).length ∧
        upTo.length + 1 = (x ++ r.written).length ∧
        (¬ Runs isPathChar isPathEnd y ∨ '?' ∈ url ∧ ¬ Runs isQueryChar isQueryEnd y) := by
  intro x r y t url
  have hcut : ((usual.located t).parts, (usual.located t).last)
      = ([("<p>".toList, ⟨url, url⟩)], "; b".toList) := by decide +kernel
  have hlocated : usual.located t
      = (Cut.leaf "<p>".toList).append ((Cut.leaf "; b".toList).cons [] ⟨url, url⟩) := by
    have hmk : usual.located t = ⟨(usual.located t).parts, (usual.located t).last⟩ := rfl
    obtain ⟨hparts, hlast⟩ := Prod.mk.inj hcut
    rw [hmk, hparts, hlast]
    rfl
  have hr : r.Valid := by decide
  have hfirst : x.length < ("<p>".toList ++ url).length := by decide
  have hend : ("<p>".toList ++ url).length < (x ++ r.written).length := by decide
  obtain ⟨-, -, hall⟩ := located_reference usual t
  exact ⟨_, _, hlocated, hr, hfirst, hend, hall _ _ _ hlocated x y r rfl hr hfirst hend⟩

/-- A URL that stands by itself ends inside of the reference at its end. -/
theorem located_reference_cut :
    let x := "https://example.com/".toList
    let r : Reference := .named "nbsp".toList
    let url := "https://example.com/&nbsp".toList
    make Settings.usual = .ok usual ∧ r.Valid ∧
      (usual.find (x ++ r.written)).1 = [⟨url, url⟩] ∧
      (0, 25) ∈ (usual.located (x ++ r.written)).spans Url.Found.matched ∧
      x.length < 25 ∧ 25 < (x ++ r.written).length := by
  intro x r url
  have hparts : (usual.located (x ++ r.written)).parts = [([], ⟨url, url⟩)] := by decide +kernel
  refine ⟨rfl, by decide, ?_, ?_, by decide, by decide⟩
  · rw [← tokens_located, Cut.tokens, hparts]
    rfl
  · rw [Cut.spans, hparts]
    decide

end Converter

end BareUrl
