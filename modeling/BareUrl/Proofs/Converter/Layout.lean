import BareUrl.Converter
import BareUrl.Proofs.Markup.Chunk
import BareUrl.Proofs.Markup.Mask
import BareUrl.Proofs.Url.Find

/-!
# `BareUrl.Proofs.Converter.Layout`: a text as the walk sees it

The walk over a masked text splits it into pieces: URLs, the comments in its tags, and plain text
around them. Two cuts can be read off this one list, the cut at the URLs (`Piece.urls`) and the
cut at the comments (`Piece.comments`), so whatever is said about the one can be compared with the
other.

* `urls_pieces`: the cut at the URLs is the one of the walk.
* `comments_pieces`: the cut at the comments is the one of the whole text, although each tag is
  cut on its own. Only the bodies differ, as what a number stands for is put in its place.
* `layout`: the pieces of a text that is not masked any more. `urls_layout` says that the cut at
  the URLs of this text is found by unmasking each gap on its own (`Converter.located`).
-/

set_option autoImplicit false

namespace BareUrl

open Markup (Mode Chunk chunks Commented)

/-- A piece of a text that was walked over. -/
inductive Piece where
  /-- Text outside of comments that is not replaced. -/
  | plain (t : Text)
  /-- A URL that is looked up. -/
  | url (f : Url.Found)
  /-- A comment with its body. -/
  | comment (body : Text)

namespace Piece

/-- The piece as it is written. -/
def written : Piece → Text
  | .plain t => t
  | .url f => f.matched
  | .comment body => Markup.comment body

/-- The piece where URLs are tokens and all else is text. -/
def asUrl : Piece → Text ⊕ Url.Found
  | .plain t => .inl t
  | .url f => .inr f
  | .comment body => .inl (Markup.comment body)

/-- The piece where comments are tokens and all else is text. -/
def asComment : Piece → Text ⊕ Text
  | .plain t => .inl t
  | .url f => .inl f.matched
  | .comment body => .inr body

/-- The same piece with another body, if it is a comment. -/
def relabel (h : Text → Text) : Piece → Piece
  | .comment body => .comment (h body)
  | p => p

/-- The same piece with the body that is stood for, if it is a comment. -/
def unmasked (bodies : List Text) : Piece → Piece :=
  relabel (Markup.unmaskBody bodies.toArray)

/-- What the pieces are written as, one behind the other. -/
def text (ps : List Piece) : Text := ps.flatMap written

/-- The cut that the pieces make at the URLs. -/
def urls (ps : List Piece) : Cut Url.Found := Cut.gather asUrl ps

/-- The cut that the pieces make at the comments. -/
def comments (ps : List Piece) : Cut Text := Cut.gather asComment ps

@[simp] theorem text_nil : text [] = [] := rfl

@[simp] theorem text_cons (p : Piece) (ps : List Piece) : text (p :: ps) = p.written ++ text ps :=
  rfl

@[simp] theorem text_append (ps qs : List Piece) : text (ps ++ qs) = text ps ++ text qs :=
  List.flatMap_append

@[simp] theorem urls_append (ps qs : List Piece) : urls (ps ++ qs) = (urls ps).append (urls qs) :=
  Cut.gather_append _ _ _

@[simp] theorem comments_append (ps qs : List Piece) :
    comments (ps ++ qs) = (comments ps).append (comments qs) := Cut.gather_append _ _ _

theorem elim_asUrl (p : Piece) : p.asUrl.elim id Url.Found.matched = p.written := by
  cases p <;> rfl

theorem elim_asComment (p : Piece) : p.asComment.elim id Markup.comment = p.written := by
  cases p <;> rfl

theorem render_urls (ps : List Piece) : (urls ps).render Url.Found.matched = text ps :=
  Cut.render_gather elim_asUrl ps

theorem render_comments (ps : List Piece) : (comments ps).render Markup.comment = text ps :=
  Cut.render_gather elim_asComment ps

/-- Other bodies are other tokens of the cut at the comments. -/
theorem comments_relabel (h : Text → Text) (ps : List Piece) :
    comments (ps.map (relabel h)) = (comments ps).map h := by
  induction ps with
  | nil => rfl
  | cons p ps ih =>
      show Cut.gather asComment (p.relabel h :: ps.map (relabel h))
        = (Cut.gather asComment (p :: ps)).map h
      cases p with
      | plain t => exact (congrArg (Cut.prepend t) ih).trans (Cut.map_prepend h t _).symm
      | url f => exact (congrArg (Cut.prepend f.matched) ih).trans (Cut.map_prepend h _ _).symm
      | comment body => exact congrArg (Cut.cons [] (h body)) ih

/-- A part of pieces whose cut at the comments is that of their text has that property too. -/
theorem commented_of_append {ps qs : List Piece} (h : Commented (comments (ps ++ qs))) :
    Commented (comments ps) ∧ Commented (comments qs) := by
  rw [comments_append] at h
  exact h.of_append

/-- If the cut at the comments is that of the text, unmasking puts other bodies into it. -/
theorem unmask_text {ps : List Piece} (bodies : List Text) (h : Commented (comments ps)) :
    Markup.unmask bodies (text ps) = text (ps.map (unmasked bodies)) := by
  rw [Markup.unmask_eq_render, ← render_comments, Markup.comments_render_of_commented h,
    ← render_comments, unmasked, comments_relabel, Cut.render_map]

/-- Where the pieces of a masked text are cut at the URLs, unmasking each gap on its own leads to
the pieces with other bodies. -/
theorem mapGaps_urls (bodies : List Text) {ps qs : List Piece}
    (h : Commented (comments (ps ++ qs))) :
    ((urls qs).prepend (text ps)).mapGaps (Markup.unmask bodies)
      = (urls (qs.map (unmasked bodies))).prepend (text (ps.map (unmasked bodies))) := by
  -- The pieces since the last URL are in `ps`: they are the gap that is still open.
  induction qs generalizing ps with
  | nil =>
      have hps := (commented_of_append h).1
      show Cut.leaf (Markup.unmask bodies (text ps ++ [])) = Cut.leaf (text _ ++ [])
      rw [List.append_nil, List.append_nil, unmask_text bodies hps]
  | cons q qs ih =>
      have hopen : Commented (comments (ps ++ [q] ++ qs)) := by rwa [List.append_cons] at h
      have hgap := ih hopen
      cases q with
      | plain t =>
          rw [text_append, List.map_append, text_append] at hgap
          show (((urls qs).prepend (plain t).written).prepend (text ps)).mapGaps _
            = ((urls (qs.map _)).prepend (unmasked bodies (plain t)).written).prepend _
          simpa [Cut.prepend_prepend] using hgap
      | comment body =>
          rw [text_append, List.map_append, text_append] at hgap
          show (((urls qs).prepend (comment body).written).prepend (text ps)).mapGaps _
            = ((urls (qs.map _)).prepend (unmasked bodies (comment body)).written).prepend _
          simpa [Cut.prepend_prepend] using hgap
      | url f =>
          have hps := (commented_of_append h).1
          have hqs := (commented_of_append hopen).2
          have hrest := @ih [] hqs
          show (((urls qs).cons [] f).prepend (text ps)).mapGaps _
            = ((urls (qs.map _)).cons [] f).prepend _
          simp only [text_nil, List.map_nil, Cut.prepend_nil] at hrest
          rw [Cut.prepend_cons, Cut.mapGaps_cons, Cut.prepend_cons, hrest, List.append_nil,
            List.append_nil, unmask_text bodies hps]

end Piece

namespace Converter

open Piece

/-! ### The pieces of a walk -/

/-- The pieces of a tag: its comments, with the bodies that theirs stand for. -/
def tagPieces (h : Text → Text) (t : Text) : List Piece :=
  ((Markup.comments t).map h).pieces .plain .comment

/-- The pieces of the text between two tags. -/
def textPieces (c : Converter) : Mode → Text → List Piece
  | .scanning, t => (c.grammar.find t).pieces .plain .url
  | .excluded _, t => [.plain t]

/-- The pieces of chunks, in the order of the walk. -/
def pieces (h : Text → Text) (c : Converter) : Mode → List Chunk → List Piece
  | _, [] => []
  | mode, .tag t :: rest => tagPieces h t ++ pieces h c (mode.after c.exclusion t) rest
  | mode, .text t :: rest => c.textPieces mode t ++ pieces h c mode rest

variable {h : Text → Text} {c : Converter} {mode : Mode} {t : Text}

theorem comments_tagPieces (h : Text → Text) (t : Text) :
    comments (tagPieces h t) = (Markup.comments t).map h :=
  Cut.gather_pieces Piece.plain Piece.comment asComment (fun _ => rfl) (fun _ => rfl) _

theorem urls_tagPieces (h : Text → Text) (t : Text) :
    urls (tagPieces h t) = .leaf (text (tagPieces h t)) := by
  rw [← render_comments, comments_tagPieces]
  exact Cut.gather_pieces_text Piece.plain Piece.comment asUrl (fun _ => rfl) (fun _ => rfl) _

theorem text_tagPieces (t : Text) : text (tagPieces id t) = t := by
  have hid : (Markup.comments t).map id = Markup.comments t := by simp [Cut.map]
  rw [← render_comments, comments_tagPieces, hid, Markup.render_comments]

theorem comments_textPieces (c : Converter) (mode : Mode) (t : Text) :
    comments (c.textPieces mode t) = .leaf t := by
  cases mode with
  | scanning =>
      have hfind := c.grammar.render_find t
      have hread := Cut.gather_pieces_text Piece.plain Piece.url asComment (fun _ => rfl)
        (fun _ => rfl) (c.grammar.find t)
      rwa [hfind] at hread
  | excluded name => simp [textPieces, comments, Cut.gather, asComment]

theorem text_textPieces (c : Converter) (mode : Mode) (t : Text) :
    text (c.textPieces mode t) = t := by
  rw [← render_comments, comments_textPieces, Cut.render_leaf]

theorem urls_textPieces (c : Converter) (t : Text) :
    urls (c.textPieces .scanning t) = c.grammar.find t :=
  Cut.gather_pieces Piece.plain Piece.url asUrl (fun _ => rfl) (fun _ => rfl) _

/-- The cut of the pieces at the URLs is the one that the walk makes. -/
theorem urls_pieces (c : Converter) (mode : Mode) (chunks : List Chunk) :
    urls (pieces id c mode chunks) = (c.walk mode chunks).1 := by
  induction chunks generalizing mode with
  | nil => rfl
  | cons chunk chunks ih =>
      cases chunk with
      | tag t =>
          rw [pieces, urls_append, urls_tagPieces, text_tagPieces, ih, Cut.leaf_append, walk]
      | text t =>
          cases mode with
          | scanning => rw [pieces, urls_append, urls_textPieces, ih, walk]
          | excluded name =>
              rw [pieces, urls_append, ih, walk]
              simp [textPieces, urls, Cut.gather, asUrl]

/-- The cut of the pieces at the comments is the one of the whole text, with other bodies. -/
theorem comments_pieces (h : Text → Text) (c : Converter) (mode : Mode) {u : Text}
    (hb : ∀ body ∈ (Markup.comments u).tokens, '>' ∉ body) :
    comments (pieces h c mode (chunks u)) = (Markup.comments u).map h := by
  induction u using Markup.chunks_induct generalizing mode with
  | plain t ht =>
      rw [Markup.chunks_of_untagged ht, Markup.comments_of_uncommented
        (Markup.uncommented_of_untagged ht), pieces, comments_append, comments_textPieces]
      simp [pieces, comments, Cut.gather, Cut.map_leaf]
  | tag g d inner rest hg hi ih =>
      -- The bodies behind the tag are among those of the whole text.
      have hrest : ∀ body ∈ (Markup.comments rest).tokens, '>' ∉ body := by
        intro body hbody
        rw [Markup.comments_tag hg hb, Cut.tokens_prepend, Cut.tokens_append] at hb
        exact hb body (List.mem_append_right _ hbody)
      rw [Markup.chunks_tag rest hg hi, Markup.comments_tag hg hb, pieces, pieces,
        comments_append, comments_append, comments_textPieces, comments_tagPieces,
        ih _ hrest, Cut.leaf_append, Cut.map_prepend, Cut.map_append]

/-- Other bodies for the comments make the pieces with other bodies. -/
theorem map_relabel_pieces (h : Text → Text) (c : Converter) (mode : Mode)
    (chunks : List Chunk) :
    (pieces id c mode chunks).map (relabel h) = pieces h c mode chunks := by
  induction chunks generalizing mode with
  | nil => rfl
  | cons chunk chunks ih =>
      cases chunk with
      | tag t =>
          have htag : (tagPieces id t).map (relabel h) = tagPieces h t := by
            simp [tagPieces, Cut.pieces, Cut.map, List.map_flatMap, List.flatMap_map, relabel]
          rw [pieces, List.map_append, htag, ih, pieces]
      | text t =>
          have htext : (c.textPieces mode t).map (relabel h) = c.textPieces mode t := by
            cases mode with
            | scanning => simp [textPieces, Cut.pieces, List.map_flatMap, relabel]
            | excluded name => rfl
          rw [pieces, List.map_append, htext, ih, pieces]

/-! ### The pieces of a text -/

/-- The text cut at the URLs to look up: the cut of the masked text, with the comments back in
every gap. -/
def located (c : Converter) (t : Text) : Cut Url.Found :=
  (c.scan (Markup.mask t).1).1.mapGaps (Markup.unmask (Markup.mask t).2)

/-- The pieces of a masked text. -/
def maskedLayout (c : Converter) (t : Text) : List Piece :=
  pieces id c .scanning (chunks (Markup.mask t).1)

/-- The pieces of a text, with its own comments. -/
def layout (c : Converter) (t : Text) : List Piece :=
  pieces (Markup.unmaskBody (Markup.mask t).2.toArray) c .scanning (chunks (Markup.mask t).1)

theorem urls_maskedLayout (c : Converter) (t : Text) :
    urls (c.maskedLayout t) = (c.scan (Markup.mask t).1).1 := urls_pieces _ _ _

theorem map_relabel_maskedLayout (c : Converter) (t : Text) :
    (c.maskedLayout t).map (unmasked (Markup.mask t).2) = c.layout t := map_relabel_pieces _ _ _ _

theorem comments_maskedLayout (c : Converter) (t : Text) :
    comments (c.maskedLayout t) = Markup.comments (Markup.mask t).1 := by
  have hcut : comments (c.maskedLayout t) = (Markup.comments (Markup.mask t).1).map id :=
    comments_pieces _ _ _ fun _ => Markup.not_mem_of_mem_tokens_mask
  rw [hcut]
  simp [Cut.map]

theorem commented_maskedLayout (c : Converter) (t : Text) :
    Commented (comments (c.maskedLayout t)) := by
  rw [comments_maskedLayout]
  exact Markup.commented_comments _

/-- The pieces of a text are cut at its comments. -/
theorem comments_layout (c : Converter) (t : Text) :
    comments (c.layout t) = Markup.comments t := by
  rw [layout, comments_pieces _ _ _ fun _ => Markup.not_mem_of_mem_tokens_mask,
    Markup.map_comments_mask]

theorem text_layout (c : Converter) (t : Text) : text (c.layout t) = t := by
  rw [← render_comments, comments_layout, Markup.render_comments]

/-- The pieces of a text are cut at the URLs to look up. -/
theorem urls_layout (c : Converter) (t : Text) : urls (c.layout t) = c.located t := by
  have hcut : Commented (comments ([] ++ c.maskedLayout t)) := c.commented_maskedLayout t
  have hgaps := mapGaps_urls (Markup.mask t).2 hcut
  simp only [text_nil, List.map_nil, Cut.prepend_nil] at hgaps
  rw [located, ← urls_maskedLayout, hgaps, map_relabel_maskedLayout]

theorem render_located (c : Converter) (t : Text) :
    (c.located t).render Url.Found.matched = t := by
  rw [← urls_layout, render_urls, text_layout]

theorem tokens_located (c : Converter) (t : Text) : (c.located t).tokens = (c.find t).1 := by
  rw [located, Cut.tokens_mapGaps]
  rfl

/-! ### The usual converter -/

/-- The settings where nothing is chosen pass all checks. -/
theorem isSome_make_usual : (make Settings.usual).toOption.isSome = true := by decide +kernel

/-- The converter where nothing is chosen. -/
def usual : Converter := (make Settings.usual).toOption.get isSome_make_usual

end Converter

end BareUrl
