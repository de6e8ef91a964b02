import BareUrl.Proofs.Converter.Layout
import BareUrl.Proofs.Markup.Exclusion

/-!
# `BareUrl.Proofs.Converter.Numbers`: the walk does not see the numbers of masked bodies

Which number stands for a body depends on how many comments there are before it. The walk over a
masked text must not: `pieces_congr` says that two texts with the same text outside of their
comments, and numbers for bodies, have the same pieces as soon as their numbers stand for the same
bodies.

A masked comment is a tag of its own or the end of one (`Markup.chunks_append_tag`), so no number
gets into the text between tags, and a tag is not told apart by a number at its end
(`Markup.after_comment`).
-/

set_option autoImplicit false

namespace BareUrl.Converter

open Markup (Mode chunks maskToken commentOpen commentClose Commented Uncommented Untagged)
open Piece

variable {c : Converter} {mode : Mode} {h₁ h₂ : Text → Text}

/-! ### Pieces of tags -/

theorem tagPieces_of_uncommented (h : Text → Text) {t : Text} (ht : Uncommented t) :
    tagPieces h t = [.plain t] := by
  rw [tagPieces, Markup.comments_of_uncommented ht]
  rfl

theorem tagPieces_comment (h : Text → Text) {s body : Text} (hs : ¬ commentOpen <:+: s)
    (hbody : ¬ commentClose <:+: body) :
    tagPieces h (s ++ Markup.comment body) = [.plain s, .comment (h body), .plain []] := by
  have hcut : Markup.comments (s ++ Markup.comment body) = (Cut.leaf []).cons s body := by
    have hnil : Uncommented [] := Markup.uncommented_of_no_open (by decide)
    have hall := Markup.comments_comment [] hs hbody
    rwa [List.append_nil, Markup.comments_of_uncommented hnil] at hall
  rw [tagPieces, hcut]
  rfl

/-! ### Other numbers -/

/-- Where there are no comments there are no bodies. -/
theorem pieces_of_uncommented (h₁ h₂ : Text → Text) (c : Converter) (mode : Mode) {t : Text}
    (ht : Uncommented t) : pieces h₁ c mode (chunks t) = pieces h₂ c mode (chunks t) := by
  induction t using Markup.chunks_induct generalizing mode with
  | plain t hun =>
      rw [Markup.chunks_of_untagged hun]
      rfl
  | tag g d inner rest hg hi ih =>
      have htag : Uncommented (Markup.tag d inner) := ht.of_infix ⟨g, rest, rfl⟩
      have hrest : Uncommented rest := ht.of_infix List.infix_append_right
      rw [Markup.chunks_tag rest hg hi, pieces, pieces, pieces, pieces,
        tagPieces_of_uncommented h₁ htag, tagPieces_of_uncommented h₂ htag, ih _ hrest]

/-- Behind the same text and a masked comment the pieces go on in the same way, whatever the
number is. -/
theorem pieces_append_comment {m n : Nat} {x y g : Text}
    (hbody : h₁ (maskToken m) = h₂ (maskToken n))
    (hrest : ∀ mode : Mode, mode.Valid c.exclusion →
      pieces h₁ c mode (chunks x) = pieces h₂ c mode (chunks y))
    (hg : ¬ commentOpen <:+: g) (hmode : mode.Valid c.exclusion) :
    pieces h₁ c mode (chunks (g ++ (Markup.comment (maskToken m) ++ x)))
      = pieces h₂ c mode (chunks (g ++ (Markup.comment (maskToken n) ++ y))) := by
  induction g using Markup.chunks_induct generalizing mode with
  | plain g hun =>
      -- The comment ends the first tag that there is.
      obtain ⟨before, opened, rfl, hbefore, -, hchunks⟩ := Markup.chunks_append_tag hun
      have hopened : ¬ commentOpen <:+: opened :=
        fun hin => hg (List.infix_append_of_infix_right hin)
      have hall (n : Nat) (rest : Text) :
          chunks (before ++ opened ++ (Markup.comment (maskToken n) ++ rest))
            = .text before :: .tag (opened ++ Markup.comment (maskToken n)) :: chunks rest := by
        rw [Markup.comment_eq_tag]
        exact hchunks _ _ _ (by simp [Markup.not_mem_maskToken])
      have hno (n : Nat) : ¬ commentClose <:+: maskToken n :=
        Markup.no_close_of_not_mem (Markup.not_mem_maskToken n)
      have hafter : mode.after c.exclusion (opened ++ Markup.comment (maskToken m))
          = mode.after c.exclusion (opened ++ Markup.comment (maskToken n)) :=
        Markup.after_comment hmode (hun.of_infix List.infix_append_right) m n
      rw [hall, hall, pieces, pieces, pieces, pieces, tagPieces_comment h₁ hopened (hno m),
        tagPieces_comment h₂ hopened (hno n), hbody, hafter, hrest _ (hmode.after _)]
  | tag g d inner rest hg' hi ih =>
      -- A complete tag in front of the comment is read on its own.
      have hsplit (z : Text) : g ++ Markup.tag d inner ++ rest ++ z
          = g ++ Markup.tag d inner ++ (rest ++ z) := List.append_assoc _ _ _
      have htag : Uncommented (Markup.tag d inner) :=
        Markup.uncommented_of_no_open fun hin => hg (hin.trans ⟨g, rest, rfl⟩)
      have hrest' : ¬ commentOpen <:+: rest :=
        fun hin => hg (List.infix_append_of_infix_right hin)
      rw [hsplit, hsplit, Markup.chunks_tag _ hg' hi, Markup.chunks_tag _ hg' hi, pieces, pieces,
        pieces, pieces, tagPieces_of_uncommented h₁ htag, tagPieces_of_uncommented h₂ htag,
        ih hrest' (hmode.after _)]

/-- Texts with numbers for bodies, and the same text outside of their comments, have the same
pieces if their numbers stand for the same bodies. -/
theorem pieces_congr {u v : Cut Text} (hu : Commented u)
    (hunumbers : ∀ body ∈ u.tokens, ∃ n, body = maskToken n)
    (hvnumbers : ∀ body ∈ v.tokens, ∃ n, body = maskToken n) (heq : u.map h₁ = v.map h₂)
    (hmode : mode.Valid c.exclusion) :
    pieces h₁ c mode (chunks (u.render Markup.comment))
      = pieces h₂ c mode (chunks (v.render Markup.comment)) := by
  induction u using Cut.ind generalizing v mode with
  | leaf t =>
      cases v using Cut.ind with
      | leaf t' =>
          obtain rfl := Cut.leaf_inj.1 heq
          exact pieces_of_uncommented h₁ h₂ c mode hu.last
      | cons g body v _ =>
          rw [Cut.map_leaf, Cut.map_cons] at heq
          exact absurd heq Cut.leaf_ne_cons
  | cons g body u ih =>
      cases v using Cut.ind with
      | leaf t =>
          rw [Cut.map_leaf, Cut.map_cons] at heq
          exact absurd heq.symm Cut.leaf_ne_cons
      | cons g' body' v _ =>
          obtain ⟨hg, -, hcut⟩ := Markup.commented_cons.1 hu
          obtain ⟨m, rfl⟩ := hunumbers body List.mem_cons_self
          obtain ⟨n, rfl⟩ := hvnumbers body' List.mem_cons_self
          rw [Cut.map_cons, Cut.map_cons, Cut.cons_inj] at heq
          obtain ⟨rfl, hbody, hmap⟩ := heq
          -- Behind the comment the mode may be any, as the tag that it ends may open an element.
          have hrest : ∀ mode : Mode, mode.Valid c.exclusion →
              pieces h₁ c mode (chunks (u.render Markup.comment))
                = pieces h₂ c mode (chunks (v.render Markup.comment)) := fun mode hvalid =>
            ih hcut (fun b hb => hunumbers b (List.mem_cons_of_mem _ hb))
              (fun b hb => hvnumbers b (List.mem_cons_of_mem _ hb)) hmap hvalid
          rw [Cut.render_cons, Cut.render_cons, List.append_assoc, List.append_assoc]
          exact pieces_append_comment hbody hrest hg hmode

/-! ### URLs -/

/-- The URLs among the pieces do not depend on the bodies. -/
theorem tokens_urls_pieces (h : Text → Text) (c : Converter) (mode : Mode)
    (chunks : List Markup.Chunk) :
    (urls (pieces h c mode chunks)).tokens = (c.walk mode chunks).1.tokens := by
  have hrelabel (ps : List Piece) : (urls (ps.map (relabel h))).tokens = (urls ps).tokens := by
    induction ps with
    | nil => rfl
    | cons p ps ih =>
        cases p with
        | plain t => exact (Cut.tokens_prepend _ _).trans (ih.trans (Cut.tokens_prepend _ _).symm)
        | comment body =>
            exact (Cut.tokens_prepend _ _).trans (ih.trans (Cut.tokens_prepend _ _).symm)
        | url f => exact congrArg (List.cons f) ih
  rw [← map_relabel_pieces, hrelabel, urls_pieces]

/-- The URLs of a text are those that the walk finds with one number for all bodies. -/
theorem find_eq_tokens_walk (c : Converter) (t : Text) :
    (c.find t).1 = (c.walk .scanning (chunks
      (((Markup.comments t).map fun _ => maskToken 0).render Markup.comment))).1.tokens := by
  have hnumbers : ∀ body ∈ ((Markup.comments t).map fun _ => maskToken 0).tokens,
      ∃ n, body = maskToken n := by
    intro body hbody
    rw [Cut.tokens_map] at hbody
    obtain ⟨_, -, rfl⟩ := List.mem_map.1 hbody
    exact ⟨0, rfl⟩
  -- If all numbers stand for the empty body, it does not matter which ones they are.
  have hpieces : pieces (fun _ => []) c .scanning (chunks (Markup.mask t).1)
      = pieces (fun _ => []) c .scanning
          (chunks (((Markup.comments t).map fun _ => maskToken 0).render Markup.comment)) := by
    rw [Markup.mask_eq_render]
    refine pieces_congr (Markup.commented_numbered 0 t)
      (fun _ => Markup.exists_of_mem_tokens_numbered) hnumbers ?_ trivial
    rw [Markup.map_const_numbered, Cut.map_map]
  have htokens := congrArg (fun ps => (urls ps).tokens) hpieces
  simp only [tokens_urls_pieces] at htokens
  exact htokens

end BareUrl.Converter
