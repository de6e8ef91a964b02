import BareUrl.Proofs.Converter.Layout

/-!
# `BareUrl.Proofs.Converter.Rewrite`: placeholders do not disturb comments

Some URLs of a text become placeholders (`Piece.Rewritten`). The text is unmasked only then, so
its comments must be found where they were: `Rewritten.commented`.

A placeholder starts with `<` and ends with `>`. The opening delimiter of a comment has `<` only
at its start and the closing one has `>` only at its end, so none of them reaches into a
placeholder or out of it (`open_infix_placeholder`, `close_infix_placeholder`). A delimiter that
stood partly in a URL, or in the leader of one, can only get lost, and a comment that is never
closed stays so.
-/

set_option autoImplicit false

namespace BareUrl

open Markup (Commented Uncommented commentOpen commentClose)

/-! ### Placeholders -/

namespace Converter

/-- What a placeholder starts with, up to its URL. -/
def placeholderFront : Text :=
  '<' :: placeholderName ++ [' '] ++ placeholderAttribute ++ "=\"".toList

/-- What a placeholder ends with, behind its URL. -/
def placeholderBack : Text := "\"></".toList ++ placeholderName ++ ['>']

theorem placeholderName_eq :
    placeholderName = ['d', 'r', 'u', 'p', 'a', 'l', '-', 'u', 'r', 'l'] := by decide

theorem placeholderAttribute_eq : placeholderAttribute =
    ['d', 'a', 't', 'a', '-', 'e', 'm', 'b', 'e', 'd', '-', 'u', 'r', 'l'] := by decide

theorem placeholderFront_eq : placeholderFront =
    ['<', 'd', 'r', 'u', 'p', 'a', 'l', '-', 'u', 'r', 'l', ' ', 'd', 'a', 't', 'a', '-', 'e', 'm',
      'b', 'e', 'd', '-', 'u', 'r', 'l', '=', '"'] := by decide

theorem placeholderBack_eq : placeholderBack =
    ['"', '>', '<', '/', 'd', 'r', 'u', 'p', 'a', 'l', '-', 'u', 'r', 'l', '>'] := by decide

theorem placeholder_eq (url : Text) :
    placeholder url = placeholderFront ++ (url ++ placeholderBack) := by
  rw [placeholder]
  simp only [List.append_assoc]
  rfl

theorem no_open_in_placeholder {url : Text} (hurl : '<' ∉ url) :
    ¬ commentOpen <:+: placeholder url := by
  rw [placeholder_eq, placeholderFront_eq, placeholderBack_eq]
  intro h
  -- The only other `<` is in the part behind the URL.
  rw [List.cons_append, List.infix_cons_iff, ← List.append_assoc] at h
  rcases h with h | h
  · simp [Markup.commentOpen_eq] at h
  · refine absurd (Text.infix_of_not_mem_head (fun hmem => ?_) h) (by decide)
    rcases List.mem_append.1 hmem with hmem | hmem
    · exact absurd hmem (by decide)
    · exact hurl hmem

theorem no_close_in_placeholder {url : Text} (hurl : '>' ∉ url) :
    ¬ commentClose <:+: placeholder url := by
  rw [placeholder_eq, placeholderFront_eq, placeholderBack_eq]
  intro h
  rw [← List.append_assoc, Text.infix_append_cons (by decide)] at h
  rcases h with h | h
  · refine Markup.no_close_of_not_mem (fun hmem => ?_) h
    rcases List.mem_append.1 hmem with hmem | hmem
    · exact absurd hmem (by decide)
    · exact hurl hmem
  · exact absurd h (by decide)

/-- A literal that has `<` at most at its start and `>` at most at its end does not reach across
the edge of a placeholder. -/
theorem infix_around_placeholder {p a b : Text} (url : Text) (hopen : '<' ∉ p.tail)
    (hclose : '>' ∉ p.dropLast) (hurl : ¬ p <:+: placeholder url) :
    p <:+: a ++ (placeholder url ++ b) ↔ p <:+: a ∨ p <:+: b := by
  obtain ⟨s, hs⟩ : ∃ s, placeholder url = s ++ ['>'] :=
    ⟨placeholderFront ++ (url ++ placeholderBack.dropLast), by
      simp [placeholder_eq, placeholderBack_eq]⟩
  obtain ⟨s', hs'⟩ : ∃ s, placeholder url = '<' :: s :=
    ⟨placeholderFront.tail ++ (url ++ placeholderBack), by
      simp [placeholder_eq, placeholderFront_eq]⟩
  rw [hs', List.cons_append, Text.infix_append_cons hopen, ← List.cons_append, ← hs', hs,
    Text.infix_append_concat hclose, ← hs]
  simp [hurl]

theorem open_infix_placeholder {url a b : Text} (hurl : '<' ∉ url) :
    commentOpen <:+: a ++ (placeholder url ++ b) ↔ commentOpen <:+: a ∨ commentOpen <:+: b :=
  infix_around_placeholder url (by decide) (by decide) (no_open_in_placeholder hurl)

theorem close_infix_placeholder {url a b : Text} (hurl : '>' ∉ url) :
    commentClose <:+: a ++ (placeholder url ++ b) ↔ commentClose <:+: a ∨ commentClose <:+: b :=
  infix_around_placeholder url (by decide) (by decide) (no_close_in_placeholder hurl)

end Converter

namespace Piece

open Converter

/-! ### Rewritten pieces -/

/-- Some of the URLs, which hold no angle brackets, became placeholders. -/
inductive Rewritten : List Piece → List Piece → Prop where
  | nil : Rewritten [] []
  | keep (p : Piece) {ps qs : List Piece} (h : Rewritten ps qs) : Rewritten (p :: ps) (p :: qs)
  | embed (f : Url.Found) {ps qs : List Piece} (hopen : '<' ∉ f.url) (hclose : '>' ∉ f.url)
      (h : Rewritten ps qs) : Rewritten (.url f :: ps) (.plain (placeholder f.url) :: qs)

variable {ps qs : List Piece}

theorem Rewritten.tokens_comments (h : Rewritten ps qs) :
    (comments qs).tokens = (comments ps).tokens := by
  induction h with
  | nil => rfl
  | keep p h ih =>
      cases p with
      | plain t => exact (Cut.tokens_prepend _ _).trans (ih.trans (Cut.tokens_prepend _ _).symm)
      | url f => exact (Cut.tokens_prepend _ _).trans (ih.trans (Cut.tokens_prepend _ _).symm)
      | comment body => exact congrArg (List.cons body) ih
  | embed f _ _ h ih =>
      exact (Cut.tokens_prepend _ _).trans (ih.trans (Cut.tokens_prepend _ _).symm)

/-- No closing delimiter comes from a placeholder. -/
theorem Rewritten.close_infix (h : Rewritten ps qs) {a : Text}
    (hclose : commentClose <:+: a ++ text qs) : commentClose <:+: a ++ text ps := by
  induction h generalizing a with
  | nil => exact hclose
  | keep p h ih =>
      rw [text_cons, ← List.append_assoc] at hclose ⊢
      exact ih hclose
  | embed f _ hurl h ih =>
      have hsplit : commentClose <:+: a ∨ commentClose <:+: text _ :=
        (close_infix_placeholder hurl).1 hclose
      rcases hsplit with ha | hqs
      · exact List.infix_append_of_infix_left ha
      · have hps : commentClose <:+: text _ := ih (a := []) hqs
        exact List.infix_append_of_infix_right (List.infix_append_of_infix_right hps)

/-- A cut without tokens is a leaf with the text that it writes. -/
theorem comments_eq_leaf (h : (comments ps).tokens = []) : comments ps = .leaf (text ps) := by
  rw [← render_comments]
  cases hc : comments ps using Cut.ind with
  | leaf t => rfl
  | cons g body c _ => simp [hc] at h

/-- Text in which no comment starts keeps the cut at the comments that of the text. -/
theorem commented_prepend_of_no_start {x : Text} (hps : Commented (comments ps))
    (hx : ∀ b, commentOpen <:+: x ++ b → commentOpen <:+: b) :
    Commented ((comments ps).prepend x) := by
  rw [← Markup.comments_render_of_commented hps, ← Markup.comments_append_of_no_start hx]
  exact Markup.commented_comments _

/-- Behind a delimiter that is not closed there are no comments, and if there are none in front of
a placeholder or behind it, there are none around it. -/
theorem Rewritten.uncommented_embed (h : Rewritten ps qs) {f : Url.Found} {a : Text}
    (hurl : '>' ∉ f.url) (hopen : commentOpen <:+: a)
    (hps : Uncommented (a ++ (f.matched ++ text ps))) :
    Uncommented (a ++ (placeholder f.url ++ text qs)) := by
  -- It is enough that nothing closes the first delimiter, which is in front of the placeholder.
  obtain ⟨g, k, rfl, hg⟩ :=
    Text.first_of_infix Markup.unbordered_commentOpen (by decide) hopen
  rw [List.append_assoc]
  refine Markup.uncommented_of_open hg fun hclose => ?_
  have hold : ¬ commentClose <:+: k ++ (f.matched ++ text ps) :=
    hps g _ (by rw [List.append_assoc])
  rcases (close_infix_placeholder hurl).1 hclose with hk | hqs
  · exact hold (List.infix_append_of_infix_left hk)
  · have hclose' : commentClose <:+: text ps := h.close_infix (a := []) hqs
    exact hold (List.infix_append_of_infix_right (List.infix_append_of_infix_right hclose'))

/-- Placeholders leave the comments where they are, also behind text whose delimiters are not
closed yet. -/
theorem Rewritten.commented_prepend (h : Rewritten ps qs) {a : Text}
    (hps : Commented ((comments ps).prepend a)) : Commented ((comments qs).prepend a) := by
  induction h generalizing a with
  | nil => exact hps
  | keep p h ih =>
      rename_i ps qs
      cases p with
      | plain t =>
          have hcut : Commented (((comments ps).prepend t).prepend a) := hps
          show Commented (((comments qs).prepend t).prepend a)
          rw [Cut.prepend_prepend] at hcut ⊢
          exact ih hcut
      | url f =>
          have hcut : Commented (((comments ps).prepend f.matched).prepend a) := hps
          show Commented (((comments qs).prepend f.matched).prepend a)
          rw [Cut.prepend_prepend] at hcut ⊢
          exact ih hcut
      | comment body =>
          have hcut : Commented (((comments ps).cons [] body).prepend a) := hps
          show Commented (((comments qs).cons [] body).prepend a)
          rw [Cut.prepend_cons, Markup.commented_cons] at hcut ⊢
          have hrest := ih (a := []) (by rw [Cut.prepend_nil]; exact hcut.2.2)
          rw [Cut.prepend_nil] at hrest
          exact ⟨hcut.1, hcut.2.1, hrest⟩
  | embed f hurl hurl' h ih =>
      rename_i ps qs
      have hcut : Commented (((comments ps).prepend f.matched).prepend a) := hps
      show Commented (((comments qs).prepend (placeholder f.url)).prepend a)
      rw [Cut.prepend_prepend] at hcut ⊢
      have hrest : Commented (comments ps) :=
        (Commented.of_append (c := .leaf (a ++ f.matched)) hcut).2
      have hqs : Commented (comments qs) := by
        have := ih (a := []) (by rwa [Cut.prepend_nil])
        rwa [Cut.prepend_nil] at this
      by_cases hopen : commentOpen <:+: a
      · -- A delimiter that is still open: there is no comment behind it.
        have hnone : (comments ps).tokens = [] := by
          cases hc : comments ps using Cut.ind with
          | leaf t => rfl
          | cons g body c _ =>
              rw [hc, Cut.prepend_cons, Markup.commented_cons] at hcut
              refine absurd ?_ hcut.1
              exact List.infix_append_of_infix_left (List.infix_append_of_infix_left hopen)
        rw [comments_eq_leaf hnone, Cut.prepend_leaf, Markup.commented_leaf] at hcut
        rw [comments_eq_leaf (h.tokens_comments.trans hnone), Cut.prepend_leaf,
          Markup.commented_leaf, List.append_assoc]
        rw [List.append_assoc] at hcut
        exact h.uncommented_embed hurl' hopen hcut
      · -- No delimiter starts in front of the placeholder or in it.
        refine commented_prepend_of_no_start hqs fun b hb => ?_
        rw [List.append_assoc] at hb
        exact ((open_infix_placeholder hurl).1 hb).resolve_left hopen

/-- Placeholders leave the comments where they are. -/
theorem Rewritten.commented (h : Rewritten ps qs) (hps : Commented (comments ps)) :
    Commented (comments qs) := by
  have hnil := h.commented_prepend (a := []) (by rwa [Cut.prepend_nil])
  rwa [Cut.prepend_nil] at hnil

end Piece

end BareUrl
