import BareUrl.Markup.Chunk
import BareUrl.Proofs.Markup.Comment

/-!
# `BareUrl.Proofs.Markup.Chunk`: which texts are chunked where

A text holds no complete tag (`Untagged`), and is one chunk then, or it starts with text without
`<` and a first tag (`untagged_or_tag`); `chunks_tag` and `chunks_of_untagged` say what the chunks
are in either case, and `chunks_induct` is the induction along them.

`comments_tag` and `uncommented_of_untagged` relate tags to comments: cutting a text at its
tags and each tag at its comments is cutting the text at its comments, as long as no comment body
holds a `>`.
-/

set_option autoImplicit false

namespace BareUrl.Markup

/-- A tag: any character between angle brackets, and further ones but for `>`. -/
def tag (c : Char) (inner : Text) : Text := '<' :: c :: inner ++ ['>']

/-- The text holds no complete tag. -/
def Untagged (t : Text) : Prop := ∀ g c k, t = g ++ '<' :: c :: k → '>' ∉ k

/-- A part of a text without complete tags has none either. -/
theorem Untagged.of_infix {s t : Text} (h : Untagged t) (hs : s <:+: t) : Untagged s := by
  obtain ⟨a, b, rfl⟩ := hs
  rintro g c k rfl hk
  exact h (a ++ g) c (k ++ b) (by simp) (List.mem_append_left b hk)

theorem untagged_of_not_mem {t : Text} (h : '<' ∉ t) : Untagged t := by
  rintro g c k rfl
  simp at h

/-- What lies behind any `<` also lies behind the first one. -/
theorem suffix_of_first_open {g k g' k' : Text} (hg : '<' ∉ g)
    (h : g ++ '<' :: k = g' ++ '<' :: k') : k' <:+ k := by
  have hk : g ++ '<' :: k = g' ++ ['<'] ++ k' := by rw [h, List.append_assoc, List.singleton_append]
  exact Text.suffix_of_cut (Text.cut_singleton_eq_some_iff.2 ⟨rfl, hg⟩) hk

/-- A `<` that is not closed, behind text without one, leaves no complete tag. -/
theorem untagged_of_open {g k : Text} {c : Char} (hg : '<' ∉ g) (hk : '>' ∉ k) :
    Untagged (g ++ '<' :: c :: k) := by
  intro g' c' k' ht hk'
  have hsuf : c' :: k' <:+ c :: k := suffix_of_first_open hg (by simpa using ht)
  -- Any `<` in the text is the first one or lies behind it, where no `>` follows.
  rcases List.suffix_cons_iff.1 hsuf with h | h
  · exact hk ((List.cons.inj h).2 ▸ hk')
  · exact hk (h.subset (List.mem_cons_of_mem c' hk'))

/-- A text holds no complete tag, or it starts with text without `<` and a first tag. -/
theorem untagged_or_tag (t : Text) :
    Untagged t ∨ ∃ g c inner rest, t = g ++ tag c inner ++ rest ∧ '<' ∉ g ∧ '>' ∉ inner := by
  by_cases hopen : '<' ∈ t
  · obtain ⟨g, k, rfl, hg⟩ := List.eq_append_cons_of_mem hopen
    cases k with
    | nil =>
        refine .inl fun g' c k h => ?_
        have hsuf : c :: k <:+ [] := suffix_of_first_open hg h
        simp at hsuf
    | cons c k =>
        by_cases hclose : '>' ∈ k
        · obtain ⟨inner, rest, rfl, hi⟩ := List.eq_append_cons_of_mem hclose
          exact .inr ⟨g, c, inner, rest, by simp [tag], hg, hi⟩
        · exact .inl (untagged_of_open hg hclose)
  · exact .inl (untagged_of_not_mem hopen)

/-! ### The chunks -/

theorem tags_of_untagged {t : Text} (h : Untagged t) : tags t = .leaf t := by
  have hn : nextTag t = none := by
    unfold nextTag
    split
    · rfl
    · rfl
    · rename_i g c k hc
      split
      · rfl
      · rename_i hb
        rw [Text.cut_singleton_eq_some_iff] at hc
        have hk := Text.cut_singleton_eq_none_iff.2 (h g c k hc.1)
        exact absurd (hb.symm.trans hk) (by simp)
  rw [tags, Scan.run, hn]

theorem length_lt_of_tag (g : Text) (c : Char) (inner rest : Text) :
    rest.length < (g ++ tag c inner ++ rest).length := by
  simp only [tag, List.length_append, List.length_cons]
  omega

theorem tags_tag {g : Text} {c : Char} {inner : Text} (rest : Text) (hg : '<' ∉ g)
    (hi : '>' ∉ inner) : tags (g ++ tag c inner ++ rest) = (tags rest).cons g (tag c inner) := by
  have hopen : Text.cut ['<'] (g ++ tag c inner ++ rest) = some (g, c :: (inner ++ '>' :: rest)) :=
    Text.cut_singleton_eq_some_iff.2 ⟨by simp [tag], hg⟩
  have hclose : Text.cut ['>'] (inner ++ '>' :: rest) = some (inner, rest) :=
    Text.cut_singleton_eq_some_iff.2 ⟨rfl, hi⟩
  have hn : ∃ hlt, nextTag (g ++ tag c inner ++ rest) = some ⟨g, tag c inner, rest, hlt⟩ := by
    unfold nextTag
    split
    · rename_i h
      rw [hopen] at h
      simp at h
    · rename_i h
      rw [hopen] at h
      simp at h
    · rename_i h
      rw [hopen] at h
      simp only [Option.some.injEq, Prod.mk.injEq, List.cons.injEq] at h
      obtain ⟨rfl, rfl, rfl⟩ := h
      split
      · rename_i h
        rw [hclose] at h
        simp at h
      · rename_i h
        rw [hclose] at h
        simp only [Option.some.injEq, Prod.mk.injEq] at h
        obtain ⟨rfl, rfl⟩ := h
        exact ⟨length_lt_of_tag _ _ _ _, rfl⟩
  obtain ⟨_, hn⟩ := hn
  rw [tags, Scan.run, hn]
  rfl

theorem chunks_of_untagged {t : Text} (h : Untagged t) : chunks t = [.text t] := by
  rw [chunks, tags_of_untagged h]
  rfl

theorem chunks_tag {g : Text} {c : Char} {inner : Text} (rest : Text) (hg : '<' ∉ g)
    (hi : '>' ∉ inner) :
    chunks (g ++ tag c inner ++ rest) = .text g :: .tag (tag c inner) :: chunks rest := by
  rw [chunks, tags_tag rest hg hi]
  rfl

/-- A property of all texts: of those without complete tags, and kept by text without `<` and a
tag in front. -/
@[elab_as_elim]
theorem chunks_induct {motive : Text → Prop} (plain : ∀ t, Untagged t → motive t)
    (tag : ∀ g c inner rest, '<' ∉ g → '>' ∉ inner → motive rest →
      motive (g ++ tag c inner ++ rest)) (t : Text) : motive t := by
  rcases untagged_or_tag t with ht | ⟨g, c, inner, rest, rfl, hg, hi⟩
  · exact plain t ht
  · exact tag g c inner rest hg hi (chunks_induct plain tag rest)
termination_by t.length
decreasing_by
  subst_vars
  exact length_lt_of_tag _ _ _ _

/-- Writing the cut at the tags gives the text back. -/
theorem render_tags (t : Text) : (tags t).render id = t := by
  induction t using chunks_induct with
  | plain t ht => rw [tags_of_untagged ht, Cut.render_leaf]
  | tag g c inner rest hg hi ih =>
      rw [tags_tag rest hg hi, Cut.render_cons, ih]
      rfl

/-! ### Tags of texts one behind the other -/

theorem tags_append_of_not_mem {a : Text} (ha : '<' ∉ a) (b : Text) :
    tags (a ++ b) = (tags b).prepend a := by
  rcases untagged_or_tag b with hb | ⟨g, c, inner, rest, rfl, hg, hi⟩
  · have hab : Untagged (a ++ b) := by
      intro g c k h
      rcases List.append_eq_append_iff.1 h with ⟨x, rfl, hx⟩ | ⟨x, rfl, hx⟩
      · exact hb x c k hx
      · -- The `<` would be one of the first text.
        cases x with
        | nil => exact hb [] c k hx.symm
        | cons d x =>
            obtain ⟨rfl, -⟩ := List.cons.inj hx
            simp at ha
    rw [tags_of_untagged hab, tags_of_untagged hb, Cut.prepend_leaf]
  · have hag : '<' ∉ a ++ g := by simp [ha, hg]
    have hsplit : a ++ (g ++ tag c inner ++ rest) = a ++ g ++ tag c inner ++ rest := by simp
    rw [hsplit, tags_tag rest hag hi, tags_tag rest hg hi, Cut.prepend_cons]

/-- The first chunk of a text goes on where the text before it ends. -/
theorem chunks_append_of_not_mem {a b t : Text} {rest : List Chunk} (ha : '<' ∉ a)
    (hb : chunks b = .text [] :: .tag t :: rest) :
    chunks (a ++ b) = .text a :: .tag t :: rest := by
  rw [chunks] at hb
  rw [chunks, tags_append_of_not_mem ha]
  cases htags : tags b using Cut.ind with
  | leaf last =>
      rw [htags] at hb
      exact absurd (congrArg List.length hb) (by simp [chunksOf, Cut.leaf])
  | cons g t' k _ =>
      rw [htags] at hb
      have hparts : Chunk.text g :: Chunk.tag t' :: chunksOf k = .text [] :: .tag t :: rest := hb
      simp only [List.cons.injEq, Chunk.text.injEq, Chunk.tag.injEq] at hparts
      obtain ⟨rfl, rfl, rfl⟩ := hparts
      show Chunk.text (a ++ []) :: Chunk.tag t' :: chunksOf k = _
      rw [List.append_nil]

/-- If no tag starts in what is behind the last tag of a text, the text is cut on its own, and what
follows it on its own. -/
theorem tags_append {a : Text} (ha : '<' ∉ (tags a).last) (b : Text) :
    tags (a ++ b) = (tags a).append (tags b) := by
  induction a using chunks_induct with
  | plain a hun =>
      rw [tags_of_untagged hun] at ha ⊢
      rw [Cut.leaf_append]
      exact tags_append_of_not_mem ha b
  | tag g c inner rest hg hi ih =>
      rw [tags_tag rest hg hi] at ha ⊢
      rw [List.append_assoc, tags_tag _ hg hi, Cut.cons_append, ih ha]

/-- Then every `<` of the text is closed. -/
theorem mem_of_open {a y k : Text} (ha : '<' ∉ (tags a).last) (h : a = y ++ '<' :: k) :
    '>' ∈ k := by
  induction a using chunks_induct generalizing y with
  | plain a hun =>
      rw [tags_of_untagged hun] at ha
      exact absurd (h ▸ List.mem_append_right y List.mem_cons_self) ha
  | tag g c inner rest hg hi ih =>
      rw [tags_tag rest hg hi] at ha
      rcases List.append_eq_append_iff.1 h with ⟨x, -, hx⟩ | ⟨x, hx, hx'⟩
      · exact ih ha hx
      · -- The `<` is in the gap or the tag, so the end of the tag is behind it.
        cases x with
        | nil => exact ih ha (y := []) hx'.symm
        | cons d x =>
            obtain ⟨rfl, rfl⟩ := List.cons.inj hx'
            have hends : EndsClosed (y ++ '<' :: x) :=
              .inr ⟨g ++ '<' :: c :: inner, by rw [← hx]; simp [tag]⟩
            rcases hends.of_append with hnil | ⟨s, hs⟩
            · exact absurd hnil (List.cons_ne_nil _ _)
            · cases s with
              | nil => exact absurd (List.cons.inj hs).1 (by decide)
              | cons d s =>
                  obtain ⟨-, rfl⟩ := List.cons.inj hs
                  simp

/-- Behind text without complete tags, a tag that holds no further `>` is a tag of its own, or the
end of one that starts at the first `<` of the text. -/
theorem chunks_append_tag {s : Text} (hs : Untagged s) :
    ∃ before opened, s = before ++ opened ∧ '<' ∉ before ∧
      (opened = [] ∨ ∃ x, opened = '<' :: x) ∧
      ∀ c inner rest, '>' ∉ c :: inner → chunks (s ++ (tag c inner ++ rest))
        = .text before :: .tag (opened ++ tag c inner) :: chunks rest := by
  by_cases hopen : '<' ∈ s
  · obtain ⟨before, x, rfl, hbefore⟩ := List.eq_append_cons_of_mem hopen
    refine ⟨before, '<' :: x, rfl, hbefore, .inr ⟨x, rfl⟩, fun c inner rest hclose => ?_⟩
    -- The tag starts at the first `<`, which nothing has closed so far.
    obtain ⟨d, inner', htag, hi⟩ :
        ∃ d inner', '<' :: x ++ tag c inner = tag d inner' ∧ '>' ∉ inner' := by
      cases x with
      | nil => exact ⟨'<', c :: inner, rfl, hclose⟩
      | cons d x =>
          have hx : '>' ∉ x := hs before d x rfl
          refine ⟨d, x ++ '<' :: c :: inner, by simp [tag], fun hmem => ?_⟩
          rcases List.mem_append.1 hmem with hmem | hmem
          · exact hx hmem
          · exact hclose (List.mem_of_ne_of_mem (by decide) hmem)
    have hsplit : before ++ '<' :: x ++ (tag c inner ++ rest)
        = before ++ ('<' :: x ++ tag c inner) ++ rest := by simp
    rw [hsplit, htag, chunks_tag rest hbefore hi]
  · refine ⟨s, [], (List.append_nil s).symm, hopen, .inl rfl, fun c inner rest hclose => ?_⟩
    have hi : '>' ∉ inner := fun h => hclose (List.mem_cons_of_mem c h)
    rw [← List.append_assoc, chunks_tag rest hopen hi, List.nil_append]

/-! ### Tags and comments -/

theorem comment_eq_tag (body : Text) :
    comment body = tag '!' ('-' :: '-' :: (body ++ ['-', '-'])) := by
  simp [comment, commentOpen_eq, commentClose_eq, tag]

/-- A comment is a tag or starts with one. -/
theorem uncommented_of_untagged {t : Text} (h : Untagged t) : Uncommented t := by
  intro g k ht hk
  refine h g '!' ("--".toList ++ k) (by rw [ht]; simp [commentOpen_eq]) ?_
  exact List.mem_append_right _ (hk.subset (by decide))

theorem endsClosed_tag (c : Char) (inner : Text) : EndsClosed (tag c inner) := .inr ⟨_, rfl⟩

/-- If no comment body holds a `>`, a tag is cut at its comments on its own. -/
theorem comments_tag {g : Text} {c : Char} {inner rest : Text} (hg : '<' ∉ g)
    (hb : ∀ body ∈ (comments (g ++ tag c inner ++ rest)).tokens, '>' ∉ body) :
    comments (g ++ tag c inner ++ rest)
      = ((comments (tag c inner)).append (comments rest)).prepend g := by
  rw [List.append_assoc, comments_append_of_not_mem hg, Cut.tokens_prepend] at hb
  rw [List.append_assoc, comments_append_of_not_mem hg,
    comments_append_of_closed (endsClosed_tag c inner) hb]

end BareUrl.Markup
