import BareUrl.Proofs.Markup.Mask

/-!
# `BareUrl.Proofs.Markup.Unmask`: bodies in a text that has been rewritten

Between masking and unmasking the text around the comments is rewritten. `unmask_mask` says that
this is safe as long as the comments of the new text are the numbered tokens, one after another:
then every body is back where its token stands.

The search for comments knows nothing of the tokens, and a `<!--` in front of a token would begin
a comment that runs into it. So the question is whether the comments that are found are the tokens
that were put there. `commented_iff` says that this can be told from their bodies. The reason is
that no text has fewer comments than were put into it (`length_tokens_le`), since the first one
that is found ends no later than any complete comment does (`exists_tokens_behind`). If one with
the body of a token were found in front of that token, there would be one too many.
-/

set_option autoImplicit false

namespace BareUrl.Markup

/-! ### How many comments there are -/

/-- The first comment of a text ends where a complete comment of it ends, or before. So the other
comments that are found are those of a text that ends with what is behind that comment. -/
theorem exists_tokens_behind (a body rest : Text) :
    ∃ first z, (comments (a ++ comment body ++ rest)).tokens
      = first :: (comments (z ++ rest)).tokens := by
  have hopen : a ++ comment body ++ rest = a ++ commentOpen ++ (body ++ commentClose ++ rest) := by
    simp [comment]
  have hclose : commentClose <:+: body ++ commentClose ++ rest := ⟨body, rest, rfl⟩
  rcases uncommented_or_comment (a ++ comment body ++ rest) with h | ⟨g, first, r, h, hg, hfirst⟩
  · exact absurd hclose (h a _ hopen)
  · rw [h, comments_comment r hg hfirst, Cut.tokens_cons]
    have hcut : Text.cut commentOpen (a ++ comment body ++ rest)
        = some (g, first ++ commentClose ++ r) := by
      rw [h, comment]
      simpa using Text.cut_append_self (first ++ commentClose ++ r) unbordered_commentOpen hg
    -- Behind the first opening delimiter there is the given comment's end, and so behind the
    -- first closing one there is all that is behind the given comment.
    obtain ⟨x, hx⟩ := Text.suffix_of_cut hcut hopen
    have hrest : first ++ commentClose ++ r = (x ++ body) ++ commentClose ++ rest := by
      rw [← hx]
      simp
    have hcut' := Text.cut_append_self r unbordered_commentClose hfirst
    obtain ⟨z, hz⟩ := Text.suffix_of_cut hcut' hrest
    exact ⟨first, z, by rw [hz]⟩

/-- A text has no more comments than any text that ends with it. -/
theorem length_tokens_append_le (a t : Text) :
    (comments t).tokens.length ≤ (comments (a ++ t)).tokens.length := by
  induction t using comments_induct generalizing a with
  | plain t ht =>
      rw [comments_of_uncommented ht]
      exact Nat.zero_le _
  | comment g body rest hg hb ih =>
      obtain ⟨first, z, hz⟩ := exists_tokens_behind (a ++ g) body rest
      have hassoc : a ++ (g ++ comment body ++ rest) = a ++ g ++ comment body ++ rest := by simp
      rw [hassoc, hz, comments_comment rest hg hb, Cut.tokens_cons]
      exact Nat.succ_le_succ (ih z)

/-- As many comments as are put into a text are found in it, whatever stands between them. -/
theorem length_tokens_le (c : Cut Text) :
    c.tokens.length ≤ (comments (c.render comment)).tokens.length := by
  induction c using Cut.ind with
  | leaf t => exact Nat.zero_le _
  | cons g body c ih =>
      obtain ⟨first, z, hz⟩ := exists_tokens_behind g body (c.render comment)
      rw [Cut.render_cons, hz, Cut.tokens_cons]
      exact Nat.succ_le_succ (Nat.le_trans ih (length_tokens_append_le z _))

/-! ### Which comments there are -/

/-- Two comments with one body that holds no `<` do not overlap: the second one starts where the
first one does, or behind it. -/
theorem comment_apart {body x u v : Text} (hbody : '<' ∉ body)
    (h : comment body ++ u = x ++ (comment body ++ v)) :
    x = [] ∨ ∃ y, x = comment body ++ y ∧ u = y ++ (comment body ++ v) := by
  have hcomment : comment body = '<' :: ('!' :: '-' :: '-' :: body ++ commentClose) := by
    simp [comment, commentOpen_eq]
  have htail : '<' ∉ '!' :: '-' :: '-' :: body ++ commentClose := by
    simp [hbody, commentClose_eq]
  rcases List.append_eq_append_iff.1 h with hbehind | ⟨w, hw, hv⟩
  · exact .inr hbehind
  · cases w with
    | nil => exact .inr ⟨[], by simp [hw], by simpa using hv.symm⟩
    | cons c w =>
        cases x with
        | nil => exact .inl rfl
        | cons d x =>
            -- The second one would start with a `<` inside of the first one.
            rw [hcomment] at hv hw
            simp only [List.cons_append, List.cons.injEq] at hv hw
            obtain ⟨rfl, -⟩ := hv
            have hmem : '<' ∈ x ++ '<' :: w := by simp
            rw [← hw.2] at hmem
            exact absurd hmem htail

/-- The first comment that is found is the first one there is, if it has its body and no more
comments are found behind it than there are. -/
theorem gap_eq {g g' body rest : Text} {c : Cut Text} (hopen : '<' ∉ body)
    (hg' : ¬ commentOpen <:+: g') (hrest : (comments rest).tokens.length ≤ c.tokens.length)
    (h : g ++ (comment body ++ c.render comment) = g' ++ (comment body ++ rest)) : g = g' := by
  rcases List.append_eq_append_iff.1 h with ⟨x, rfl, hx⟩ | ⟨x, rfl, hx⟩
  · rcases comment_apart hopen hx with rfl | ⟨y, rfl, -⟩
    · exact (List.append_nil g).symm
    · -- The search would have found the one in front.
      exact absurd ⟨g, body ++ commentClose ++ y, by simp [comment]⟩ hg'
  · rcases comment_apart hopen hx with rfl | ⟨y, -, rfl⟩
    · exact List.append_nil g'
    · -- All comments there are stand behind the one that is found.
      have hcount := length_tokens_le (c.cons y body)
      rw [Cut.render_cons, List.append_assoc, Cut.tokens_cons, List.length_cons] at hcount
      omega

/-- Comments whose bodies hold no `<` can be told by their bodies: if these are the bodies of the
comments that are found, the comments are found where they stand. -/
theorem commented_of_tokens {c : Cut Text} (hopen : ∀ body ∈ c.tokens, '<' ∉ body)
    (h : (comments (c.render comment)).tokens = c.tokens) : Commented c := by
  induction c using Cut.ind with
  | leaf t =>
      rcases uncommented_or_comment t with ht | ⟨g, body, rest, rfl, hg, hbody⟩
      · exact commented_leaf.2 ht
      · rw [Cut.render_leaf, comments_comment rest hg hbody, Cut.tokens_cons] at h
        exact absurd h (List.cons_ne_nil _ _)
  | cons g b c ih =>
      have hb : '<' ∉ b := hopen b List.mem_cons_self
      have hrest : ∀ body ∈ c.tokens, '<' ∉ body := fun body hbody =>
        hopen body (List.mem_cons_of_mem b hbody)
      rw [Cut.render_cons, List.append_assoc, Cut.tokens_cons] at h
      rcases uncommented_or_comment (g ++ (comment b ++ c.render comment)) with
        hun | ⟨g', body, rest, htext, hg', hbody⟩
      · rw [comments_of_uncommented hun, Cut.tokens_leaf] at h
        exact absurd h.symm (List.cons_ne_nil _ _)
      · rw [htext, comments_comment rest hg' hbody, Cut.tokens_cons, List.cons.injEq] at h
        obtain ⟨rfl, htokens⟩ := h
        rw [List.append_assoc] at htext
        obtain rfl := gap_eq hb hg' (Nat.le_of_eq (congrArg List.length htokens)) htext
        obtain rfl := List.append_cancel_left (List.append_cancel_left htext)
        exact commented_cons.2 ⟨hg', hbody, ih hrest htokens⟩

/-- The text between comments whose bodies hold no `<` may be anything that leaves exactly these
comments to be found. That is, no comment opens in front of the last one, and none is complete
behind it. -/
theorem commented_iff {c : Cut Text} (hopen : ∀ body ∈ c.tokens, '<' ∉ body) :
    Commented c ↔ (comments (c.render comment)).tokens = c.tokens := by
  refine ⟨fun h => ?_, commented_of_tokens hopen⟩
  rw [comments_render_of_commented h]

/-! ### Bodies for numbers -/

/-- The numbers that stand for so many bodies. -/
def maskTokens (count : Nat) : List Text := (List.range count).map maskToken

theorem numbered_eq_setTokens (index : Nat) (c : Cut Text) :
    numbered index c
      = c.setTokens ((List.range' index c.tokens.length).map maskToken) := by
  induction c using Cut.ind generalizing index with
  | leaf t => rfl
  | cons gap body c ih =>
      rw [numbered_cons, ih, Cut.tokens_cons, List.length_cons, List.range'_succ, List.map_cons,
        Cut.setTokens_cons]

/-- A masked text has the gaps of the text, with the numbers in the places of the bodies. -/
theorem comments_mask_eq_setTokens (t : Text) :
    comments (mask t).1 = (comments t).setTokens (maskTokens (comments t).tokens.length) := by
  rw [comments_mask, numbered_eq_setTokens, maskTokens, List.range_eq_range']

theorem tokens_comments_mask (t : Text) :
    (comments (mask t).1).tokens = maskTokens (comments t).tokens.length := by
  rw [comments_mask_eq_setTokens, Cut.tokens_setTokens]
  simp [maskTokens]

/-- The numbers stand for the bodies, in order. -/
theorem map_unmaskBody_maskTokens (t : Text) :
    (maskTokens (comments t).tokens.length).map (unmaskBody (mask t).2.toArray)
      = (comments t).tokens := by
  rw [← tokens_comments_mask, ← Cut.tokens_map, map_comments_mask]

theorem unmask_masked (t : Text) : unmask (mask t).2 (mask t).1 = t := by
  rw [unmask_eq_render, ← Cut.render_map, map_comments_mask, render_comments]

/-- Where a text has the numbers of another one for its comments, these get the bodies of that
other one back, and the text between them is as it was. -/
theorem unmask_render {t : Text} {d : Cut Text}
    (hd : d.tokens = maskTokens (comments t).tokens.length)
    (h : (comments (d.render comment)).tokens = d.tokens) :
    unmask (mask t).2 (d.render comment) = d.fill ((comments t).tokens.map comment) := by
  have hopen : ∀ body ∈ d.tokens, '<' ∉ body := by
    intro body hbody
    rw [hd] at hbody
    obtain ⟨n, -, rfl⟩ := List.mem_map.1 hbody
    exact no_open_in_maskToken n
  have hcut : comments (d.render comment) = d :=
    comments_render_of_commented ((commented_iff hopen).2 h)
  calc unmask (mask t).2 (d.render comment)
      = d.render fun body => comment (unmaskBody (mask t).2.toArray body) := by
        rw [unmask_eq_render, hcut]
    _ = d.fill ((d.tokens.map (unmaskBody (mask t).2.toArray)).map comment) := by
        rw [← Cut.fill_map_tokens, List.map_map]
        rfl
    _ = d.fill ((comments t).tokens.map comment) := by rw [hd, map_unmaskBody_maskTokens]

/-- Masking takes the bodies out of a text and leaves the text between the comments as it is, and
unmasking puts them back. It does so too if the text between the comments has been rewritten, as
long as the comments of the new text are the numbered ones, one after another. -/
theorem unmask_mask (t : Text) :
    let c := comments t
    let numbers := maskTokens c.tokens.length
    Commented c ∧ c.render comment = t ∧
    mask t = (c.fill (numbers.map comment), c.tokens) ∧
    unmask (mask t).2 (mask t).1 = t ∧
    ∀ d : Cut Text, d.tokens = numbers → (comments (d.render comment)).tokens = numbers →
      unmask (mask t).2 (d.render comment) = d.fill (c.tokens.map comment) := by
  intro c numbers
  have hmask : (mask t).1 = c.fill (numbers.map comment) := by
    rw [← Cut.render_setTokens, ← comments_mask_eq_setTokens, render_comments]
  refine ⟨commented_comments t, render_comments t, Prod.ext hmask rfl, unmask_masked t, ?_⟩
  intro d hd h
  exact unmask_render hd (h.trans hd.symm)

/-- Bodies that look like a token, are empty, or hold a delimiter, behind text that almost opens a
comment, and in front of one that is not closed. -/
theorem unmask_mask_delimiters :
    let t := "a<!-- 1 -->b<!----><!--<!-- --->c<!--".toList
    let d : Cut Text := ⟨[("<!-".toList, maskToken 0), ("-->".toList, maskToken 1),
      ("<!->".toList, maskToken 2)], "--><!--".toList⟩
    (comments t).tokens = [" 1 ", "", "<!-- -"].map String.toList ∧
      d.tokens = maskTokens (comments t).tokens.length ∧
      (comments (d.render comment)).tokens = maskTokens (comments t).tokens.length ∧
      d.render comment = "<!-<!-- 0 -->--><!-- 1 --><!-><!-- 2 -->--><!--".toList ∧
      unmask (mask t).2 (d.render comment)
        = "<!-<!-- 1 -->--><!----><!-><!--<!-- --->--><!--".toList := by
  intro t d
  have hbodies : (comments t).tokens = [" 1 ", "", "<!-- -"].map String.toList := by
    decide +kernel
  have hd : d.tokens = maskTokens (comments t).tokens.length := by
    rw [hbodies]
    decide +kernel
  have hnew : (comments (d.render comment)).tokens = maskTokens (comments t).tokens.length := by
    rw [hbodies]
    decide +kernel
  refine ⟨hbodies, hd, hnew, by decide +kernel, ?_⟩
  rw [(unmask_mask t).2.2.2.2 d hd hnew, hbodies]
  decide +kernel

end BareUrl.Markup
