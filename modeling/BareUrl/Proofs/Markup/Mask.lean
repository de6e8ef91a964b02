import BareUrl.Proofs.Markup.Comment
import BareUrl.Proofs.Text.Decimal

/-!
# `BareUrl.Proofs.Markup.Mask`: masked texts and what comes back

The comment cut of a masked text is that of the text itself with numbers for bodies
(`comments_mask`), so its bodies hold no `>` (`not_mem_of_mem_tokens_mask`). Each number stands for
its own body (`unmaskBody_maskToken`), and unmasking writes the comment cut with the bodies that
are stood for (`unmask_eq_render`).
-/

set_option autoImplicit false

namespace BareUrl.Markup

/-- The parts of a cut with the numbers from `index` on for tokens. -/
def numberFrom (index : Nat) : List (Text × Text) → List (Text × Text)
  | [] => []
  | (gap, _) :: rest => (gap, maskToken index) :: numberFrom (index + 1) rest

theorem maskParts_eq (index : Nat) (parts : List (Text × Text)) (last : Text) :
    maskParts index parts ++ last
      = (⟨numberFrom index parts, last⟩ : Cut Text).render comment := by
  induction parts generalizing index with
  | nil => rfl
  | cons part parts ih =>
      have := ih (index + 1)
      simp only [Cut.render] at this
      simp [maskParts, numberFrom, Cut.render, this]

theorem mem_numberFrom {index : Nat} {parts : List (Text × Text)} {p : Text × Text}
    (h : p ∈ numberFrom index parts) : (∃ q ∈ parts, q.1 = p.1) ∧ ∃ n, p.2 = maskToken n := by
  induction parts generalizing index with
  | nil => simp [numberFrom] at h
  | cons part parts ih =>
      rw [numberFrom, List.mem_cons] at h
      rcases h with rfl | h
      · exact ⟨⟨part, List.mem_cons_self, rfl⟩, index, rfl⟩
      · obtain ⟨⟨q, hq, he⟩, hn⟩ := ih h
        exact ⟨⟨q, List.mem_cons_of_mem _ hq, he⟩, hn⟩

/-- A number is written with digits and blanks. -/
theorem class_of_mem_maskToken {n : Nat} {c : Char} (h : c ∈ maskToken n) :
    c = ' ' ∨ c.isDigit = true := by
  rw [maskToken, List.cons_append, List.mem_cons, List.mem_append, List.mem_singleton] at h
  rcases h with h | h | h
  · exact .inl h
  · exact .inr (Text.Decimal.isDigit_of_mem_ofNat h)
  · exact .inl h

theorem not_mem_maskToken (n : Nat) : '>' ∉ maskToken n :=
  fun h => absurd (class_of_mem_maskToken h) (by decide)

theorem no_open_in_maskToken (n : Nat) : '<' ∉ maskToken n :=
  fun h => absurd (class_of_mem_maskToken h) (by decide)

theorem no_close_of_not_mem {t : Text} (h : '>' ∉ t) : ¬ commentClose <:+: t :=
  fun hc => h (hc.subset (by decide))

/-- The cut with the numbers from `index` on for tokens. -/
def numbered (index : Nat) (c : Cut Text) : Cut Text := ⟨numberFrom index c.parts, c.last⟩

@[simp] theorem numbered_leaf (index : Nat) (t : Text) : numbered index (.leaf t) = .leaf t := rfl

@[simp] theorem numbered_cons (index : Nat) (gap body : Text) (c : Cut Text) :
    numbered index (c.cons gap body) = (numbered (index + 1) c).cons gap (maskToken index) := rfl

/-- Numbers that stand for one and the same body say nothing. -/
theorem map_const_numbered (index : Nat) (body : Text) (c : Cut Text) :
    (numbered index c).map (fun _ => body) = c.map fun _ => body := by
  induction c using Cut.ind generalizing index with
  | leaf t => rfl
  | cons gap b c ih => rw [numbered_cons, Cut.map_cons, Cut.map_cons, ih]

theorem numbered_prepend (index : Nat) (t : Text) (c : Cut Text) :
    numbered index (c.prepend t) = (numbered index c).prepend t := by
  cases c using Cut.ind with
  | leaf last => rfl
  | cons gap body c _ => rfl

/-- Behind a cut the numbers go on where its own end. -/
theorem numbered_append (index : Nat) (c d : Cut Text) :
    numbered index (c.append d)
      = (numbered index c).append (numbered (index + c.tokens.length) d) := by
  induction c using Cut.ind generalizing index with
  | leaf t => rw [Cut.leaf_append, numbered_prepend, numbered_leaf, Cut.leaf_append]; rfl
  | cons gap body c ih =>
      rw [Cut.cons_append, numbered_cons, ih, numbered_cons, Cut.cons_append, Cut.tokens_cons,
        List.length_cons, Nat.add_assoc, Nat.add_comm 1]

theorem mask_eq_render (t : Text) : (mask t).1 = (numbered 0 (comments t)).render comment :=
  maskParts_eq 0 _ _

/-- Whatever number the first one is, the comment cut of a text with numbers for bodies has the
gaps of the text. -/
theorem comments_numbered (index : Nat) (t : Text) :
    comments ((numbered index (comments t)).render comment) = numbered index (comments t) := by
  have hc := commented_comments t
  refine comments_render_of_commented ⟨fun p hp => ?_, fun p hp => ?_, hc.last⟩
  · obtain ⟨⟨q, hq, he⟩, -⟩ := mem_numberFrom hp
    exact he ▸ hc.gaps q hq
  · obtain ⟨-, n, hn⟩ := mem_numberFrom hp
    exact hn ▸ no_close_of_not_mem (not_mem_maskToken n)

/-- The comment cut of a masked text has the same gaps, and numbers for bodies. -/
theorem comments_mask (t : Text) : comments (mask t).1 = numbered 0 (comments t) := by
  rw [mask_eq_render, comments_numbered]

/-- Every body of a numbered cut is a number. -/
theorem exists_of_mem_tokens_numbered {index : Nat} {c : Cut Text} {body : Text}
    (h : body ∈ (numbered index c).tokens) : ∃ n, body = maskToken n := by
  obtain ⟨p, hp, rfl⟩ := List.mem_map.1 h
  exact (mem_numberFrom hp).2

theorem commented_numbered (index : Nat) (t : Text) :
    Commented (numbered index (comments t)) := by
  rw [← comments_numbered]
  exact commented_comments _

/-- No body of a masked text holds a `>`. -/
theorem not_mem_of_mem_tokens_mask {t body : Text} (h : body ∈ (comments (mask t).1).tokens) :
    '>' ∉ body := by
  rw [comments_mask] at h
  obtain ⟨n, rfl⟩ := exists_of_mem_tokens_numbered h
  exact not_mem_maskToken n

/-! ### Masking again -/

/-- The numbers are given in order, whatever is numbered. -/
theorem numberFrom_congr {index : Nat} {p q : List (Text × Text)}
    (h : p.map Prod.fst = q.map Prod.fst) : numberFrom index p = numberFrom index q := by
  induction p generalizing index q with
  | nil =>
      cases q with
      | nil => rfl
      | cons _ q => simp at h
  | cons part p ih =>
      cases q with
      | nil => simp at h
      | cons _ q =>
          rw [List.map_cons, List.map_cons, List.cons.injEq] at h
          rw [numberFrom, numberFrom, h.1, ih h.2]

/-- Parts that have numbers for bodies already, in order, stay as they are. -/
theorem numberFrom_of_numbers {index : Nat} {p q : List (Text × Text)}
    (h : p.map Prod.snd = (numberFrom index q).map Prod.snd) : numberFrom index p = p := by
  induction p generalizing index q with
  | nil => rfl
  | cons part p ih =>
      cases q with
      | nil => simp [numberFrom] at h
      | cons _ q =>
          rw [numberFrom, List.map_cons, List.map_cons, List.cons.injEq] at h
          have hbody : part.2 = maskToken index := h.1
          rw [numberFrom, ih h.2, ← hbody]

/-- Other bodies in a cut with the numbers of a masked text are masked by the same numbers. -/
theorem mask_render {t : Text} {c : Cut Text} (h : Text → Text)
    (htokens : c.tokens = (comments (mask t).1).tokens) (hc : Commented (c.map h)) :
    (mask ((c.map h).render comment)).1 = c.render comment := by
  have hgaps : (c.map h).parts.map Prod.fst = c.parts.map Prod.fst := by simp [Cut.map]
  have hparts : numberFrom 0 (c.map h).parts = c.parts := by
    refine (numberFrom_congr hgaps).trans (numberFrom_of_numbers (q := (comments t).parts) ?_)
    rw [comments_mask] at htokens
    exact htokens
  rw [mask_eq_render, comments_render_of_commented hc, numbered, hparts]
  rfl

/-! ### Other bodies -/

/-- The text with other bodies in its comments, one after another. -/
def rebody (bodies : List Text) (t : Text) : Text :=
  ((comments t).setTokens bodies).render comment

/-- As long as no body closes its comment, the text is cut at the comments where it was. -/
theorem comments_rebody {bodies : List Text} {t : Text}
    (hbodies : ∀ body ∈ bodies, ¬ commentClose <:+: body) :
    comments (rebody bodies t) = (comments t).setTokens bodies :=
  comments_render_of_commented ((commented_comments t).setTokens hbodies)

/-- Masking leaves nothing of the bodies. -/
theorem mask_rebody {bodies : List Text} {t : Text}
    (hlength : bodies.length = (comments t).tokens.length)
    (hbodies : ∀ body ∈ bodies, ¬ commentClose <:+: body) :
    (mask (rebody bodies t)).1 = (mask t).1 := by
  have hgaps : ((comments t).setTokens bodies).parts.map Prod.fst
      = (comments t).parts.map Prod.fst := Cut.gaps_setTokens hlength
  rw [mask_eq_render, mask_eq_render, comments_rebody hbodies, numbered, numberFrom_congr hgaps]
  rfl

/-! ### Unmasking -/

/-- A number stands for the body with that number. -/
theorem unmaskBody_maskToken {bodies : Array Text} {n : Nat} {body : Text}
    (h : bodies[n]? = some body) : unmaskBody bodies (maskToken n) = body := by
  have htrim : Text.trim (maskToken n) = Text.Decimal.ofNat n :=
    Text.trim_blank_digits (Text.Decimal.ofNat_ne_nil n) fun _ hc =>
      Text.not_isBlank_of_isDigit (Text.Decimal.isDigit_of_mem_ofNat hc)
  rw [unmaskBody, htrim, Text.Decimal.read_ofNat]
  simp [h]

/-- The numbers of a cut stand for its bodies, wherever these lie among others. -/
theorem map_numbered (before after : List Text) (k : Cut Text) :
    (numbered before.length k).map (unmaskBody (before ++ (k.tokens ++ after)).toArray) = k := by
  induction k using Cut.ind generalizing before with
  | leaf t => rfl
  | cons gap body k ih =>
      have hhead : (before ++ (body :: k.tokens ++ after)).toArray[before.length]? = some body := by
        simp
      have hrest := ih (before ++ [body])
      rw [List.append_assoc, List.length_append] at hrest
      rw [Cut.tokens_cons, numbered_cons, Cut.map_cons, unmaskBody_maskToken hhead]
      exact congrArg (Cut.cons gap body) hrest

/-- The bodies that the numbers of a masked text stand for make its comment cut that of the
text. -/
theorem map_comments_mask (t : Text) :
    (comments (mask t).1).map (unmaskBody (mask t).2.toArray) = comments t := by
  have hall := map_numbered [] [] (comments t)
  rw [List.append_nil] at hall
  rw [comments_mask]
  exact hall

/-- Unmasking writes the comment cut of a text with the bodies that are stood for. -/
theorem unmask_eq_render (bodies : List Text) (t : Text) :
    unmask bodies t = (comments t).render fun body => comment (unmaskBody bodies.toArray body) := by
  unfold unmask
  split
  · -- Without masked bodies there is nothing that a number could stand for.
    rename_i h
    subst h
    have hid : ∀ body, unmaskBody #[] body = body := by
      intro body
      unfold unmaskBody
      split <;> simp
    simp only [hid, render_comments]
  · rfl

end BareUrl.Markup
