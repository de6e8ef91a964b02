import BareUrl.Markup.Comment
import BareUrl.Proofs.Text.Cut
import BareUrl.Proofs.Text.Search

/-!
# `BareUrl.Proofs.Markup.Comment`: which texts are cut where

A cut is the comment cut of the text it writes exactly if no gap holds an opening delimiter, no
body holds a closing one, and the last gap holds no complete comment: `Commented`. The two
directions are `commented_comments` and `comments_render_of_commented`. So a text may be changed
between its comments as long as its cut stays `Commented`.

* `comments_append_of_no_start`: text in which no comment starts belongs to the gap behind it.
* `comments_append_of_closed`: a text that ends in `>` is cut on its own, if no comment body of
  the whole holds a `>`. This is what masking is for: the bodies of a masked text are numbers.
-/

set_option autoImplicit false

namespace BareUrl.Markup

theorem commentOpen_eq : commentOpen = ['<', '!', '-', '-'] := by decide

theorem commentClose_eq : commentClose = ['-', '-', '>'] := by decide

theorem unbordered_commentOpen : Text.Unbordered commentOpen := by decide

theorem unbordered_commentClose : Text.Unbordered commentClose := by decide

/-- The text holds no complete comment. -/
def Uncommented (t : Text) : Prop :=
  ∀ g k, t = g ++ commentOpen ++ k → ¬ commentClose <:+: k

/-- It is enough to look behind the first opening delimiter. -/
theorem uncommented_iff {t : Text} :
    Uncommented t ↔ ∀ g k, Text.cut commentOpen t = some (g, k) → ¬ commentClose <:+: k := by
  constructor
  · exact fun h g k hc => h g k (Text.cut_eq_some hc)
  · -- Behind any later delimiter there is only text that is behind the first one, too.
    intro h _ _ ht hk
    cases hc : Text.cut commentOpen t with
    | none => exact Text.cut_eq_none_iff.1 hc ⟨_, _, ht.symm⟩
    | some x => exact h _ _ hc (hk.trans (Text.suffix_of_cut hc ht).isInfix)

/-- An opening delimiter that is never closed leaves no complete comment behind a gap that holds
none. -/
theorem uncommented_of_open {g k : Text} (hg : ¬ commentOpen <:+: g)
    (hk : ¬ commentClose <:+: k) : Uncommented (g ++ commentOpen ++ k) := by
  rw [uncommented_iff]
  intro g' k' h
  rw [Text.cut_append_self k unbordered_commentOpen hg, Option.some.injEq, Prod.mk.injEq] at h
  exact h.2 ▸ hk

theorem uncommented_of_no_open {t : Text} (h : ¬ commentOpen <:+: t) : Uncommented t :=
  fun g k ht => absurd ⟨g, k, ht.symm⟩ h

theorem uncommented_of_no_close {t : Text} (h : ¬ commentClose <:+: t) : Uncommented t :=
  fun _ _ ht hk => h (hk.trans (ht ▸ List.infix_append_right))

/-- A part of a text without complete comments has none either. -/
theorem Uncommented.of_infix {s t : Text} (h : Uncommented t) (hs : s <:+: t) :
    Uncommented s := by
  obtain ⟨a, b, rfl⟩ := hs
  rintro g k rfl hk
  exact h (a ++ g) (k ++ b) (by simp) (hk.trans List.infix_append_left)

/-- What follows a comment is shorter than the text. -/
theorem length_lt_of_comment (g body rest : Text) :
    rest.length < (g ++ comment body ++ rest).length := by
  have hopen : 0 < commentOpen.length := by decide
  simp only [comment, List.length_append]
  omega

/-! ### The cut at the comments -/

theorem comments_of_uncommented {t : Text} (h : Uncommented t) : comments t = .leaf t := by
  have hn : nextComment t = none := by
    unfold nextComment
    split
    · rfl
    · rename_i hc
      split
      · rfl
      · rename_i hb
        have hk := Text.cut_eq_none_iff.2 (uncommented_iff.1 h _ _ hc)
        exact absurd (hb.symm.trans hk) (by simp)
  rw [comments, Scan.run, hn]

theorem comments_comment {g body : Text} (rest : Text) (hg : ¬ commentOpen <:+: g)
    (hb : ¬ commentClose <:+: body) :
    comments (g ++ comment body ++ rest) = (comments rest).cons g body := by
  have hopen : Text.cut commentOpen (g ++ comment body ++ rest)
      = some (g, body ++ commentClose ++ rest) := by
    have := Text.cut_append_self (body ++ commentClose ++ rest) unbordered_commentOpen hg
    simpa [comment] using this
  have hclose : Text.cut commentClose (body ++ commentClose ++ rest) = some (body, rest) :=
    Text.cut_append_self rest unbordered_commentClose hb
  have hn : ∃ hlt, nextComment (g ++ comment body ++ rest) = some ⟨g, body, rest, hlt⟩ := by
    unfold nextComment
    split
    · rename_i h
      rw [hopen] at h
      simp at h
    · rename_i g' k h
      rw [hopen] at h
      simp only [Option.some.injEq, Prod.mk.injEq] at h
      obtain ⟨rfl, rfl⟩ := h
      split
      · rename_i h
        rw [hclose] at h
        simp at h
      · rename_i body' rest' h
        rw [hclose] at h
        simp only [Option.some.injEq, Prod.mk.injEq] at h
        obtain ⟨rfl, rfl⟩ := h
        exact ⟨length_lt_of_comment _ _ _, rfl⟩
  obtain ⟨_, hn⟩ := hn
  rw [comments, Scan.run, hn]
  rfl

/-- A text holds no complete comment, or it starts with a gap and a first comment. -/
theorem uncommented_or_comment (t : Text) :
    Uncommented t ∨ ∃ g body rest, t = g ++ comment body ++ rest ∧ ¬ commentOpen <:+: g ∧
      ¬ commentClose <:+: body := by
  by_cases hopen : commentOpen <:+: t
  · obtain ⟨g, k, rfl, hg⟩ := Text.first_of_infix unbordered_commentOpen (by decide) hopen
    by_cases hclose : commentClose <:+: k
    · obtain ⟨body, rest, rfl, hb⟩ :=
        Text.first_of_infix unbordered_commentClose (by decide) hclose
      exact .inr ⟨g, body, rest, by simp [comment], hg, hb⟩
    · exact .inl (uncommented_of_open hg hclose)
  · exact .inl (uncommented_of_no_open hopen)

/-- A property of all texts: of those without complete comments, and kept by a gap and a comment
in front. -/
@[elab_as_elim]
theorem comments_induct {motive : Text → Prop} (plain : ∀ t, Uncommented t → motive t)
    (comment : ∀ g body rest, ¬ commentOpen <:+: g → ¬ commentClose <:+: body → motive rest →
      motive (g ++ comment body ++ rest)) (t : Text) : motive t := by
  rcases uncommented_or_comment t with ht | ⟨g, body, rest, rfl, hg, hb⟩
  · exact plain t ht
  · exact comment g body rest hg hb (comments_induct plain comment rest)
termination_by t.length
decreasing_by
  subst_vars
  exact length_lt_of_comment _ _ _

theorem render_comments (t : Text) : (comments t).render comment = t := by
  induction t using comments_induct with
  | plain t ht => rw [comments_of_uncommented ht, Cut.render_leaf]
  | comment g body rest hg hb ih =>
      rw [comments_comment rest hg hb, Cut.render_cons, ih]

/-- A cut that is the comment cut of the text it writes. -/
structure Commented (c : Cut Text) : Prop where
  gaps : ∀ p ∈ c.parts, ¬ commentOpen <:+: p.1
  bodies : ∀ p ∈ c.parts, ¬ commentClose <:+: p.2
  last : Uncommented c.last

theorem commented_leaf {t : Text} : Commented (.leaf t) ↔ Uncommented t :=
  ⟨fun h => h.last, fun h => ⟨by simp [Cut.leaf], by simp [Cut.leaf], h⟩⟩

theorem commented_cons {g body : Text} {c : Cut Text} :
    Commented (c.cons g body) ↔ ¬ commentOpen <:+: g ∧ ¬ commentClose <:+: body ∧ Commented c := by
  constructor
  · rintro ⟨hg, hb, hl⟩
    simp only [Cut.cons, List.forall_mem_cons] at hg hb
    exact ⟨hg.1, hb.1, hg.2, hb.2, hl⟩
  · rintro ⟨hg, hb, h⟩
    refine ⟨?_, ?_, h.last⟩
    · simp only [Cut.cons, List.forall_mem_cons]
      exact ⟨hg, h.gaps⟩
    · simp only [Cut.cons, List.forall_mem_cons]
      exact ⟨hb, h.bodies⟩

theorem commented_comments (t : Text) : Commented (comments t) := by
  induction t using comments_induct with
  | plain t ht => rwa [comments_of_uncommented ht, commented_leaf]
  | comment g body rest hg hb ih =>
      rw [comments_comment rest hg hb, commented_cons]
      exact ⟨hg, hb, ih⟩

/-- Both parts of such a cut are such cuts. -/
theorem Commented.of_append {c d : Cut Text} (h : Commented (c.append d)) :
    Commented c ∧ Commented d := by
  induction c using Cut.ind with
  | leaf t =>
      rw [Cut.leaf_append] at h
      cases d using Cut.ind with
      | leaf last =>
          rw [Cut.prepend_leaf, commented_leaf] at h
          rw [commented_leaf, commented_leaf]
          exact ⟨h.of_infix List.infix_append_left, h.of_infix List.infix_append_right⟩
      | cons g body d _ =>
          rw [Cut.prepend_cons, commented_cons] at h
          obtain ⟨hg, hb, hd⟩ := h
          rw [commented_leaf, commented_cons]
          refine ⟨uncommented_of_no_open fun ht => hg ?_, fun hg' => hg ?_, hb, hd⟩
          · exact ht.trans List.infix_append_left
          · exact hg'.trans List.infix_append_right
  | cons g body c ih =>
      rw [Cut.cons_append, commented_cons] at h
      obtain ⟨hg, hb, h⟩ := h
      exact ⟨commented_cons.2 ⟨hg, hb, (ih h).1⟩, (ih h).2⟩

/-- Bodies that do not close their comments may stand in the places of others. -/
theorem Commented.setTokens {c : Cut Text} {bodies : List Text} (h : Commented c)
    (hbodies : ∀ body ∈ bodies, ¬ commentClose <:+: body) : Commented (c.setTokens bodies) := by
  induction c using Cut.ind generalizing bodies with
  | leaf t => exact h
  | cons g body c ih =>
      obtain ⟨hg, -, hc⟩ := commented_cons.1 h
      cases bodies with
      | nil => exact commented_leaf.2 hc.last
      | cons b bodies =>
          rw [Cut.setTokens_cons, commented_cons]
          exact ⟨hg, hbodies b List.mem_cons_self,
            ih hc fun b' hb' => hbodies b' (List.mem_cons_of_mem b hb')⟩

theorem comments_render_of_commented {c : Cut Text} (h : Commented c) :
    comments (c.render comment) = c := by
  induction c using Cut.ind with
  | leaf t => exact comments_of_uncommented (commented_leaf.1 h)
  | cons g body c ih =>
      obtain ⟨hg, hb, hc⟩ := commented_cons.1 h
      rw [Cut.render_cons, comments_comment _ hg hb, ih hc]

/-! ### Comments of texts one behind the other -/

/-- Text in which no comment starts belongs to the gap of what follows. -/
theorem comments_append_of_no_start {a : Text}
    (ha : ∀ b, commentOpen <:+: a ++ b → commentOpen <:+: b) (b : Text) :
    comments (a ++ b) = (comments b).prepend a := by
  rcases uncommented_or_comment b with hb | ⟨g, body, rest, rfl, hg, hb⟩
  · rw [comments_of_uncommented hb, Cut.prepend_leaf]
    refine comments_of_uncommented (uncommented_iff.2 fun _ _ h => ?_)
    rw [Text.cut_append_of_no_start unbordered_commentOpen (by decide) ha] at h
    obtain ⟨⟨g', k'⟩, hc, he⟩ := Option.map_eq_some_iff.1 h
    simp only [Prod.mk.injEq] at he
    exact he.2 ▸ uncommented_iff.1 hb g' k' hc
  · have := comments_comment rest (g := a ++ g) (fun h => hg (ha g h)) hb
    rw [comments_comment rest hg hb, Cut.prepend_cons, ← this]
    simp

/-- No comment starts in a text without the first character of the opening delimiter. -/
theorem comments_append_of_not_mem {a : Text} (ha : '<' ∉ a) (b : Text) :
    comments (a ++ b) = (comments b).prepend a :=
  comments_append_of_no_start (fun _ h => Text.infix_of_not_mem_head ha h) b

/-- If no comment starts in what is behind the last comment of a text, the text is cut on its own,
and what follows it on its own. -/
theorem comments_append_of_last {a : Text}
    (ha : ∀ b, commentOpen <:+: (comments a).last ++ b → commentOpen <:+: b) (b : Text) :
    comments (a ++ b) = (comments a).append (comments b) := by
  induction a using comments_induct with
  | plain a hun =>
      rw [comments_of_uncommented hun] at ha ⊢
      rw [Cut.leaf_append]
      exact comments_append_of_no_start ha b
  | comment g body rest hg hb ih =>
      rw [comments_comment rest hg hb] at ha ⊢
      rw [List.append_assoc, comments_comment _ hg hb, Cut.cons_append, ih ha]

/-- The text is empty or ends with the last character of the closing delimiter. -/
def EndsClosed (t : Text) : Prop := t = [] ∨ ∃ s, t = s ++ ['>']

theorem EndsClosed.of_append {s t : Text} (h : EndsClosed (s ++ t)) : EndsClosed t := by
  rcases List.eq_nil_or_concat t with rfl | ⟨t, d, rfl⟩
  · exact .inl rfl
  · rcases h with h | ⟨x, hx⟩
    · simp at h
    · rw [List.concat_eq_append, ← List.append_assoc] at hx
      have hd : d = '>' := (List.cons.inj (List.append_inj' hx rfl).2).1
      exact .inr ⟨t, by rw [List.concat_eq_append, hd]⟩

theorem EndsClosed.append {s t : Text} (hs : EndsClosed s) (ht : EndsClosed t) :
    EndsClosed (s ++ t) := by
  rcases ht with rfl | ⟨x, rfl⟩
  · rwa [List.append_nil]
  · exact .inr ⟨s ++ x, (List.append_assoc _ _ _).symm⟩

/-- Where a text that ends in `>` reaches beyond the opening delimiter of a comment whose body holds
no `>`, it holds all of that comment. -/
theorem close_infix_of_endsClosed {k b body rest : Text} (hk : EndsClosed k) (hne : k ≠ [])
    (hbody : '>' ∉ body) (h : k ++ b = body ++ commentClose ++ rest) : commentClose <:+: k := by
  obtain ⟨s, rfl⟩ := hk.resolve_left hne
  rcases List.append_eq_append_iff.1 h with ⟨x, hx, -⟩ | ⟨x, hx, -⟩
  · rcases List.eq_nil_or_concat x with rfl | ⟨y, d, rfl⟩
    · rw [List.append_nil] at hx
      exact hx ▸ List.infix_append_right
    · -- Then the `>` at the end of the text would lie in front of the one that closes the comment.
      have hlast := congrArg List.dropLast hx
      rw [List.dropLast_append_of_ne_nil (by decide), List.concat_eq_append, ← List.append_assoc,
        List.dropLast_concat] at hlast
      have hmem : '>' ∈ body ++ commentClose.dropLast := hlast ▸ by simp
      rcases List.mem_append.1 hmem with hm | hm
      · exact absurd hm hbody
      · exact absurd hm (by decide)
  · rw [hx, List.append_assoc]
    exact List.infix_append_of_infix_right List.infix_append_left

/-- A text that ends in `>` is cut on its own, and what follows it on its own, if no comment body
of the two together holds a `>`: a comment from one into the other would hold that `>`. -/
theorem comments_append_of_closed {a b : Text} (ha : EndsClosed a)
    (hb : ∀ body ∈ (comments (a ++ b)).tokens, '>' ∉ body) :
    comments (a ++ b) = (comments a).append (comments b) := by
  induction a using comments_induct with
  | plain a hun =>
      rw [comments_of_uncommented hun, Cut.leaf_append]
      by_cases hopen : commentOpen <:+: a
      · obtain ⟨g, k, rfl, hg⟩ := Text.first_of_infix unbordered_commentOpen (by decide) hopen
        have hk : ¬ commentClose <:+: k := hun g k rfl
        have hne : k ≠ [] := by
          rintro rfl
          have hopen' := EndsClosed.of_append (List.append_nil _ ▸ ha)
          rcases hopen' with h | ⟨s, h⟩
          · exact absurd h (by decide)
          · have hlast : commentOpen.getLast? = some '>' := by rw [h, List.getLast?_concat]
            exact absurd hlast (by decide)
        -- The delimiter is closed nowhere: the comment would hold the `>` at the end of `k`.
        have hkb : ¬ commentClose <:+: k ++ b := by
          intro hclose
          obtain ⟨body, rest, hc, hbody⟩ :=
            Text.first_of_infix unbordered_commentClose (by decide) hclose
          have hab : g ++ commentOpen ++ k ++ b = g ++ comment body ++ rest := by
            simp only [comment, List.append_assoc] at hc ⊢
            rw [hc]
          rw [hab, comments_comment rest hg hbody, Cut.tokens_cons] at hb
          exact hk (close_infix_of_endsClosed ha.of_append hne (hb body List.mem_cons_self) hc)
        rw [List.append_assoc, comments_of_uncommented (uncommented_of_open hg hkb),
          comments_of_uncommented
            (uncommented_of_no_close fun h => hkb (List.infix_append_of_infix_right h))]
        simp
      · refine comments_append_of_no_start (fun z hz => ?_) b
        rcases ha with rfl | ⟨s, rfl⟩
        · exact hz
        · exact ((Text.infix_append_concat (by decide)).1 hz).resolve_left hopen
  | comment g body rest hg hbody ih =>
      have hrest : EndsClosed rest := ha.of_append
      rw [List.append_assoc, comments_comment _ hg hbody, Cut.tokens_cons] at hb
      rw [List.append_assoc, comments_comment _ hg hbody, comments_comment _ hg hbody,
        Cut.cons_append, ih hrest fun body' h => hb body' (List.mem_cons_of_mem _ h)]

end BareUrl.Markup
