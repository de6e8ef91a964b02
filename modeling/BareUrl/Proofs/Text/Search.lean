import BareUrl.Text.Basic

/-!
# `BareUrl.Proofs.Text.Search`: where a literal occurs

`Text.cut p` is a search from left to right. What it finds is stated here by occurrence: `p`
occurs in a text if it is an infix of it, `p <:+: t`.

* `cut_eq_none_iff`: nothing is found exactly where `p` does not occur.
* `cut_eq_some_iff`: what is found is the first occurrence. For a literal that does not overlap
  itself (`Unbordered`), that is the one with no occurrence in the text before it.
* `infix_append_cons` and `infix_append_concat`: where two texts meet at a character that a
  literal has only at its start, or only at its end, no occurrence reaches across.
* `splitOn_joinWith`: pieces that are joined are found again.
-/

set_option autoImplicit false

namespace BareUrl.Text

/-- No proper part at the end of the literal is also a part at its start, so two occurrences
never overlap. -/
def Unbordered (p : Text) : Prop := ∀ n < p.length, 0 < n → ¬ p.drop n <+: p

instance (p : Text) : Decidable (Unbordered p) :=
  inferInstanceAs (Decidable (∀ n < p.length, 0 < n → ¬ p.drop n <+: p))

theorem stripLead_eq_none_iff {p t : Text} : stripLead p t = none ↔ ¬ p <+: t := by
  rw [Option.eq_none_iff_forall_ne_some]
  constructor
  · rintro h ⟨rest, rfl⟩
    exact h rest (stripLead_eq_some_iff.2 rfl)
  · intro h rest hr
    exact h ⟨rest, (stripLead_eq_some_iff.1 hr).symm⟩

/-- The search finds nothing exactly where the literal does not occur. -/
theorem cut_eq_none_iff {p t : Text} : cut p t = none ↔ ¬ p <:+: t := by
  induction t with
  | nil =>
      rw [cut, Option.map_eq_none_iff, stripLead_eq_none_iff]
      simp
  | cons c t ih =>
      rw [List.infix_cons_iff, not_or, ← stripLead_eq_none_iff, ← ih, cut]
      cases hs : stripLead p (c :: t) with
      | none => simp
      | some rest => simp

/-- The text before the first occurrence holds no occurrence. -/
theorem cut_before {p t b r : Text} (h : cut p t = some (b, r)) (hb : b ≠ []) :
    ¬ p <:+: b := by
  induction t generalizing b with
  | nil =>
      rw [cut] at h
      obtain ⟨_, _, he⟩ := Option.map_eq_some_iff.1 h
      simp only [Prod.mk.injEq] at he
      exact absurd he.1.symm hb
  | cons c t ih =>
      unfold cut at h
      split at h
      · simp only [Option.some.injEq, Prod.mk.injEq] at h
        exact absurd h.1.symm hb
      · rename_i hs
        obtain ⟨⟨b', r'⟩, hc, he⟩ := Option.map_eq_some_iff.1 h
        simp only [Prod.mk.injEq] at he
        obtain ⟨rfl, rfl⟩ := he
        have hp : ¬ p <+: c :: t := stripLead_eq_none_iff.1 hs
        have ht := cut_eq_some hc
        rw [List.infix_cons_iff, not_or]
        constructor
        · intro hpre
          apply hp
          rw [ht, ← List.cons_append, ← List.cons_append, List.append_assoc]
          exact List.prefix_append_of_prefix hpre
        · cases b' with
          | nil =>
              intro hnil
              rw [List.infix_nil] at hnil
              exact hp (hnil ▸ List.nil_prefix)
          | cons d b' => exact ih hc (List.cons_ne_nil d b')

/-- Behind a text without the literal, a literal that does not overlap itself is found where it
stands. -/
theorem cut_append_self {p b : Text} (r : Text) (hp : Unbordered p) (hb : ¬ p <:+: b) :
    cut p (b ++ p ++ r) = some (b, r) := by
  induction b with
  | nil =>
      have hs : stripLead p (p ++ r) = some r := stripLead_eq_some_iff.2 rfl
      rw [List.nil_append]
      cases hpr : p ++ r with
      | nil => simp_all
      | cons c t => rw [cut, ← hpr, hs]
  | cons c b ih =>
      have hc : stripLead p (c :: (b ++ p ++ r)) = none := by
        rw [stripLead_eq_none_iff]
        rintro ⟨x, hx⟩
        rw [List.append_assoc, ← List.cons_append] at hx
        rcases List.append_eq_append_iff.1 hx with ⟨a, ha, -⟩ | ⟨s, hs, hs'⟩
        · -- The literal would end inside the text before it.
          exact hb (ha ▸ List.infix_append_left)
        · -- The literal would reach into its own occurrence, where it cannot overlap itself.
          have hdrop : p.drop (b.length + 1) = s := by
            rw [hs]
            simp
          have hlen : p.length = b.length + 1 + s.length := by
            rw [hs, List.length_append, List.length_cons]
          have hpre : s <+: p :=
            List.prefix_of_prefix_length_le (List.prefix_append s x) (hs' ▸ List.prefix_append p r)
              (by omega)
          by_cases h : b.length + 1 < p.length
          · exact hp _ h (Nat.succ_pos _) (hdrop ▸ hpre)
          · have hnil : s = [] := List.length_eq_zero_iff.1 (by omega)
            exact hb (by simp [hs, hnil])
      have hb' : ¬ p <:+: b := fun h => hb (List.infix_cons h)
      show cut p (c :: (b ++ p ++ r)) = _
      rw [cut, hc, ih hb']
      rfl

/-- What is found is the first occurrence: there is none in the text before it. -/
theorem cut_eq_some_iff {p t b r : Text} (hp : Unbordered p) (hne : p ≠ []) :
    cut p t = some (b, r) ↔ t = b ++ p ++ r ∧ ¬ p <:+: b := by
  constructor
  · intro h
    refine ⟨cut_eq_some h, ?_⟩
    by_cases hb : b = []
    · rw [hb, List.infix_nil]
      exact hne
    · exact cut_before h hb
  · rintro ⟨rfl, hb⟩
    exact cut_append_self r hp hb

/-- A literal that occurs has a first occurrence. -/
theorem first_of_infix {p t : Text} (hp : Unbordered p) (hne : p ≠ []) (h : p <:+: t) :
    ∃ b r, t = b ++ p ++ r ∧ ¬ p <:+: b := by
  cases hc : cut p t with
  | none => exact absurd h (cut_eq_none_iff.1 hc)
  | some x => exact ⟨x.1, x.2, (cut_eq_some_iff hp hne).1 hc⟩

/-- Behind any occurrence there is only text that also lies behind the first one. -/
theorem suffix_of_cut {p t b r b' r' : Text} (h : cut p t = some (b, r))
    (ht : t = b' ++ p ++ r') : r' <:+ r := by
  induction t generalizing b b' with
  | nil =>
      have : r' = [] := by
        have := congrArg List.length ht
        simp only [List.length_nil, List.length_append] at this
        exact List.length_eq_zero_iff.1 (by omega)
      exact this ▸ List.nil_suffix
  | cons c t ih =>
      unfold cut at h
      split at h
      · rename_i rest hs
        simp only [Option.some.injEq, Prod.mk.injEq] at h
        obtain ⟨-, rfl⟩ := h
        have hr := stripLead_eq_some_iff.1 hs
        have hlen := congrArg List.length (ht.symm.trans hr)
        simp only [List.length_append] at hlen
        exact List.suffix_of_suffix_length_le (ht ▸ List.suffix_append _ r')
          (hr ▸ List.suffix_append p rest) (by omega)
      · rename_i hs
        obtain ⟨⟨b₁, r₁⟩, hc, he⟩ := Option.map_eq_some_iff.1 h
        simp only [Prod.mk.injEq] at he
        obtain ⟨rfl, rfl⟩ := he
        cases b' with
        | nil => exact absurd ⟨r', by rw [ht, List.nil_append]⟩ (stripLead_eq_none_iff.1 hs)
        | cons d b' =>
            simp only [List.cons_append, List.cons.injEq] at ht
            exact ih hc (by simpa using ht.2)

/-- Where no occurrence starts in `a`, the search goes on behind it. -/
theorem cut_append_of_no_start {p a : Text} (hp : Unbordered p) (hne : p ≠ [])
    (ha : ∀ b, p <:+: a ++ b → p <:+: b) (b : Text) :
    cut p (a ++ b) = (cut p b).map fun (before, rest) => (a ++ before, rest) := by
  cases h : cut p b with
  | none =>
      rw [cut_eq_none_iff] at h
      rw [cut_eq_none_iff.2 fun hab => h (ha b hab)]
      rfl
  | some x =>
      obtain ⟨g, k⟩ := x
      obtain ⟨rfl, hg⟩ := (cut_eq_some_iff hp hne).1 h
      rw [← List.append_assoc, ← List.append_assoc, cut_append_self k hp fun h => hg (ha g h)]
      rfl

/-- A single character does not overlap itself. -/
theorem unbordered_singleton (c : Char) : Unbordered [c] := by
  intro n hn hpos
  simp only [List.length_singleton] at hn
  omega

theorem singleton_infix_iff {c : Char} {t : Text} : [c] <:+: t ↔ c ∈ t := by
  constructor
  · exact fun h => h.subset (List.mem_singleton_self c)
  · intro h
    obtain ⟨a, b, rfl⟩ := List.append_of_mem h
    exact ⟨a, b, by simp⟩

/-- The first place of a character. -/
theorem cut_singleton_eq_some_iff {c : Char} {t b r : Text} :
    cut [c] t = some (b, r) ↔ t = b ++ c :: r ∧ c ∉ b := by
  rw [cut_eq_some_iff (unbordered_singleton c) (by simp), singleton_infix_iff]
  simp

theorem cut_singleton_eq_none_iff {c : Char} {t : Text} : cut [c] t = none ↔ c ∉ t := by
  rw [cut_eq_none_iff, singleton_infix_iff]

/-! ### Occurrences where two texts meet -/

/-- No occurrence starts in a text without the character the literal starts with. -/
theorem infix_of_not_mem_head {c : Char} {p a b : Text} (ha : c ∉ a) (h : c :: p <:+: a ++ b) :
    c :: p <:+: b := by
  induction a with
  | nil => exact h
  | cons d a ih =>
      rw [List.cons_append, List.infix_cons_iff, List.cons_prefix_cons] at h
      rcases h with ⟨rfl, -⟩ | h
      · simp at ha
      · exact ih (fun hc => ha (List.mem_cons_of_mem d hc)) h

/-- No occurrence reaches across to a character that the literal has at most at its start. -/
theorem infix_append_cons {p a b : Text} {c : Char} (hc : c ∉ p.tail) :
    p <:+: a ++ c :: b ↔ p <:+: a ∨ p <:+: c :: b := by
  rw [List.infix_append_iff_ne_nil]
  refine or_congr_right (or_iff_left ?_)
  rintro ⟨p₁, p₂, h₁, h₂, rfl, -, hp₂⟩
  obtain ⟨d, p₁, rfl⟩ := List.exists_cons_of_ne_nil h₁
  obtain ⟨e, p₂, rfl⟩ := List.exists_cons_of_ne_nil h₂
  obtain ⟨rfl, -⟩ := List.cons_prefix_cons.1 hp₂
  simp at hc

/-- No occurrence reaches across from a character that the literal has at most at its end. -/
theorem infix_append_concat {p a b : Text} {c : Char} (hc : c ∉ p.dropLast) :
    p <:+: (a ++ [c]) ++ b ↔ p <:+: a ++ [c] ∨ p <:+: b := by
  rw [List.infix_append_iff_ne_nil]
  refine or_congr_right (or_iff_left ?_)
  rintro ⟨p₁, p₂, h₁, h₂, rfl, hp₁, -⟩
  obtain ⟨q, hq⟩ := hp₁
  obtain ⟨p₁, d, rfl⟩ := (List.eq_nil_or_concat p₁).resolve_left h₁
  rw [List.concat_eq_append, ← List.append_assoc] at hq
  have hd : d = c := List.cons.inj (List.append_inj' hq rfl).2 |>.1
  rw [List.dropLast_append_of_ne_nil h₂] at hc
  simp [hd] at hc

/-! ### Pieces -/

theorem splitOn_of_not_mem {sep : Char} {t : Text} (h : sep ∉ t) : splitOn sep t = [t] := by
  induction t with
  | nil => rfl
  | cons c t ih =>
      have hne : c ≠ sep := fun hc => h (hc ▸ List.mem_cons_self)
      rw [splitOn, if_neg hne, ih fun ht => h (List.mem_cons_of_mem c ht)]

/-- A text without the separating character is the first piece. -/
theorem splitOn_append {sep : Char} {a : Text} (h : sep ∉ a) (b : Text) :
    splitOn sep (a ++ sep :: b) = a :: splitOn sep b := by
  induction a with
  | nil => rw [List.nil_append, splitOn, if_pos rfl]
  | cons c a ih =>
      have hne : c ≠ sep := fun hc => h (hc ▸ List.mem_cons_self)
      rw [List.cons_append, splitOn, if_neg hne, ih fun ha => h (List.mem_cons_of_mem c ha)]

/-- No piece reaches across a separating character. -/
theorem splitOn_append_sep (sep : Char) (a b : Text) :
    splitOn sep (a ++ sep :: b) = splitOn sep a ++ splitOn sep b := by
  have hne : ∀ t : Text, splitOn sep t ≠ [] := by
    intro t
    cases t with
    | nil => exact List.cons_ne_nil _ _
    | cons c t =>
        rw [splitOn]
        split
        · exact List.cons_ne_nil _ _
        · split <;> exact List.cons_ne_nil _ _
  induction a with
  | nil => exact if_pos rfl
  | cons c a ih =>
      rw [List.cons_append, splitOn, splitOn, ih]
      split
      · rfl
      · obtain ⟨piece, rest, hpieces⟩ := List.exists_cons_of_ne_nil (hne a)
        rw [hpieces]
        rfl

/-- Pieces that are joined are found again, if there are any and none of them holds the separating
character. -/
theorem splitOn_joinWith {sep : Char} {pieces : List Text} (hne : pieces ≠ [])
    (h : ∀ p ∈ pieces, sep ∉ p) : splitOn sep (joinWith [sep] pieces) = pieces := by
  induction pieces with
  | nil => exact absurd rfl hne
  | cons p pieces ih =>
      cases pieces with
      | nil => exact splitOn_of_not_mem (h p List.mem_cons_self)
      | cons q pieces =>
          have hrest := ih (List.cons_ne_nil q pieces) fun r hr => h r (List.mem_cons_of_mem p hr)
          rw [joinWith, List.append_assoc, List.singleton_append,
            splitOn_append (h p List.mem_cons_self), hrest]
          exact List.cons_ne_nil q pieces

end BareUrl.Text
