import BareUrl.Proofs.Text.Cut

/-!
# `BareUrl.Proofs.Text.Scan`: searching from left to right

A recogniser looks at the start of a text, and `Recogniser.leftmost` at one place after another.
Either it recognises a token nowhere (`Silent`), or there is a first place where it does, with a
gap of places before it where it does not (`leftmost_induct`). The cut of a text at its tokens is
defined by these two cases: `run_leftmost_of_silent` and `run_leftmost_of_here`. A gap where no
token starts belongs to what is behind it: `run_leftmost_append`.
-/

set_option autoImplicit false

namespace BareUrl.Recogniser

variable {α : Type} {here : Recogniser α} {t : Text}

/-- No token starts anywhere in the text. -/
def Silent (here : Recogniser α) (t : Text) : Prop :=
  ∀ x y, t = x ++ y → y ≠ [] → ¬ (here y).isSome

/-- No token starts in the gap in front of the text. -/
def SilentBefore (here : Recogniser α) (gap t : Text) : Prop :=
  ∀ x y, gap = x ++ y → y ≠ [] → ¬ (here (y ++ t)).isSome

theorem silentBefore_nil : here.SilentBefore [] t :=
  fun _ _ h hy => absurd (List.append_eq_nil_iff.1 h.symm).2 hy

theorem silentBefore_cons {c : Char} {gap : Text} :
    here.SilentBefore (c :: gap) t ↔
      ¬ (here (c :: (gap ++ t))).isSome ∧ here.SilentBefore gap t := by
  constructor
  · intro h
    refine ⟨h [] (c :: gap) rfl (by simp), fun x y hxy hy => ?_⟩
    exact h (c :: x) y (by rw [hxy]; rfl) hy
  · rintro ⟨hc, h⟩ x y hxy hy
    cases x with
    | nil =>
        rw [List.nil_append] at hxy
        rw [← hxy]
        exact hc
    | cons d x => exact h x y (List.cons.inj hxy).2 hy

theorem silentBefore_append {gap gap' : Text} :
    here.SilentBefore (gap ++ gap') t ↔
      here.SilentBefore gap (gap' ++ t) ∧ here.SilentBefore gap' t := by
  induction gap with
  | nil => exact (and_iff_right silentBefore_nil).symm
  | cons c gap ih =>
      rw [List.cons_append, silentBefore_cons, ih, silentBefore_cons, and_assoc, List.append_assoc]

theorem silent_iff : here.Silent t ↔ here.SilentBefore t [] := by
  constructor
  · intro h x y hxy hy
    rw [List.append_nil]
    exact h x y hxy hy
  · intro h x y hxy hy
    have := h x y hxy hy
    rwa [List.append_nil] at this

theorem leftmost_eq_none_iff : here.leftmost t = none ↔ here.Silent t := by
  rw [silent_iff]
  induction t with
  | nil => exact iff_of_true rfl silentBefore_nil
  | cons c t ih =>
      rw [silentBefore_cons, List.append_nil, ← ih, leftmost]
      cases hc : here (c :: t) with
      | none => simp
      | some s => simp

/-- Behind a gap where nothing starts, the search finds the token that starts there. -/
theorem leftmost_eq_some {gap : Text} {s : Start α t} (h : here t = some s)
    (hgap : here.SilentBefore gap t) :
    ∃ hlt, here.leftmost (gap ++ t) = some ⟨gap, s.token, s.rest, hlt⟩ := by
  -- The search goes over the gap one place at a time, and fails at each.
  induction gap with
  | nil =>
      cases t with
      | nil => exact absurd s.shorter (by simp)
      | cons c t =>
          refine ⟨s.shorter, ?_⟩
          show here.leftmost (c :: t) = _
          simp only [leftmost, h]
  | cons c gap ih =>
      obtain ⟨hc, hgap⟩ := silentBefore_cons.1 hgap
      obtain ⟨hlt, hs⟩ := ih hgap
      refine ⟨Nat.lt_succ_of_lt hlt, ?_⟩
      rw [Option.not_isSome_iff_eq_none] at hc
      show here.leftmost (c :: (gap ++ t)) = _
      simp only [leftmost, hc, hs, Option.map_some]

/-- No token starts anywhere, or there is a first place where one starts. -/
theorem silent_or_here (here : Recogniser α) (t : Text) :
    here.Silent t ∨ ∃ gap u s, t = gap ++ u ∧ here u = some s ∧ here.SilentBefore gap u := by
  induction t with
  | nil => exact .inl (leftmost_eq_none_iff.1 rfl)
  | cons c t ih =>
      cases hc : here (c :: t) with
      | some s => exact .inr ⟨[], c :: t, s, rfl, hc, silentBefore_nil⟩
      | none =>
          rcases ih with ht | ⟨gap, u, s, rfl, hs, hgap⟩
          · rw [silent_iff] at ht ⊢
            exact .inl (silentBefore_cons.2 ⟨by rw [List.append_nil, hc]; simp, ht⟩)
          · exact .inr ⟨c :: gap, u, s, rfl, hs, silentBefore_cons.2 ⟨by simp [hc], hgap⟩⟩

/-! ### The cut at the tokens -/

theorem run_leftmost_of_silent (h : here.Silent t) : Scan.run here.leftmost t = .leaf t := by
  rw [Scan.run, leftmost_eq_none_iff.2 h]

theorem run_leftmost_of_here {gap : Text} {s : Start α t} (h : here t = some s)
    (hgap : here.SilentBefore gap t) :
    Scan.run here.leftmost (gap ++ t) = (Scan.run here.leftmost s.rest).cons gap s.token := by
  obtain ⟨_, hs⟩ := leftmost_eq_some h hgap
  rw [Scan.run, hs]

/-- A gap where no token starts is part of the gap in front of the next one. -/
theorem run_leftmost_append {gap : Text} (hgap : here.SilentBefore gap t) :
    Scan.run here.leftmost (gap ++ t) = (Scan.run here.leftmost t).prepend gap := by
  rcases silent_or_here here t with ht | ⟨gap', u, s, rfl, hs, hgap'⟩
  · have hsilent : here.Silent (gap ++ t) := by
      rw [silent_iff, silentBefore_append, List.append_nil]
      exact ⟨hgap, silent_iff.1 ht⟩
    rw [run_leftmost_of_silent hsilent, run_leftmost_of_silent ht, Cut.prepend_leaf]
  · rw [← List.append_assoc, run_leftmost_of_here hs (silentBefore_append.2 ⟨hgap, hgap'⟩),
      run_leftmost_of_here hs hgap', Cut.prepend_cons]

/-- A property of all texts: of those in which no token starts, and kept by a gap and a token in
front. -/
@[elab_as_elim]
theorem leftmost_induct {motive : Text → Prop} (here : Recogniser α)
    (silent : ∀ t, here.Silent t → motive t)
    (token : ∀ gap t s, here t = some s → here.SilentBefore gap t → motive s.rest →
      motive (gap ++ t)) (t : Text) : motive t := by
  rcases silent_or_here here t with ht | ⟨gap, u, s, rfl, hs, hgap⟩
  · exact silent t ht
  · exact token gap u s hs hgap (leftmost_induct here silent token s.rest)
termination_by t.length
decreasing_by
  have := s.shorter
  subst_vars
  rw [List.length_append]
  omega

end BareUrl.Recogniser
