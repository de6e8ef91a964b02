import BareUrl.Proofs.Url.Before

/-!
# `BareUrl.Proofs.Url.Longest`: a URL takes all that it can

A path and a query are read up to the last character they may end in. So behind them the text goes
on over the characters of a path, or of a query, to none that one may end in: `Runs` says that it
does, and `not_runs_of_url` that it cannot. That the URL ends in a query, and not in a path, shows
from its question mark.
-/

set_option autoImplicit false

namespace BareUrl.Url

variable {inside last : Char → Bool} {t a r : Text}

/-! ### Texts that go on -/

/-- The text starts with characters of the class `inside`, then one of the class `last`. -/
def Runs (inside last : Char → Bool) (t : Text) : Prop :=
  ∃ w d z, t = w ++ d :: z ∧ (∀ c ∈ w, inside c = true) ∧ last d = true

theorem not_runs_nil : ¬ Runs inside last [] := by
  rintro ⟨w, d, z, h, -⟩
  simp at h

theorem runs_cons {c : Char} :
    Runs inside last (c :: t) ↔ last c = true ∨ inside c = true ∧ Runs inside last t := by
  constructor
  · rintro ⟨w, d, z, h, hw, hd⟩
    cases w with
    | nil =>
        obtain ⟨rfl, -⟩ := List.cons.inj h
        exact .inl hd
    | cons x w =>
        obtain ⟨rfl, rfl⟩ := List.cons.inj h
        obtain ⟨hx, hw⟩ := List.forall_mem_cons.1 hw
        exact .inr ⟨hx, w, d, z, rfl, hw, hd⟩
  · rintro (hc | ⟨hc, w, d, z, rfl, hw, hd⟩)
    · exact ⟨[], c, t, rfl, by simp, hc⟩
    · exact ⟨c :: w, d, z, rfl, List.forall_mem_cons.2 ⟨hc, hw⟩, hd⟩

/-- A character of neither class stops the text. -/
theorem runs_append_cons {c : Char} (hin : inside c = false) (hlast : last c = false) (z : Text) :
    Runs inside last (t ++ c :: z) ↔ Runs inside last t := by
  induction t with
  | nil => simp [runs_cons, not_runs_nil, hin, hlast]
  | cons d t ih => rw [List.cons_append, runs_cons, runs_cons, ih]

/-- A reader that takes characters of a class up to the last one of another class reads something
where a text goes on. -/
theorem isSome_of_runs {p : Reader} (hlast : ∀ c, last c = true → inside c = true)
    (hcons : ∀ c, inside c = true → ∀ t, p (c :: t) = match p t with
      | some (a, r) => some (c :: a, r)
      | none => if last c then some ([c], t) else none)
    (h : Runs inside last t) : (p t).isSome := by
  obtain ⟨w, d, z, rfl, hw, hd⟩ := h
  induction w with
  | nil =>
      rw [List.nil_append, hcons d (hlast d hd), if_pos hd]
      split <;> rfl
  | cons c w ih =>
      obtain ⟨hc, hw⟩ := List.forall_mem_cons.1 hw
      obtain ⟨x, hx⟩ := Option.isSome_iff_exists.1 (ih hw)
      rw [List.cons_append, hcons c hc, hx]
      rfl

/-! ### Paths -/

theorem isPathChar_of_isPathEnd {c : Char} (h : isPathEnd c = true) : isPathChar c = true := by
  have hmarks : pathEndMarks ⊆ pathMarks := by decide
  rw [isPathEnd, Bool.or_eq_true, List.contains_iff_mem] at h
  rw [isPathChar, Bool.or_eq_true, List.contains_iff_mem]
  exact h.imp_right fun hmem => hmarks hmem

/-- Behind a stretch there is no other one. -/
theorem stretch_behind_stretch (h : stretch t = some (a, r)) : stretch r = none := by
  fun_induction stretch t generalizing a with
  | case1 => simp at h
  | case2 c rest hc s r' hs ih =>
      obtain ⟨-, rfl⟩ := Prod.mk.inj (Option.some.inj h)
      exact ih hs
  | case3 c rest hc hs he ih =>
      obtain ⟨-, rfl⟩ := Prod.mk.inj (Option.some.inj h)
      exact hs
  | case4 c rest hc hs he ih => simp at h
  | case5 c rest hc g r' hg _ ih =>
      obtain ⟨⟨s, r''⟩, hs, he⟩ := Option.map_eq_some_iff.1 h
      obtain ⟨-, rfl⟩ := Prod.mk.inj he
      exact ih hs
  | case6 c rest hc hg => simp at h

/-- Groups on their own do not make a stretch start. -/
theorem stretch_behind_groups (h : stretch t = none) : stretch (groups t).2 = none := by
  fun_induction groups t with
  | case1 t g r' hg _ ih =>
      -- A stretch behind the group would make one stretch with it.
      refine ih ?_
      obtain ⟨_, s, _, hopen, -, -⟩ := Reader.seq_eq_some_iff.1 hg
      obtain ⟨-, rfl⟩ := Reader.literal_eq_some_iff.1 hopen
      rw [List.singleton_append] at h hg
      rwa [stretch_of_group (by decide) hg, Option.map_eq_none_iff] at h
  | case2 t hg => exact h

theorem stretch_behind_paths (h : paths t = some (a, r)) : stretch r = none := by
  obtain ⟨x, s, y, hx, hy, -⟩ := Reader.seq_eq_some_iff.1 h
  -- If no stretch was read, the groups start where none can be read.
  have hs : stretch s = none := by
    cases ht : stretch t with
    | none =>
        rw [Reader.optional_of_none ht] at hx
        obtain ⟨-, rfl⟩ := Prod.mk.inj (Option.some.inj hx)
        exact ht
    | some found =>
        rw [Reader.optional_of_some ht] at hx
        exact stretch_behind_stretch (ht.trans hx)
  have hgroups := stretch_behind_groups hs
  rwa [Option.some.inj hy] at hgroups

/-! ### Queries -/

theorem isQueryChar_of_isQueryEnd {c : Char} (h : isQueryEnd c = true) : isQueryChar c = true := by
  have hmarks : queryEndMarks ⊆ queryMarks := by decide
  rw [isQueryEnd, Bool.or_eq_true, List.contains_iff_mem] at h
  rw [isQueryChar, Bool.or_eq_true, List.contains_iff_mem]
  exact h.imp_right fun hmem => hmarks hmem

theorem queryBody_cons {c : Char} (hc : isQueryChar c = true) (t : Text) :
    queryBody (c :: t) = match queryBody t with
      | some (q, r) => some (c :: q, r)
      | none => if isQueryEnd c then some ([c], t) else none := by
  rw [queryBody]
  exact if_pos hc

/-- Behind a query it does not go on. -/
theorem queryBody_behind_queryBody (h : queryBody t = some (a, r)) : queryBody r = none := by
  induction t generalizing a with
  | nil => simp [queryBody] at h
  | cons c t ih =>
      by_cases hc : isQueryChar c = true
      · rw [queryBody_cons hc] at h
        split at h
        · rename_i q r' hq
          obtain ⟨-, rfl⟩ := Prod.mk.inj (Option.some.inj h)
          exact ih hq
        · rename_i hq
          split at h
          · obtain ⟨-, rfl⟩ := Prod.mk.inj (Option.some.inj h)
            exact hq
          · simp at h
      · rw [queryBody, if_neg hc] at h
        simp at h

/-! ### URLs -/

theorem behind_trail (h : trail t = some (a, r)) :
    stretch r = none ∨ '?' ∈ a ∧ queryBody r = none := by
  obtain ⟨x, s, b, -, hb, rfl⟩ := Reader.seq_eq_some_iff.1 h
  obtain ⟨y, s', q, hy, hq, rfl⟩ := Reader.seq_eq_some_iff.1 hb
  rcases Reader.optional_eq_some hq with hq | ⟨-, rfl⟩
  · obtain ⟨mark, s'', body, hmark, hbody, rfl⟩ := Reader.seq_eq_some_iff.1 hq
    obtain ⟨rfl, -⟩ := Reader.literal_eq_some_iff.1 hmark
    exact .inr ⟨by simp, queryBody_behind_queryBody hbody⟩
  · exact .inl (stretch_behind_paths hy)

/-- Behind a URL no path goes on, or, if there is a question mark in the URL, no query does. -/
theorem Grammar.not_runs_of_url {g : Grammar} (h : g.url t = some (a, r)) :
    ¬ Runs isPathChar isPathEnd r ∨ '?' ∈ a ∧ ¬ Runs isQueryChar isQueryEnd r := by
  obtain ⟨x, s, y, -, hy, rfl⟩ := Reader.seq_eq_some_iff.1 h
  rcases behind_trail hy with hnone | ⟨hmark, hnone⟩
  · refine .inl fun hruns => ?_
    have hsome : (stretch r).isSome :=
      isSome_of_runs (fun c => isPathChar_of_isPathEnd) (fun c hc => stretch_cons hc) hruns
    rw [hnone] at hsome
    exact absurd hsome Bool.noConfusion
  · refine .inr ⟨List.mem_append_right x hmark, fun hruns => ?_⟩
    have hsome : (queryBody r).isSome :=
      isSome_of_runs (fun c => isQueryChar_of_isQueryEnd) (fun c hc => queryBody_cons hc) hruns
    rw [hnone] at hsome
    exact absurd hsome Bool.noConfusion

end BareUrl.Url
