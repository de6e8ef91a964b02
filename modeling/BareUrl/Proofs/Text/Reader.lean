import BareUrl.Text.Reader

/-!
# `BareUrl.Proofs.Text.Reader`: when composed readers read

A sequence reads if both of its readers do, one behind the other (`seq_eq_some_iff`); of several
readers the first that reads anything decides, so some reader of a list has to read
(`exists_of_first`) and it is enough that one does (`isSome_first`). Which one comes first matters
only where two of them read different things (`first_eq_some_iff`). A run of characters is read up
to the first character that is none of them (`run1_eq_some_iff`).
-/

set_option autoImplicit false

namespace BareUrl.Reader

variable {p q : Reader} {t a r : Text}

theorem literal_append (w r : Text) : literal w (w ++ r) = some (w, r) := by
  rw [literal, Text.stripLead_eq_some_iff.2 rfl]
  rfl

theorem literal_eq_some_iff {w : Text} : literal w t = some (a, r) ↔ a = w ∧ t = w ++ r := by
  rw [literal, Option.map_eq_some_iff]
  constructor
  · rintro ⟨r', hr, he⟩
    obtain ⟨rfl, rfl⟩ := Prod.mk.inj he
    exact ⟨rfl, Text.stripLead_eq_some_iff.1 hr⟩
  · rintro ⟨rfl, rfl⟩
    exact ⟨r, Text.stripLead_eq_some_iff.2 rfl, rfl⟩

/-! ### Runs of characters -/

section Runs
variable {f : Char → Bool}

/-- The text goes on with no character of the run. -/
def Stops (f : Char → Bool) (r : Text) : Prop := ∀ c ∈ r.head?, f c = false

theorem stops_nil : Stops f [] := by simp [Stops]

theorem stops_cons {c : Char} : Stops f (c :: r) ↔ f c = false := by simp [Stops]

theorem stops_dropWhile (f : Char → Bool) (t : Text) : Stops f (t.dropWhile f) := by
  intro c hc
  have := List.head?_dropWhile_not f t
  rw [Option.mem_def.1 hc] at this
  simpa using this

theorem stops_iff : Stops f r ↔ r.takeWhile f = [] := by
  cases r with
  | nil => simp [stops_nil]
  | cons c r =>
      rw [stops_cons]
      by_cases hc : f c = true
      · simp [hc]
      · simp [hc]

theorem takeWhile_eq (ha : ∀ c ∈ a, f c = true) (hr : Stops f r) :
    (a ++ r).takeWhile f = a := by
  rw [List.takeWhile_append_of_pos ha, stops_iff.1 hr, List.append_nil]

theorem dropWhile_eq (ha : ∀ c ∈ a, f c = true) (hr : Stops f r) :
    (a ++ r).dropWhile f = r := by
  rw [List.dropWhile_append_of_pos ha]
  cases r with
  | nil => rfl
  | cons c r => simp [stops_cons.1 hr]

theorem run1_eq_some_iff :
    run1 f t = some (a, r) ↔ t = a ++ r ∧ a ≠ [] ∧ (∀ c ∈ a, f c = true) ∧ Stops f r := by
  constructor
  · intro h
    have ht := lossless_run1 f _ _ _ h
    unfold run1 at h
    split at h
    · simp at h
    · rename_i c cs hc
      simp only [Option.some.injEq, Prod.mk.injEq] at h
      obtain ⟨rfl, rfl⟩ := h
      refine ⟨ht, by simp, fun d hd => ?_, stops_dropWhile f t⟩
      exact List.all_eq_true.1 List.all_takeWhile d (hc ▸ hd)
  · rintro ⟨rfl, hne, ha, hr⟩
    obtain ⟨c, cs, rfl⟩ := List.exists_cons_of_ne_nil hne
    rw [run1, takeWhile_eq ha hr, dropWhile_eq ha hr]

end Runs

/-! ### One reader after another -/

theorem seq_eq_some_iff :
    p.seq q t = some (a, r) ↔
      ∃ x s y, p t = some (x, s) ∧ q s = some (y, r) ∧ a = x ++ y := by
  unfold seq
  constructor
  · intro h
    split at h
    · simp at h
    · rename_i x s hp
      split at h
      · simp at h
      · rename_i y r' hq
        simp only [Option.some.injEq, Prod.mk.injEq] at h
        obtain ⟨rfl, rfl⟩ := h
        exact ⟨x, s, y, hp, hq, rfl⟩
  · rintro ⟨x, s, y, hp, hq, rfl⟩
    simp only [hp, hq]

theorem isSome_seq {x s : Text} (hp : p t = some (x, s)) (hq : (q s).isSome) :
    (p.seq q t).isSome := by
  obtain ⟨⟨y, r⟩, hq⟩ := Option.isSome_iff_exists.1 hq
  exact Option.isSome_iff_exists.2 ⟨_, seq_eq_some_iff.2 ⟨x, s, y, hp, hq, rfl⟩⟩

theorem isSome_orElse : (p.orElse q t).isSome ↔ (p t).isSome ∨ (q t).isSome := by
  rw [orElse, Option.isSome_or, Bool.or_eq_true]

theorem orElse_of_some {x : Text × Text} (h : p t = some x) : p.orElse q t = some x := by
  rw [orElse, h, Option.some_or]

theorem orElse_of_none (h : p t = none) : p.orElse q t = q t := by
  rw [orElse, h, Option.none_or]

theorem optional_of_some {x : Text × Text} (h : p t = some x) : p.optional t = some x := by
  rw [optional, h, Option.getD_some]

theorem optional_of_none (h : p t = none) : p.optional t = some ([], t) := by
  rw [optional, h, Option.getD_none]

theorem optional_eq_some (h : p.optional t = some (a, r)) :
    p t = some (a, r) ∨ a = [] ∧ r = t := by
  rw [optional, Option.some.injEq] at h
  cases hp : p t with
  | none =>
      rw [hp, Option.getD_none, Prod.mk.injEq] at h
      exact .inr ⟨h.1.symm, h.2.symm⟩
  | some x =>
      rw [hp, Option.getD_some] at h
      exact .inl (by rw [h])

theorem exists_of_first {ps : List Reader} {x : Text × Text} (h : first ps t = some x) :
    ∃ p ∈ ps, p t = some x := by
  induction ps with
  | nil => simp [first] at h
  | cons p ps ih =>
      rcases Option.or_eq_some_iff.1 h with h | ⟨-, h⟩
      · exact ⟨p, List.mem_cons_self, h⟩
      · obtain ⟨q, hq, h⟩ := ih h
        exact ⟨q, List.mem_cons_of_mem p hq, h⟩

theorem isSome_first {ps : List Reader} (hp : p ∈ ps) (h : (p t).isSome) :
    (first ps t).isSome := by
  induction ps with
  | nil => simp at hp
  | cons q ps ih =>
      rw [first, isSome_orElse]
      rcases List.mem_cons.1 hp with rfl | hp
      · exact .inl h
      · exact .inr (ih hp)

/-- Where all readers that read anything read the same, their order does not matter. -/
theorem first_eq_some_iff {ps : List Reader} {x : Text × Text}
    (hsame : ∀ p ∈ ps, ∀ q ∈ ps, ∀ y z, p t = some y → q t = some z → y = z) :
    first ps t = some x ↔ ∃ p ∈ ps, p t = some x := by
  constructor
  · exact exists_of_first
  · rintro ⟨p, hp, h⟩
    obtain ⟨y, hy⟩ := Option.isSome_iff_exists.1 (isSome_first hp (by rw [h]; rfl))
    obtain ⟨q, hq, h'⟩ := exists_of_first hy
    rw [hy, hsame q hq p hp y x h' h]

end BareUrl.Reader
