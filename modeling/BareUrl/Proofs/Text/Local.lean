import BareUrl.Proofs.Text.Reader
import BareUrl.Text.Word

/-!
# `BareUrl.Proofs.Text.Local`: what is read does not depend on text further on

How does a reader read a text when more text follows? In one of three ways (`Local`):

* it reads the same piece (`Same`);
* it reads a piece that reaches into what follows (`Reaches`);
* it would have read the text to its end, but a word has to end there and what follows goes on
  with it. So a piece can be lost when text is put behind it, or be found when text is cut off.

Most readers never do the last (`Steady`). Those that read a piece up to a closing character read it
whatever follows (`Fixed`).
-/

set_option autoImplicit false

namespace BareUrl.Reader

variable {p q : Reader} {s z : Text}

/-- The same piece is read with `z` behind the text. -/
def Same (p : Reader) (s z : Text) : Prop :=
  p (s ++ z) = (p s).map fun x => (x.1, x.2 ++ z)

/-- With `z` behind the text, a piece is read that reaches into `z`. -/
def Reaches (p : Reader) (s z : Text) : Prop :=
  ∃ a r, p (s ++ z) = some (a, r) ∧ s.length < a.length

/-- A piece that is read once is read with any text behind it. -/
def Fixed (p : Reader) : Prop := ∀ a s z, p (a ++ s) = some (a, s) → p (a ++ z) = some (a, z)

/-- Text behind does not change what is read, unless the piece reaches into it. -/
def Steady (p : Reader) : Prop := ∀ s z, Same p s z ∨ Reaches p s z

/-- Text behind does not change what is read, unless the piece reaches into it, or reaches to its
start where a word goes on. -/
def Local (p : Reader) : Prop :=
  ∀ s z, Same p s z ∨ Reaches p s z ∨ p s = some (s, []) ∧ Text.endsWord z = false

/-- The reader reads every text. -/
def Total (p : Reader) : Prop := ∀ t, (p t).isSome

theorem same_of_none (hs : p s = none) (hz : p (s ++ z) = none) : Same p s z := by
  rw [Same, hs, hz]
  rfl

theorem same_of_some {a r : Text} (hs : p s = some (a, r)) (hz : p (s ++ z) = some (a, r ++ z)) :
    Same p s z := by
  rw [Same, hs, hz]
  rfl

theorem Same.eq_none (h : Same p s z) (hs : p s = none) : p (s ++ z) = none := by
  rw [h, hs]
  rfl

theorem Same.eq_some {a r : Text} (h : Same p s z) (hs : p s = some (a, r)) :
    p (s ++ z) = some (a, r ++ z) := by
  rw [h, hs]
  rfl

/-- A piece that does not reach into what follows lies in the text. -/
theorem exists_rest {a r : Text} (h : s ++ z = a ++ r) (hle : a.length ≤ s.length) :
    ∃ r', s = a ++ r' ∧ r = r' ++ z := by
  have hpre : a <+: s :=
    List.prefix_of_prefix_length_le (h ▸ List.prefix_append a r) (List.prefix_append s z) hle
  obtain ⟨r', rfl⟩ := hpre
  rw [List.append_assoc, List.append_cancel_left_eq] at h
  exact ⟨r', rfl, h.symm⟩

theorem Steady.local (h : Steady p) : Local p := fun s z => (h s z).imp id .inl

/-- Where nothing is read, a piece of a fixed reader can only come from what follows. -/
theorem Fixed.steady (h : Fixed p) (hl : p.Lossless) : Steady p := by
  intro s z
  cases hs : p s with
  | some x =>
      obtain ⟨a, r⟩ := x
      have ht := hl _ _ _ hs
      rw [ht] at hs ⊢
      refine .inl (same_of_some hs ?_)
      rw [List.append_assoc]
      exact h a r _ hs
  | none =>
      cases hz : p (s ++ z) with
      | none => exact .inl (same_of_none hs hz)
      | some x =>
          obtain ⟨a, r⟩ := x
          -- A piece within the text would be read without what follows as well.
          refine .inr ⟨a, r, hz, Nat.lt_of_not_le fun hle => ?_⟩
          obtain ⟨r', rfl, rfl⟩ := exists_rest (hl _ _ _ hz) hle
          rw [List.append_assoc] at hz
          rw [h a _ r' hz] at hs
          simp at hs

/-! ### One reader after another -/

theorem fixed_literal (w : Text) : Fixed (literal w) := by
  intro a s z h
  rw [literal_eq_some_iff] at h ⊢
  exact ⟨h.1, by rw [h.1]⟩

theorem Fixed.seq (hp : Fixed p) (hq : Fixed q) (hl : q.Lossless) : Fixed (p.seq q) := by
  intro a s z h
  obtain ⟨x, s', y, hx, hy, rfl⟩ := seq_eq_some_iff.1 h
  obtain rfl := hl _ _ _ hy
  rw [List.append_assoc] at hx ⊢
  exact seq_eq_some_iff.2 ⟨x, y ++ z, y, hp x _ _ hx, hq y _ _ hy, rfl⟩

/-- Behind a piece, the second reader is the one that may reach into what follows. -/
theorem reaches_seq {a r : Text} (hp : p (s ++ z) = some (a, r ++ z)) (hl : s = a ++ r)
    (hq : Reaches q r z) : Reaches (p.seq q) s z := by
  obtain ⟨y, r', hy, hlt⟩ := hq
  refine ⟨a ++ y, r', seq_eq_some_iff.2 ⟨a, _, y, hp, hy, rfl⟩, ?_⟩
  rw [hl, List.length_append, List.length_append]
  omega

/-- Where the first piece reaches into what follows, both do. -/
theorem Reaches.seq {a r y r' : Text} (hp : p (s ++ z) = some (a, r)) (hlt : s.length < a.length)
    (hq : q r = some (y, r')) : Reaches (p.seq q) s z := by
  refine ⟨a ++ y, r', seq_eq_some_iff.2 ⟨a, r, y, hp, hq, rfl⟩, ?_⟩
  rw [List.length_append]
  omega

theorem seq_eq_none_of_left (h : p s = none) : p.seq q s = none := by
  simp [seq, h]

theorem seq_eq_none_of_right {a r : Text} (hp : p s = some (a, r)) (hq : q r = none) :
    p.seq q s = none := by
  simp [seq, hp, hq]

theorem seq_same {a r : Text} (hs : p s = some (a, r)) (hz : p (s ++ z) = some (a, r ++ z))
    (hq : Same q r z) : Same (p.seq q) s z := by
  cases hr : q r with
  | none =>
      exact same_of_none (seq_eq_none_of_right hs hr) (seq_eq_none_of_right hz (hq.eq_none hr))
  | some x =>
      obtain ⟨y, r'⟩ := x
      exact same_of_some (seq_eq_some_iff.2 ⟨a, r, y, hs, hr, rfl⟩)
        (seq_eq_some_iff.2 ⟨a, _, y, hz, hq.eq_some hr, rfl⟩)

/-- Behind a fixed part it is the second reader that decides, unless nothing is read. -/
theorem Fixed.seq_cases (hp : Fixed p) (hlp : p.Lossless) (q : Reader) (s z : Text) :
    Same (p.seq q) s z ∨ Reaches (p.seq q) s z ∨
      ∃ a r, p s = some (a, r) ∧ p (s ++ z) = some (a, r ++ z) ∧ s = a ++ r := by
  cases hs : p s with
  | none =>
      -- Where the fixed part is found only with `z`, it reaches into `z`.
      have hnone : p.seq q s = none := seq_eq_none_of_left hs
      rcases hp.steady hlp s z with h | ⟨a, r, hz, hlt⟩
      · exact .inl (same_of_none hnone (seq_eq_none_of_left (h.eq_none hs)))
      · cases hr : q r with
        | none => exact .inl (same_of_none hnone (seq_eq_none_of_right hz hr))
        | some x => exact .inr (.inl (Reaches.seq hz hlt hr))
  | some x =>
      obtain ⟨a, r⟩ := x
      have ht := hlp _ _ _ hs
      refine .inr (.inr ⟨a, r, rfl, ?_, ht⟩)
      rw [ht] at hs ⊢
      rw [List.append_assoc]
      exact hp a r _ hs

/-- A fixed part in front leaves a local reader local. -/
theorem Fixed.seq_local (hp : Fixed p) (hlp : p.Lossless) (hq : Local q) : Local (p.seq q) := by
  intro s z
  rcases hp.seq_cases hlp q s z with h | h | ⟨a, r, hs, hz, ht⟩
  · exact .inl h
  · exact .inr (.inl h)
  · rcases hq r z with h | h | ⟨h, hend⟩
    · exact .inl (seq_same hs hz h)
    · exact .inr (.inl (reaches_seq hz ht h))
    · exact .inr (.inr ⟨seq_eq_some_iff.2 ⟨a, r, r, hs, h, ht⟩, hend⟩)

/-- A fixed part in front leaves a steady reader steady. -/
theorem Fixed.seq_steady (hp : Fixed p) (hlp : p.Lossless) (hq : Steady q) :
    Steady (p.seq q) := by
  intro s z
  rcases hp.seq_cases hlp q s z with h | h | ⟨a, r, hs, hz, ht⟩
  · exact .inl h
  · exact .inr h
  · exact (hq r z).imp (seq_same hs hz) (reaches_seq hz ht)

/-- A steady reader behind a local one leaves it local, if it reads every text. -/
theorem Local.seq_steady (hp : Local p) (hlp : p.Lossless) (hq : Steady q) (htotal : Total q)
    (hlq : q.Lossless) : Local (p.seq q) := by
  intro s z
  rcases hp s z with h | ⟨a, r, hz, hlt⟩ | ⟨h, hend⟩
  · cases hs : p s with
    | none =>
        have hz := h.eq_none hs
        exact .inl (same_of_none (seq_eq_none_of_left hs) (seq_eq_none_of_left hz))
    | some x =>
        obtain ⟨a, r⟩ := x
        rcases hq r z with h' | h'
        · exact .inl (seq_same hs (h.eq_some hs) h')
        · exact .inr (.inl (reaches_seq (h.eq_some hs) (hlp _ _ _ hs) h'))
  · obtain ⟨x, hr⟩ := Option.isSome_iff_exists.1 (htotal r)
    exact .inr (.inl (Reaches.seq hz hlt hr))
  · -- The first piece is the whole text, so the second one is empty.
    obtain ⟨⟨y, r⟩, hr⟩ := Option.isSome_iff_exists.1 (htotal [])
    obtain ⟨rfl, rfl⟩ := List.append_eq_nil_iff.1 (hlq _ _ _ hr).symm
    exact .inr (.inr ⟨seq_eq_some_iff.2 ⟨s, [], [], h, hr, (List.append_nil s).symm⟩, hend⟩)

theorem Steady.seq (hp : Steady p) (hlp : p.Lossless) (hq : Steady q) (htotal : Total q) :
    Steady (p.seq q) := by
  intro s z
  rcases hp s z with h | ⟨a, r, hz, hlt⟩
  · cases hs : p s with
    | none =>
        have hz := h.eq_none hs
        exact .inl (same_of_none (seq_eq_none_of_left hs) (seq_eq_none_of_left hz))
    | some x =>
        obtain ⟨a, r⟩ := x
        rcases hq r z with h' | h'
        · exact .inl (seq_same hs (h.eq_some hs) h')
        · exact .inr (reaches_seq (h.eq_some hs) (hlp _ _ _ hs) h')
  · obtain ⟨x, hr⟩ := Option.isSome_iff_exists.1 (htotal r)
    exact .inr (Reaches.seq hz hlt hr)

/-! ### One reader or another -/

theorem Local.orElse (hp : Local p) (hq : Local q) : Local (p.orElse q) := by
  intro s z
  rcases hp s z with h | ⟨a, r, hz, hlt⟩ | ⟨h, hend⟩
  · -- The second reader is tried exactly where it is tried without `z`.
    cases hs : p s with
    | some x =>
        obtain ⟨a, r⟩ := x
        have hz := h.eq_some hs
        exact .inl (same_of_some (orElse_of_some hs) (orElse_of_some hz))
    | none =>
        have hz := h.eq_none hs
        rw [Same, Reaches, orElse_of_none hs, orElse_of_none hz]
        exact hq s z
  · exact .inr (.inl ⟨a, r, orElse_of_some hz, hlt⟩)
  · exact .inr (.inr ⟨orElse_of_some h, hend⟩)

theorem local_first {ps : List Reader} (h : ∀ p ∈ ps, Local p) : Local (first ps) := by
  induction ps with
  | nil => exact fun _ _ => .inl rfl
  | cons p ps ih =>
      exact (h p List.mem_cons_self).orElse (ih fun q hq => h q (List.mem_cons_of_mem p hq))

theorem total_optional (p : Reader) : Total p.optional := fun _ => rfl

theorem Steady.optional (hp : Steady p) : Steady p.optional := by
  intro s z
  rcases hp s z with h | ⟨a, r, hz, hlt⟩
  · cases hs : p s with
    | none =>
        have hz := h.eq_none hs
        exact .inl (same_of_some (optional_of_none hs) (optional_of_none hz))
    | some x =>
        obtain ⟨a, r⟩ := x
        have hz := h.eq_some hs
        exact .inl (same_of_some (optional_of_some hs) (optional_of_some hz))
  · exact .inr ⟨a, r, optional_of_some hz, hlt⟩

theorem Total.seq (hp : Total p) (hq : Total q) : Total (p.seq q) := by
  intro t
  obtain ⟨⟨a, r⟩, ht⟩ := Option.isSome_iff_exists.1 (hp t)
  exact isSome_seq ht (hq r)

end BareUrl.Reader
