import BareUrl.Url.Expression

/-!
# `BareUrl.Proofs.Url.Expression`: what an expression reads

One equivalence for each way to build an expression: it reads a piece exactly if the piece is
built from what its parts read. Repetitions of a single character class need no induction where
they are used: `reads_times_one_iff` says that they read the runs of the class with a length
between the bounds.

`allows_of_reads`: every character that an expression reads belongs to one of its classes or
literals (`Expression.Allows`). `ends_of_reads`: the last one belongs to a class or literal that may
come last (`Expression.Ends`).
-/

set_option autoImplicit false

namespace BareUrl.Url.Expression

variable {e f : Expression} {a r : Text}

theorem reads_one_iff {shown : String} {p : Char → Bool} :
    Reads (.one shown p) a r ↔ ∃ c, a = [c] ∧ p c = true := by
  constructor
  · intro h
    cases h with
    | one h => exact ⟨_, rfl, h⟩
  · rintro ⟨c, rfl, h⟩
    exact .one h

theorem reads_word_iff {t : Text} : Reads (.word t) a r ↔ a = t := by
  constructor
  · intro h
    cases h with
    | word => rfl
  · rintro rfl
    exact .word

theorem reads_seq_iff :
    Reads (.seq e f) a r ↔ ∃ x y, a = x ++ y ∧ Reads e x (y ++ r) ∧ Reads f y r := by
  constructor
  · intro h
    cases h with
    | seq he hf => exact ⟨_, _, rfl, he, hf⟩
  · rintro ⟨x, y, rfl, he, hf⟩
    exact .seq he hf

theorem reads_seq_assoc {g : Expression} :
    Reads (.seq (.seq e f) g) a r ↔ Reads (.seq e (.seq f g)) a r := by
  constructor
  · intro h
    obtain ⟨xy, z, rfl, hxy, hz⟩ := reads_seq_iff.1 h
    obtain ⟨x, y, rfl, hx, hy⟩ := reads_seq_iff.1 hxy
    rw [List.append_assoc]
    exact .seq (by rwa [List.append_assoc]) (.seq hy hz)
  · intro h
    obtain ⟨x, yz, rfl, hx, hyz⟩ := reads_seq_iff.1 h
    obtain ⟨y, z, rfl, hy, hz⟩ := reads_seq_iff.1 hyz
    rw [← List.append_assoc]
    exact .seq (.seq (by rwa [← List.append_assoc]) hy) hz

theorem reads_seq_congr {e' f' : Expression} (he : ∀ a r, Reads e a r ↔ Reads e' a r)
    (hf : ∀ a r, Reads f a r ↔ Reads f' a r) : Reads (.seq e f) a r ↔ Reads (.seq e' f') a r := by
  simp only [reads_seq_iff, he, hf]

theorem reads_alt_iff : Reads (.alt e f) a r ↔ Reads e a r ∨ Reads f a r := by
  constructor
  · intro h
    cases h with
    | left h => exact .inl h
    | right h => exact .inr h
  · rintro (h | h)
    · exact .left h
    · exact .right h

theorem reads_group_iff {mark : String} : Reads (.group mark e) a r ↔ Reads e a r := by
  constructor
  · intro h
    cases h with
    | group h => exact h
  · exact .group

theorem reads_plain_iff : Reads (plain e) a r ↔ Reads e a r := reads_group_iff

theorem reads_wordEnd_iff : Reads .wordEnd a r ↔ a = [] ∧ Text.endsWord r = true := by
  constructor
  · intro h
    cases h with
    | wordEnd h => exact ⟨rfl, h⟩
  · rintro ⟨rfl, h⟩
    exact .wordEnd h

/-! ### Repetitions -/

theorem reads_times_zero_iff : Reads (.times 0 (some 0) e) a r ↔ a = [] := by
  constructor
  · intro h
    cases h with
    | done => rfl
    | again room _ _ => exact absurd rfl room
  · rintro rfl
    exact .done

theorem reads_times_succ_iff {least most : Nat} :
    Reads (.times (least + 1) (some (most + 1)) e) a r ↔
      ∃ x y, a = x ++ y ∧ Reads e x (y ++ r) ∧ Reads (.times least (some most) e) y r := by
  constructor
  · intro h
    cases h with
    | again _ he hs => exact ⟨_, _, rfl, he, hs⟩
  · rintro ⟨x, y, rfl, he, hs⟩
    exact .again (by simp) he hs

/-- A fixed number of repetitions can be read one by one. -/
theorem reads_times_succ_seq_iff {n : Nat} :
    Reads (.seq (.times (n + 1) (some (n + 1)) e) f) a r ↔
      Reads (.seq e (.seq (.times n (some n) e) f)) a r := by
  rw [← reads_seq_assoc]
  refine reads_seq_congr (fun x s => ?_) fun _ _ => Iff.rfl
  rw [reads_times_succ_iff, reads_seq_iff]

theorem reads_times_zero_seq_iff :
    Reads (.seq (.times 0 (some 0) e) f) a r ↔ Reads f a r := by
  rw [reads_seq_iff]
  constructor
  · rintro ⟨x, y, rfl, hx, hy⟩
    rw [reads_times_zero_iff.1 hx]
    exact hy
  · intro h
    exact ⟨[], a, rfl, reads_times_zero_iff.2 rfl, h⟩

theorem reads_optional_iff : Reads e.optional a r ↔ a = [] ∨ Reads e a r := by
  constructor
  · intro h
    cases h with
    | done => exact .inl rfl
    | again _ he hs =>
        obtain rfl := reads_times_zero_iff.1 hs
        rw [List.append_nil]
        exact .inr he
  · rintro (rfl | h)
    · exact .done
    · have hdone : Reads (.times 0 (some 0) e) [] r := .done
      have honce : Reads e.optional (a ++ []) r := .again (by simp) h hdone
      rwa [List.append_nil] at honce

theorem reads_star_nil : Reads e.star [] r := .done

theorem reads_star_append {b : Text} (he : Reads e a (b ++ r)) (hs : Reads e.star b r) :
    Reads e.star (a ++ b) r := .again (by simp) he hs

/-- A repeated class reads the runs of its characters whose length is between the bounds. -/
theorem reads_times_one_iff {shown : String} {p : Char → Bool} {least : Nat}
    {most : Option Nat} :
    Reads (.times least most (.one shown p)) a r ↔
      (∀ c ∈ a, p c = true) ∧ least ≤ a.length ∧ ∀ m, most = some m → a.length ≤ m := by
  -- The induction is on the piece: each repetition takes one character of it.
  induction a generalizing least most with
  | nil =>
      constructor
      · intro h
        generalize hn : ([] : Text) = n at h
        cases h with
        | done => simp
        | again _ he _ =>
            obtain ⟨c, rfl, -⟩ := reads_one_iff.1 he
            simp at hn
      · rintro ⟨-, hl, -⟩
        obtain rfl : least = 0 := Nat.le_zero.1 hl
        exact .done
  | cons d a ih =>
      constructor
      · intro h
        generalize hn : d :: a = n at h
        cases h with
        | done => simp at hn
        | again room he hs =>
            obtain ⟨c, rfl, hc⟩ := reads_one_iff.1 he
            obtain ⟨rfl, rfl⟩ := List.cons.inj hn
            obtain ⟨hall, hl, hm⟩ := ih.1 hs
            refine ⟨List.forall_mem_cons.2 ⟨hc, hall⟩, ?_, ?_⟩
            · show least ≤ a.length + 1
              omega
            · rintro m rfl
              have hpos : m ≠ 0 := fun h => room (h ▸ rfl)
              have := hm (m - 1) rfl
              show a.length + 1 ≤ m
              omega
      · rintro ⟨hall, hl, hm⟩
        obtain ⟨hc, hall⟩ := List.forall_mem_cons.1 hall
        have room : most ≠ some 0 := by
          rintro rfl
          have := hm 0 rfl
          simp at this
        refine Reads.again (a := [d]) room (reads_one_iff.2 ⟨d, rfl, hc⟩) (ih.2 ⟨hall, ?_, ?_⟩)
        · simp only [List.length_cons] at hl
          omega
        · intro m he
          obtain ⟨n, rfl, rfl⟩ := Option.map_eq_some_iff.1 he
          have := hm n rfl
          simp only [List.length_cons] at this
          omega

/-- The alternatives one after another read what one of them reads. -/
theorem reads_oneOf_iff {es : List Expression} :
    Reads (oneOf e es) a r ↔ ∃ f ∈ e :: es, Reads f a r := by
  induction es generalizing e with
  | nil => simp [oneOf]
  | cons f es ih => simp [oneOf, reads_alt_iff, ih]

/-! ### Characters -/

/-- The characters that may occur in what the expression reads. -/
def Allows : Expression → Char → Prop
  | .one _ p, c => p c = true
  | .word t, c => c ∈ t
  | .seq e f, c => e.Allows c ∨ f.Allows c
  | .alt e f, c => e.Allows c ∨ f.Allows c
  | .group _ e, c => e.Allows c
  | .times _ _ e, c => e.Allows c
  | .wordEnd, _ => False

/-- Every character of a piece is one that the expression allows. -/
theorem allows_of_reads {c : Char} (h : Reads e a r) (hc : c ∈ a) : e.Allows c := by
  induction h with
  | one h =>
      rw [List.mem_singleton] at hc
      exact hc ▸ h
  | word => exact hc
  | seq _ _ ihe ihf => exact (List.mem_append.1 hc).imp ihe ihf
  | left _ ih => exact .inl (ih hc)
  | right _ ih => exact .inr (ih hc)
  | group _ ih => exact ih hc
  | done => simp at hc
  | again _ _ _ ihe ihs => exact (List.mem_append.1 hc).elim ihe ihs
  | wordEnd _ => simp at hc

/-! ### Last characters -/

/-- `true` if the expression may read nothing. -/
def skips : Expression → Bool
  | .one _ _ => false
  | .word t => t.isEmpty
  | .seq e f => e.skips && f.skips
  | .alt e f => e.skips || f.skips
  | .group _ e => e.skips
  | .times least _ e => least == 0 || e.skips
  | .wordEnd => true

theorem skips_of_reads_nil (h : Reads e [] r) : e.skips = true := by
  generalize ha : ([] : Text) = a at h
  induction h with
  | one _ => simp at ha
  | word => simp [skips, ← ha]
  | seq _ _ ihe ihf =>
      obtain ⟨hx, hy⟩ := List.append_eq_nil_iff.1 ha.symm
      rw [skips, ihe hx.symm, ihf hy.symm]
      rfl
  | left _ ih => rw [skips, ih ha, Bool.true_or]
  | right _ ih => rw [skips, ih ha, Bool.or_true]
  | group _ ih => exact ih ha
  | done => rfl
  | again _ _ _ ihe _ =>
      obtain ⟨hx, -⟩ := List.append_eq_nil_iff.1 ha.symm
      rw [skips, ihe hx.symm, Bool.or_true]
  | wordEnd _ => rfl

/-- The characters that may come last in what the expression reads. -/
def Ends : Expression → Char → Prop
  | .one _ p, c => p c = true
  | .word t, c => t.getLast? = some c
  | .seq e f, c => f.Ends c ∨ f.skips = true ∧ e.Ends c
  | .alt e f, c => e.Ends c ∨ f.Ends c
  | .group _ e, c => e.Ends c
  | .times _ _ e, c => e.Ends c
  | .wordEnd, _ => False

/-- The last character of two pieces is that of the second one, unless there is nothing of it. -/
theorem getLast?_append_cases {a b : Text} {c : Char} (h : (a ++ b).getLast? = some c) :
    b.getLast? = some c ∨ b = [] ∧ a.getLast? = some c := by
  cases hb : b.getLast? with
  | none =>
      obtain rfl := List.getLast?_eq_none_iff.1 hb
      rw [List.append_nil] at h
      exact .inr ⟨rfl, h⟩
  | some d =>
      rw [List.getLast?_append, hb, Option.some_or] at h
      exact .inl h

/-- A piece ends in a character that the expression allows at the end. -/
theorem ends_of_reads {c : Char} (h : Reads e a r) (hc : a.getLast? = some c) : e.Ends c := by
  induction h with
  | one h =>
      rw [List.getLast?_singleton, Option.some.injEq] at hc
      exact hc ▸ h
  | word => exact hc
  | seq _ hf ihe ihf =>
      rcases getLast?_append_cases hc with hlast | ⟨rfl, hlast⟩
      · exact .inl (ihf hlast)
      · exact .inr ⟨skips_of_reads_nil hf, ihe hlast⟩
  | left _ ih => exact .inl (ih hc)
  | right _ ih => exact .inr (ih hc)
  | group _ ih => exact ih hc
  | done => simp at hc
  | again _ _ _ ihe ihs =>
      rcases getLast?_append_cases hc with hlast | ⟨-, hlast⟩
      · exact ihs hlast
      · exact ihe hlast
  | wordEnd _ => simp at hc

end BareUrl.Url.Expression
