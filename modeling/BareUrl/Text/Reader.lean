import BareUrl.Text.Basic

/-!
# `BareUrl.Text.Reader`: readers of a piece at the front of a text

A reader takes a piece off the front of a text, or finds none. The combinators here compose
readers without going back: `p.seq q` reads `p` in the one way `p` reads, and then `q`. A grammar
whose parts are determined by the text, like that of URLs, needs no more.

Every reader is lossless: the piece and what follows it are the text (`Reader.Lossless`). Each
combinator keeps that law.
-/

set_option autoImplicit false

namespace BareUrl

/-- A reader: the piece it takes off the front of a text, and what follows. -/
abbrev Reader := Text → Option (Text × Text)

namespace Reader

/-- The reader loses nothing: piece and rest make up the text. -/
def Lossless (p : Reader) : Prop := ∀ t a r, p t = some (a, r) → t = a ++ r

/-- Reads one literal. -/
def literal (w : Text) : Reader := fun t => (Text.stripLead w t).map fun r => (w, r)

/-- Reads the longest run of characters with a property, which may be empty. -/
def run (p : Char → Bool) : Reader := fun t => some (t.takeWhile p, t.dropWhile p)

/-- Reads the longest run of characters with a property, at least one. -/
def run1 (p : Char → Bool) : Reader := fun t =>
  match t.takeWhile p with
  | [] => none
  | c :: cs => some (c :: cs, t.dropWhile p)

/-- Reads one piece and then another right behind it. -/
def seq (p q : Reader) : Reader := fun t =>
  match p t with
  | none => none
  | some (a, r) =>
    match q r with
    | none => none
    | some (b, r') => some (a ++ b, r')

/-- Reads with `p`, or with `q` if `p` finds nothing. -/
def orElse (p q : Reader) : Reader := fun t => (p t).or (q t)

/-- Reads with `p`, or nothing at all. -/
def optional (p : Reader) : Reader := fun t => some ((p t).getD ([], t))

/-- Reads with the first of the readers that finds something. -/
def first : List Reader → Reader
  | [] => fun _ => none
  | p :: ps => p.orElse (first ps)

theorem lossless_literal (w : Text) : (literal w).Lossless := by
  intro t a r h
  obtain ⟨r', hr, he⟩ := Option.map_eq_some_iff.1 h
  simp only [Prod.mk.injEq] at he
  obtain ⟨rfl, rfl⟩ := he
  exact Text.stripLead_eq_some_iff.1 hr

theorem lossless_run (p : Char → Bool) : (run p).Lossless := by
  intro t a r h
  simp only [run, Option.some.injEq, Prod.mk.injEq] at h
  obtain ⟨rfl, rfl⟩ := h
  exact (List.takeWhile_append_dropWhile).symm

theorem lossless_run1 (p : Char → Bool) : (run1 p).Lossless := by
  intro t a r h
  unfold run1 at h
  split at h
  · simp at h
  · rename_i c cs hc
    simp only [Option.some.injEq, Prod.mk.injEq] at h
    obtain ⟨rfl, rfl⟩ := h
    rw [← hc]
    exact (List.takeWhile_append_dropWhile).symm

theorem Lossless.seq {p q : Reader} (hp : p.Lossless) (hq : q.Lossless) :
    (p.seq q).Lossless := by
  intro t a r h
  unfold Reader.seq at h
  split at h
  · simp at h
  · rename_i a₁ r₁ h₁
    split at h
    · simp at h
    · rename_i b r₂ h₂
      simp only [Option.some.injEq, Prod.mk.injEq] at h
      obtain ⟨rfl, rfl⟩ := h
      rw [hp _ _ _ h₁, hq _ _ _ h₂, List.append_assoc]

theorem Lossless.orElse {p q : Reader} (hp : p.Lossless) (hq : q.Lossless) :
    (p.orElse q).Lossless := by
  intro t a r h
  rcases Option.or_eq_some_iff.1 h with h | ⟨_, h⟩
  · exact hp _ _ _ h
  · exact hq _ _ _ h

theorem Lossless.optional {p : Reader} (hp : p.Lossless) : p.optional.Lossless := by
  intro t a r h
  unfold Reader.optional at h
  cases hpt : p t with
  | none =>
    simp only [hpt, Option.getD_none, Option.some.injEq, Prod.mk.injEq] at h
    obtain ⟨rfl, rfl⟩ := h
    rfl
  | some x =>
    simp only [hpt, Option.getD_some, Option.some.injEq] at h
    subst h
    exact hp _ _ _ hpt

theorem lossless_first {ps : List Reader} (h : ∀ p ∈ ps, p.Lossless) : (first ps).Lossless := by
  induction ps with
  | nil => intro t a r h'; simp [first] at h'
  | cons p ps ih =>
    exact (h p (by simp)).orElse (ih fun q hq => h q (by simp [hq]))

end Reader

end BareUrl
