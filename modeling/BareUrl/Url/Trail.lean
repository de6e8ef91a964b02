import BareUrl.Text.Reader
import BareUrl.Url.Alphabet

/-!
# `BareUrl.Url.Trail`: paths and queries

Behind the host there may be a slash, paths and a query, and each takes as much as it can.

A path is made of path characters and of parenthesised groups of them, which do not nest. It ends
in one of the characters a path may end in, or it is one group on its own. So where several paths
follow each other, the first is the longest stretch of characters and groups that ends properly
(`stretch`), and only groups can follow it: any later proper end would have made the stretch
longer. A path may also be an `@`, path characters and a slash, but that is a stretch as well.

A query is a question mark and query characters, up to the last one a query may end in.
-/

set_option autoImplicit false

namespace BareUrl.Url

/-- Reads a parenthesised group. A parenthesis is no path character, so the group ends with the
run of path characters in it or not at all. -/
def group : Reader :=
  Reader.seq (.literal ['(']) (Reader.seq (.run1 isPathChar) (.literal [')']))

theorem lossless_group : group.Lossless :=
  (Reader.lossless_literal _).seq ((Reader.lossless_run1 _).seq (Reader.lossless_literal _))

/-- A group is not empty, so what follows it is shorter than the text. -/
theorem length_lt_of_group {t a r : Text} (h : group t = some (a, r)) : r.length < t.length := by
  have ht := lossless_group t a r h
  cases a with
  | nil =>
    exfalso
    unfold group Reader.seq at h
    split at h
    · simp at h
    · rename_i a₁ r₁ h₁
      split at h
      · simp at h
      · obtain ⟨_, _, he⟩ := Option.map_eq_some_iff.1 h₁
        simp only [Prod.mk.injEq] at he
        simp [← he.1] at h
  | cons c a =>
    rw [ht, List.length_append, List.length_cons]
    omega

/-- Reads the longest stretch of path characters and groups whose last character is one that a
path may end in, outside the groups. -/
def stretch (t : Text) : Option (Text × Text) :=
  match t with
  | [] => none
  | c :: rest =>
    if isPathChar c then
      match stretch rest with
      | some (s, r) => some (c :: s, r)
      | none => if isPathEnd c then some ([c], rest) else none
    else
      match h : group (c :: rest) with
      | some (g, r) =>
        have _shorter := length_lt_of_group h
        (stretch r).map fun (s, r') => (g ++ s, r')
      | none => none
termination_by t.length
decreasing_by
  · simp
  · assumption

/-- Reads as many groups as follow each other. -/
def groups (t : Text) : Text × Text :=
  match h : group t with
  | some (g, r) =>
    have _shorter := length_lt_of_group h
    (g ++ (groups r).1, (groups r).2)
  | none => ([], t)
termination_by t.length
decreasing_by all_goals assumption

/-- Reads as many paths as follow each other. -/
def paths : Reader := Reader.seq (.optional stretch) fun t => some (groups t)

/-- Reads query characters up to the last one that a query may end in. -/
def queryBody : Reader
  | [] => none
  | c :: rest =>
    if isQueryChar c then
      match queryBody rest with
      | some (q, r) => some (c :: q, r)
      | none => if isQueryEnd c then some ([c], rest) else none
    else none

/-- Reads a query with its question mark. -/
def query : Reader := Reader.seq (.literal ['?']) queryBody

/-- Reads what follows the host, which may be nothing. -/
def trail : Reader :=
  Reader.seq (.optional (.literal ['/'])) (paths.seq query.optional)

theorem lossless_stretch : Reader.Lossless stretch := by
  intro t
  fun_induction stretch t with
  | case1 => intro a r h; simp at h
  | case2 c rest hc s r hs ih =>
    intro a r' h
    simp only [Option.some.injEq, Prod.mk.injEq] at h
    obtain ⟨rfl, rfl⟩ := h
    simp [← ih _ _ hs]
  | case3 c rest hc hs he ih =>
    intro a r h
    simp only [Option.some.injEq, Prod.mk.injEq] at h
    obtain ⟨rfl, rfl⟩ := h
    rfl
  | case4 c rest hc hs he ih => intro a r h; simp at h
  | case5 c rest hc g r hg _ ih =>
    intro a r' h
    obtain ⟨⟨s, r₂⟩, hs, he⟩ := Option.map_eq_some_iff.1 h
    simp only [Prod.mk.injEq] at he
    obtain ⟨rfl, rfl⟩ := he
    rw [lossless_group _ _ _ hg, ih _ _ hs, List.append_assoc]
  | case6 c rest hc hg => intro a r h; simp at h

theorem groups_append (t : Text) : t = (groups t).1 ++ (groups t).2 := by
  fun_induction groups t with
  | case1 t g r hg _ ih => rw [lossless_group _ _ _ hg, List.append_assoc, ← ih]
  | case2 t hg => rfl

theorem lossless_paths : paths.Lossless := by
  refine Reader.Lossless.seq (Reader.Lossless.optional lossless_stretch) ?_
  intro t a r h
  simp only [Option.some.injEq] at h
  have := groups_append t
  rw [h] at this
  exact this

theorem lossless_queryBody : queryBody.Lossless := by
  intro t
  induction t with
  | nil => intro a r h; simp [queryBody] at h
  | cons c rest ih =>
    intro a r h
    unfold queryBody at h
    split at h
    · split at h
      · rename_i q r' hq
        simp only [Option.some.injEq, Prod.mk.injEq] at h
        obtain ⟨rfl, rfl⟩ := h
        simp [← ih _ _ hq]
      · split at h
        · simp only [Option.some.injEq, Prod.mk.injEq] at h
          obtain ⟨rfl, rfl⟩ := h
          rfl
        · simp at h
    · simp at h

theorem lossless_query : query.Lossless :=
  (Reader.lossless_literal _).seq lossless_queryBody

theorem lossless_trail : trail.Lossless :=
  (Reader.Lossless.optional (Reader.lossless_literal _)).seq
    (lossless_paths.seq (Reader.Lossless.optional lossless_query))

end BareUrl.Url
