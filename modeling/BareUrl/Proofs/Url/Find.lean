import BareUrl.Proofs.Text.Cut
import BareUrl.Proofs.Text.Scan
import BareUrl.Proofs.Url.Complete

/-!
# `BareUrl.Proofs.Url.Find`: all URLs are found, from left to right

`Grammar.Starts g t` says that a leader and a URL of the grammar stand at the start of the text,
with any parse of the URL. The recogniser of the grammar, which tries one parse only, recognises
something at exactly these places (`isSome_here_iff`). So what is found is a URL, and none starts
in a gap: `find_spec`.

`find_induct` is the induction along the URLs that are found.
-/

set_option autoImplicit false

namespace BareUrl.Text

theorem foldl_utf8Size (n : Nat) (t : Text) :
    t.foldl (fun n c => n + c.utf8Size) n = n + utf8Size t := by
  induction t generalizing n with
  | nil => rfl
  | cons c t ih =>
      have hc : utf8Size (c :: t) = 0 + c.utf8Size + utf8Size t := ih (0 + c.utf8Size)
      rw [List.foldl_cons, ih, hc]
      omega

theorem utf8Size_append (s t : Text) : utf8Size (s ++ t) = utf8Size s + utf8Size t := by
  rw [utf8Size, List.foldl_append, foldl_utf8Size]
  rfl

end BareUrl.Text

namespace BareUrl.Url.Grammar

variable {g : Grammar}

/-- The leader and a URL of the grammar stand at the start of the text. -/
def Starts (g : Grammar) (t : Text) : Prop :=
  ∃ u r, t = g.leader ++ u ++ r ∧ g.urlExpression.Reads u r

theorem here_eq_some {t : Text} {s : Start Found t} (h : g.here t = some s) :
    s.token.matched = g.leader ++ s.token.url ∧ t = s.token.matched ++ s.rest ∧
      g.url (s.token.url ++ s.rest) = some (s.token.url, s.rest) := by
  unfold here at h
  split at h
  · simp at h
  · rename_i after hafter
    split at h
    · simp at h
    · rename_i u rest hu
      obtain rfl := Option.some.inj h
      have hsplit := g.lossless_url _ _ _ hu
      refine ⟨rfl, ?_, ?_⟩
      · show t = g.leader ++ u ++ rest
        rw [Text.stripLead_eq_some_iff.1 hafter, hsplit, List.append_assoc]
      · rw [← hsplit]
        exact hu

theorem isSome_here_iff_url {t : Text} :
    (g.here t).isSome ↔ ∃ after, t = g.leader ++ after ∧ (g.url after).isSome := by
  constructor
  · intro h
    obtain ⟨s, hs⟩ := Option.isSome_iff_exists.1 h
    obtain ⟨hm, ht, hu⟩ := here_eq_some hs
    exact ⟨s.token.url ++ s.rest, by rw [← List.append_assoc, ← hm, ← ht], by rw [hu]; rfl⟩
  · rintro ⟨after, rfl, h⟩
    have hstrip : Text.stripLead g.leader (g.leader ++ after) = some after :=
      Text.stripLead_eq_some_iff.2 rfl
    unfold here
    split
    · rename_i hnone
      rw [hstrip] at hnone
      simp at hnone
    · rename_i after' hafter'
      rw [hstrip, Option.some.injEq] at hafter'
      subst hafter'
      split
      · rename_i hnone
        rw [hnone] at h
        simp at h
      · rfl

/-- The recogniser recognises a URL wherever there is any parse of one. -/
theorem isSome_here_iff {t : Text} : (g.here t).isSome ↔ g.Starts t := by
  rw [isSome_here_iff_url]
  constructor
  · rintro ⟨after, rfl, h⟩
    obtain ⟨⟨u, r⟩, hu⟩ := Option.isSome_iff_exists.1 h
    refine ⟨u, r, ?_, sound_url g _ _ _ hu⟩
    rw [g.lossless_url _ _ _ hu, List.append_assoc]
  · -- The parse that is tried may be another one, but it does not fail.
    rintro ⟨u, r, rfl, h⟩
    exact ⟨u ++ r, by rw [List.append_assoc], complete_url g _ _ h⟩

theorem not_starts_nil : ¬ g.Starts [] := by
  rw [← isSome_here_iff]
  intro h
  obtain ⟨s, -⟩ := Option.isSome_iff_exists.1 h
  exact absurd s.shorter (by simp)

theorem silent_iff {t : Text} :
    g.here.Silent t ↔ ∀ x y, t = x ++ y → ¬ g.Starts y := by
  constructor
  · intro h x y ht hy
    have hne : y ≠ [] := by
      rintro rfl
      exact not_starts_nil hy
    exact h x y ht hne (isSome_here_iff.2 hy)
  · exact fun h x y ht _ hy => h x y ht (isSome_here_iff.1 hy)

/-- No URL starts in the gap in front of the text. -/
def ClearBefore (g : Grammar) (gap t : Text) : Prop :=
  ∀ x y, gap = x ++ y → y ≠ [] → ¬ g.Starts (y ++ t)

theorem silentBefore_iff {gap t : Text} : g.here.SilentBefore gap t ↔ g.ClearBefore gap t := by
  simp only [Recogniser.SilentBefore, ClearBefore, isSome_here_iff]

/-- A property of all texts: of those in which no URL starts, and kept by a gap and a URL in
front. -/
@[elab_as_elim]
theorem find_induct {motive : Text → Prop} (g : Grammar)
    (silent : ∀ t, (∀ x y, t = x ++ y → ¬ g.Starts y) → g.find t = .leaf t → motive t)
    (url : ∀ gap f rest, f.matched = g.leader ++ f.url →
      g.url (f.url ++ rest) = some (f.url, rest) → g.ClearBefore gap (f.matched ++ rest) →
      g.find (gap ++ (f.matched ++ rest)) = (g.find rest).cons gap f → motive rest →
      motive (gap ++ (f.matched ++ rest))) (t : Text) : motive t := by
  induction t using Recogniser.leftmost_induct g.here with
  | silent t h => exact silent t (silent_iff.1 h) (Recogniser.run_leftmost_of_silent h)
  | token gap t s hs hgap ih =>
      have hfind : g.find (gap ++ t) = (g.find s.rest).cons gap s.token :=
        Recogniser.run_leftmost_of_here hs hgap
      obtain ⟨hled, ht, hurl⟩ := here_eq_some hs
      rw [silentBefore_iff] at hgap
      generalize s.token = f at hled ht hurl hfind
      generalize s.rest = rest at ht hurl hfind ih
      subst ht
      exact url gap f rest hled hurl hgap hfind ih

/-! ### What is found -/

theorem find_nil : g.find [] = .leaf [] := by
  rw [find, Scan.run]
  rfl

theorem render_find (g : Grammar) (t : Text) : (g.find t).render Found.matched = t := by
  induction t using find_induct g with
  | silent t _ hfind => rw [hfind, Cut.render_leaf]
  | url gap f rest _ _ _ hfind ih =>
      rw [hfind, Cut.render_cons, ih, List.append_assoc]

/-- What is found is a leader and a URL, which are read with the text behind them, and no URL
starts in the gap before them. -/
theorem of_mem_find {t gap : Text} {f : Found} {before after : List (Text × Found)}
    (h : (g.find t).parts = before ++ (gap, f) :: after) :
    f.matched = g.leader ++ f.url ∧
      g.urlExpression.Reads f.url ((Cut.mk after (g.find t).last).render Found.matched) ∧
      g.ClearBefore gap (f.matched ++ (Cut.mk after (g.find t).last).render Found.matched) := by
  induction t using find_induct g generalizing before with
  | silent t _ hfind =>
      rw [hfind] at h
      simp [Cut.leaf] at h
  | url gap' f' rest hled hurl hclear hfind ih =>
      rw [hfind] at h ⊢
      cases before with
      | nil =>
          obtain ⟨hpart, rfl⟩ := List.cons.inj h
          obtain ⟨rfl, rfl⟩ := Prod.mk.inj hpart
          have hrest : (Cut.mk (g.find rest).parts (g.find rest).last).render Found.matched
              = rest := render_find g rest
          show _ ∧ g.urlExpression.Reads _ ((Cut.mk _ (g.find rest).last).render _) ∧
            g.ClearBefore _ (_ ++ (Cut.mk _ (g.find rest).last).render _)
          rw [hrest]
          exact ⟨hled, sound_url g _ _ _ hurl, hclear⟩
      | cons part before => exact ih (List.cons.inj h).2

theorem exists_url_of_mem_find {t : Text} {f : Found} (h : f ∈ (g.find t).tokens) :
    f.matched = g.leader ++ f.url ∧ ∃ rest, g.url (f.url ++ rest) = some (f.url, rest) := by
  induction t using find_induct g with
  | silent t _ hfind =>
      rw [hfind] at h
      simp at h
  | url gap f' rest hled hurl hclear hfind ih =>
      rw [hfind, Cut.tokens_cons] at h
      rcases List.mem_cons.1 h with rfl | h
      · exact ⟨hled, rest, hurl⟩
      · exact ih h

/-- What is found holds no delimiter in its URL. -/
theorem not_mem_url_of_mem_find {t : Text} {f : Found} {d : Char} (hd : isDelimiter d = true)
    (h : f ∈ (g.find t).tokens) : d ∉ f.url := by
  obtain ⟨-, rest, hurl⟩ := exists_url_of_mem_find h
  exact not_mem_of_reads_urlExpression hd (sound_url g _ _ _ hurl)

/-- No URL starts behind the last one that is found. -/
theorem not_starts_last {t x y : Text} (h : (g.find t).last = x ++ y) : ¬ g.Starts y := by
  induction t using find_induct g with
  | silent t hclear hfind =>
      rw [hfind] at h
      exact hclear x y h
  | url gap f rest _ _ _ hfind ih =>
      rw [hfind] at h
      exact ih h

theorem isMatch_iff {t : Text} : g.isMatch t = true ↔ ∃ x y, t = x ++ y ∧ g.Starts y := by
  have hnone : ¬ g.isMatch t = true ↔ ∀ x y, t = x ++ y → ¬ g.Starts y := by
    rw [isMatch, Option.not_isSome_iff_eq_none, Recogniser.leftmost_eq_none_iff, silent_iff]
  constructor
  · intro h
    refine Classical.byContradiction fun hno => hnone.2 (fun x y ht hy => ?_) h
    exact hno ⟨x, y, ht, hy⟩
  · rintro ⟨x, y, ht, hy⟩
    refine Classical.byContradiction fun hno => ?_
    exact hnone.1 hno x y ht hy

/-! ### Spans -/

/-- A span is counted in bytes from the start of the text to a URL that is found, and to its
end. -/
theorem of_mem_spansFrom {offset start stop : Nat} {f : Found} {parts : List (Text × Found)}
    (h : (start, stop, f) ∈ spansFrom offset parts) :
    ∃ before gap after, parts = before ++ (gap, f) :: after ∧
      start = offset + Text.utf8Size ((Cut.mk before gap).render Found.matched) ∧
      stop = start + Text.utf8Size f.matched := by
  induction parts generalizing offset with
  | nil => simp [spansFrom] at h
  | cons part parts ih =>
      obtain ⟨gap, f'⟩ := part
      rw [spansFrom, List.mem_cons] at h
      rcases h with h | h
      · simp only [Prod.mk.injEq] at h
        obtain ⟨hstart, hstop, rfl⟩ := h
        exact ⟨[], gap, parts, rfl, hstart, by rw [hstop, hstart]⟩
      · obtain ⟨before, gap', after, rfl, hstart, hstop⟩ := ih h
        refine ⟨(gap, f') :: before, gap', after, rfl, ?_, hstop⟩
        have hrender : (Cut.mk ((gap, f') :: before) gap').render Found.matched
            = gap ++ f'.matched ++ (Cut.mk before gap').render Found.matched :=
          Cut.render_cons _ _ _ ⟨before, gap'⟩
        rw [hstart, hrender, Text.utf8Size_append, Text.utf8Size_append]
        omega

theorem map_spansFrom (offset : Nat) (parts : List (Text × Found)) :
    (spansFrom offset parts).map (fun s => s.2.2) = parts.map Prod.snd := by
  induction parts generalizing offset with
  | nil => rfl
  | cons part parts ih => rw [spansFrom, List.map_cons, ih, List.map_cons]

theorem pairwise_spansFrom (offset : Nat) (parts : List (Text × Found)) :
    (spansFrom offset parts).Pairwise fun a b => a.2.1 ≤ b.1 := by
  induction parts generalizing offset with
  | nil => exact .nil
  | cons part parts ih =>
      refine List.pairwise_cons.2 ⟨fun s hs => ?_, ih _⟩
      obtain ⟨start, stop, f⟩ := s
      obtain ⟨_, _, _, -, hstart, -⟩ := of_mem_spansFrom hs
      show _ ≤ start
      rw [hstart]
      exact Nat.le_add_right _ _

/-- The URLs of a text are found in order and apart from each other, each a leader and a URL of
the grammar that is read with the text behind it; no place before, between or behind them starts
another one. -/
theorem find_spec (g : Grammar) (t : Text) :
    (g.find t).render Found.matched = t ∧
    (∀ before gap f after, (g.find t).parts = before ++ (gap, f) :: after →
      f.matched = g.leader ++ f.url ∧
      g.urlExpression.Reads f.url ((Cut.mk after (g.find t).last).render Found.matched) ∧
      ∀ x y, gap = x ++ y → y ≠ [] →
        ¬ g.Starts (y ++ (f.matched ++ (Cut.mk after (g.find t).last).render Found.matched))) ∧
    (∀ x y, (g.find t).last = x ++ y → ¬ g.Starts y) ∧
    (g.spans t).map (fun s => s.2.2) = (g.find t).tokens ∧
    (∀ start stop f, (start, stop, f) ∈ g.spans t →
      ∃ before gap after, (g.find t).parts = before ++ (gap, f) :: after ∧
        start = Text.utf8Size ((Cut.mk before gap).render Found.matched) ∧
        stop = start + Text.utf8Size f.matched) ∧
    (g.spans t).Pairwise (fun a b => a.2.1 ≤ b.1) ∧
    (g.isMatch t = true ↔ ∃ x y, t = x ++ y ∧ g.Starts y) := by
  refine ⟨render_find g t, fun _ _ _ _ h => of_mem_find h, fun _ _ h => not_starts_last h,
    map_spansFrom 0 _, fun start stop f h => ?_, pairwise_spansFrom 0 _, isMatch_iff⟩
  obtain ⟨before, gap, after, hparts, hstart, hstop⟩ := of_mem_spansFrom h
  exact ⟨before, gap, after, hparts, by rw [hstart, Nat.zero_add], hstop⟩

end BareUrl.Url.Grammar
