import BareUrl.Markup.Reference
import BareUrl.Provider.Known

/-!
# `BareUrl.Proofs.Provider.Wildcard`: what a pattern stands for

A pattern stands for the texts that it becomes when each of its asterisks is replaced by a run of
characters (`Wildcard.Fills`). Which characters a run may have is a parameter: for a provider they
are all but the line feed.

The table of `Wildcard.fitsFrom` for a text ends with the table for the text without its first
character (`fitsFrom_cons`). So its first entry obeys the equations of a search that tries every
length of a run (`fits_asterisk_cons` and the others), and these are the ways to build `Fills`:
`fits_iff`.

A URL that is read from markup can hold a line feed, written as a reference. No run takes it, so a
pattern that stands for all that a site serves does not fit such a URL (`not_serves_line_feed`).
-/

set_option autoImplicit false

namespace BareUrl.Provider

namespace Wildcard

/-- The text is the pattern with each asterisk replaced by a run of characters that are allowed in
runs. All other characters of the pattern stand for themselves. -/
inductive Fills (allowed : Char → Prop) : Text → Text → Prop where
  | done : Fills allowed [] []
  | literal {c : Char} {pattern t : Text} (hc : c ≠ '*') (h : Fills allowed pattern t) :
      Fills allowed (c :: pattern) (c :: t)
  | run {run pattern t : Text} (hrun : ∀ d ∈ run, allowed d) (h : Fills allowed pattern t) :
      Fills allowed ('*' :: pattern) (run ++ t)

section
variable {allowed : Char → Prop} {c d : Char} {pattern t : Text}

theorem fills_nil_iff : Fills allowed [] t ↔ t = [] := by
  constructor
  · intro h
    cases h with
    | done => rfl
  · rintro rfl
    exact .done

theorem fills_literal_iff (hc : c ≠ '*') :
    Fills allowed (c :: pattern) t ↔ ∃ t', t = c :: t' ∧ Fills allowed pattern t' := by
  constructor
  · intro h
    cases h with
    | literal _ h => exact ⟨_, rfl, h⟩
    | run _ _ => exact absurd rfl hc
  · rintro ⟨t', rfl, h⟩
    exact .literal hc h

theorem fills_asterisk_iff :
    Fills allowed ('*' :: pattern) t ↔
      ∃ run t', t = run ++ t' ∧ (∀ d ∈ run, allowed d) ∧ Fills allowed pattern t' := by
  constructor
  · intro h
    cases h with
    | literal hc _ => exact absurd rfl hc
    | run hrun h => exact ⟨_, _, rfl, hrun, h⟩
  · rintro ⟨run, t', rfl, hrun, h⟩
    exact .run hrun h

/-- A run in front of a text is empty, or it takes the first character and goes on behind it. -/
theorem fills_asterisk_cons_iff :
    Fills allowed ('*' :: pattern) (d :: t) ↔
      Fills allowed pattern (d :: t) ∨ allowed d ∧ Fills allowed ('*' :: pattern) t := by
  rw [fills_asterisk_iff, fills_asterisk_iff]
  constructor
  · rintro ⟨run, t', ht, hrun, h⟩
    cases run with
    | nil =>
        rw [List.nil_append] at ht
        exact .inl (ht ▸ h)
    | cons c run =>
        obtain ⟨rfl, rfl⟩ := List.cons.inj ht
        obtain ⟨hd, hrun⟩ := List.forall_mem_cons.1 hrun
        exact .inr ⟨hd, run, t', rfl, hrun, h⟩
  · rintro (h | ⟨hd, run, t', rfl, hrun, h⟩)
    · exact ⟨[], d :: t, rfl, by simp, h⟩
    · exact ⟨d :: run, t', rfl, List.forall_mem_cons.2 ⟨hd, hrun⟩, h⟩

/-- Text without an asterisk in front of a pattern stands for itself. -/
theorem Fills.append_literal (h : Fills allowed pattern t) {s : Text} (hs : '*' ∉ s) :
    Fills allowed (s ++ pattern) (s ++ t) := by
  induction s with
  | nil => exact h
  | cons c s ih =>
      rw [List.mem_cons, not_or] at hs
      exact .literal (Ne.symm hs.1) (ih hs.2)

/-- Runs of a text are made of its characters, so only these have to be allowed. -/
theorem Fills.of_allowed {allowed' : Char → Prop} (h : Fills allowed pattern t)
    (hall : ∀ d ∈ t, allowed d → allowed' d) : Fills allowed' pattern t := by
  induction h with
  | done => exact .done
  | literal hc _ ih => exact .literal hc (ih fun d hd => hall d (List.mem_cons_of_mem _ hd))
  | run hrun _ ih =>
      refine .run (fun d hd => ?_) (ih fun d hd => ?_)
      · exact hall d (List.mem_append_left _ hd) (hrun d hd)
      · exact hall d (List.mem_append_right _ hd)

end

/-! ### The table -/

variable (c d : Char) (pattern t : Text)

/-- The table for a text ends with the table for what is behind its first character. -/
theorem fitsFrom_cons :
    fitsFrom (d :: t) pattern = fits pattern (d :: t) :: fitsFrom t pattern := by
  rw [fits]
  induction pattern with
  | nil => rfl
  | cons c pattern ih =>
      rw [fitsFrom, fitsFrom, ih]
      split <;> rfl

theorem fits_nil_nil : fits [] [] = true := rfl

theorem fits_nil_cons : fits [] (d :: t) = false := rfl

theorem fits_asterisk_nil : fits ('*' :: pattern) [] = fits pattern [] := by
  rw [fits, fitsFrom, if_pos rfl]
  cases h : fitsFrom [] pattern with
  | nil => rw [fits, h]; rfl
  | cons b fit => rw [fits, h]; rfl

theorem fits_asterisk_cons :
    fits ('*' :: pattern) (d :: t)
      = (fits pattern (d :: t) || (d != '\n' && fits ('*' :: pattern) t)) := by
  rw [fits, fitsFrom, if_pos rfl, fitsFrom_cons]
  show (_ || (d != '\n' && (anyRun t (fitsFrom t pattern)).headD false)) = _
  rw [fits.eq_def ('*' :: pattern) t, fitsFrom, if_pos rfl]

theorem fits_literal_nil (hc : c ≠ '*') : fits (c :: pattern) [] = false := by
  rw [fits, fitsFrom, if_neg hc]
  rfl

theorem fits_literal_cons (hc : c ≠ '*') :
    fits (c :: pattern) (d :: t) = (c == d && fits pattern t) := by
  rw [fits, fitsFrom, if_neg hc, fitsFrom_cons]
  rfl

/-- A pattern fits a text that it becomes when its asterisks are replaced by runs without a line
feed. -/
theorem fits_iff : fits pattern t = true ↔ Fills (· ≠ '\n') pattern t := by
  induction pattern generalizing t with
  | nil =>
      cases t with
      | nil => simp [fits_nil_nil, fills_nil_iff]
      | cons d t => simp [fits_nil_cons, fills_nil_iff]
  | cons c pattern ih =>
      by_cases hc : c = '*'
      · subst hc
        -- The induction on the text tries one more character for the run.
        induction t with
        | nil =>
            rw [fits_asterisk_nil, ih, fills_asterisk_iff]
            constructor
            · exact fun h => ⟨[], [], rfl, by simp, h⟩
            · rintro ⟨run, t', ht, -, h⟩
              obtain ⟨-, rfl⟩ := List.append_eq_nil_iff.1 ht.symm
              exact h
        | cons d t iht =>
            rw [fits_asterisk_cons, fills_asterisk_cons_iff, Bool.or_eq_true, Bool.and_eq_true,
              bne_iff_ne, ih, iht]
      · rw [fills_literal_iff hc]
        cases t with
        | nil => simp [fits_literal_nil c pattern hc]
        | cons d t =>
            rw [fits_literal_cons c d pattern t hc, Bool.and_eq_true, beq_iff_eq, ih]
            constructor
            · rintro ⟨rfl, h⟩
              exact ⟨t, rfl, h⟩
            · rintro ⟨t', ht, h⟩
              obtain ⟨rfl, rfl⟩ := List.cons.inj ht
              exact ⟨rfl, h⟩

end Wildcard

open Wildcard (Fills)

/-- A provider serves the URLs that one of its patterns becomes when each asterisk is replaced by a
run of characters, all but the line feed. So for a URL without a line feed the runs may be any. -/
theorem serves_iff (p : Provider) (url : Text) :
    (p.serves url = true ↔ ∃ s ∈ p.schemes, Fills (· ≠ '\n') s url) ∧
      ('\n' ∉ url →
        (p.serves url = true ↔ ∃ s ∈ p.schemes, Fills (fun _ => True) s url)) := by
  have hserves : p.serves url = true ↔ ∃ s ∈ p.schemes, Fills (· ≠ '\n') s url := by
    rw [serves, List.any_eq_true]
    simp only [Wildcard.fits_iff]
  refine ⟨hserves, fun hurl => ?_⟩
  rw [hserves]
  have hsame (s : Text) : Fills (· ≠ '\n') s url ↔ Fills (fun _ => True) s url :=
    ⟨fun h => h.of_allowed fun _ _ _ => trivial,
      fun h => h.of_allowed fun d hd _ hfeed => hurl (hfeed ▸ hd)⟩
  simp only [hsame]

/-- Only the second place of the host leaves something for what is behind the first asterisk, and
the last run is empty. -/
theorem serves_iff_host :
    let p := web "Flickr" "www.flickr.com" ["oembed"] ["https://*.flickr.com/photos/*"]
    let url := "https://a.flickr.com.flickr.com/photos/".toList
    '\n' ∉ url ∧ p.serves url = true ∧ ∃ s ∈ p.schemes, Fills (fun _ => True) s url := by
  intro p url
  have hurl : '\n' ∉ url := by decide
  have hserves : p.serves url = true := by decide
  exact ⟨hurl, hserves, ((serves_iff p url).2 hurl).1 hserves⟩

/-- A URL of a site whose pattern ends in an asterisk, with a line feed that is written as a
reference in the markup: the pattern stands for it, and does not fit. -/
theorem not_serves_line_feed :
    let p := web "YouTube" "www.youtube.com" ["oembed"] ["https://youtu.be/*"]
    let url := Markup.decode "https://youtu.be/a&#10;b".toList
    url = "https://youtu.be/a\nb".toList ∧
      ¬ (p.serves url = true ↔ ∃ s ∈ p.schemes, Fills (fun _ => True) s url) := by
  intro p url
  have hurl : url = "https://youtu.be/".toList ++ "a\nb".toList := by decide +kernel
  have hserves : p.serves url = false := by
    rw [hurl]
    decide
  refine ⟨hurl, fun h => ?_⟩
  -- The run is all that stands behind the host.
  have hrun : Fills (fun _ => True) ['*'] "a\nb".toList :=
    Wildcard.fills_asterisk_iff.2
      ⟨_, [], (List.append_nil _).symm, fun _ _ => trivial, .done⟩
  have hhost : '*' ∉ "https://youtu.be/".toList := by decide
  have hfills : Fills (fun _ => True) "https://youtu.be/*".toList url := by
    rw [hurl]
    exact hrun.append_literal hhost
  rw [h.2 ⟨_, List.mem_singleton_self _, hfills⟩] at hserves
  cases hserves

end BareUrl.Provider
