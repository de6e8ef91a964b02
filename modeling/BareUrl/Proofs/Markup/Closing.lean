import BareUrl.Proofs.Markup.Exclusion

/-!
# `BareUrl.Proofs.Markup.Closing`: excluded elements that open and close

A tag opens an excluded element if it names one (`Names`), and the element is closed by a tag that
holds the closing tag of that name in any ASCII case (`HoldsClosing`). In between the walk remembers
the name as it is written in the tag.

Opening looks at case as Unicode has it, closing as ASCII has it. The two agree on names within
ASCII, and only on these: `after_opening`. A name can have other characters, as the long s and the
Kelvin sign count as forms of letters, and then the closing tag of the excluded element does not
close what has been opened (`after_opening_long_s`).
-/

set_option autoImplicit false

namespace BareUrl

namespace Text

theorem toNat_toLower_lt_iff {c : Char} : c.toLower.toNat < 128 ↔ c.toNat < 128 := by
  rcases toLower_cases c with ⟨hlow, hhigh, heq⟩ | heq
  · omega
  · rw [heq]

theorem ascii_of_asciiLower {t : Text} (h : ∀ d ∈ asciiLower t, d.toNat < 128) :
    ∀ d ∈ t, d.toNat < 128 :=
  fun d hd => toNat_toLower_lt_iff.1 (h d.toLower (List.mem_map_of_mem hd))

end Text

namespace Markup

/-- The tag names an element: in it there is a `<`, the name, and white space or `>`. -/
def Names (tag name : Text) : Prop :=
  ∃ before d behind, tag = before ++ '<' :: (name ++ d :: behind) ∧
    (Text.isBlank d = true ∨ d = '>')

/-- The tag holds the closing tag of the element, in any ASCII case. -/
def HoldsClosing (tag name : Text) : Prop :=
  ∃ name', Text.asciiLower name' = Text.asciiLower name ∧
    '<' :: '/' :: (name' ++ ['>']) <:+: tag

variable {e : Exclusion} {t tag name : Text}

/-! ### Opening -/

namespace Exclusion

theorem endsName_iff {d : Char} : endsName d = true ↔ Text.isBlank d = true ∨ d = '>' := by
  simp [endsName]

/-- What ends a name is part of none. -/
theorem not_isNameChar_of_endsName {d : Char} (h : endsName d = true) :
    isNameChar (foldCase d) = false := by
  rw [← Bool.not_eq_true]
  intro hname
  have hfold : foldCase d = d.toLower := by
    rw [foldCase, if_neg, if_neg] <;>
    · rintro rfl
      exact absurd h (by decide)
  rw [hfold] at hname
  have hcode := code_of_isNameChar hname
  rcases endsName_iff.1 h with hblank | rfl
  · simp only [Text.isBlank, Bool.or_eq_true, Bool.and_eq_true, decide_eq_true_eq,
      beq_iff_eq] at hblank
    rcases Text.toLower_cases d with ⟨hlow, hhigh, -⟩ | heq
    · omega
    · rw [heq] at hcode
      omega
  · exact absurd hname (by decide)

theorem not_endsName_of_excludes (h : e.excludes name = true) :
    ∀ d ∈ name, endsName d = false := by
  intro d hd
  rw [← Bool.not_eq_true]
  exact fun hends => not_mem_of_excludes h (not_isNameChar_of_endsName hends) hd

theorem nameIn_eq_some (h : nameIn t = some name) :
    ∃ d behind, t = name ++ d :: behind ∧ endsName d = true := by
  induction t generalizing name with
  | nil => simp [nameIn] at h
  | cons c t ih =>
      cases hc : endsName c with
      | true =>
          rw [nameIn_cons_of_ends hc, Option.some.injEq] at h
          exact ⟨c, t, by rw [← h]; rfl, hc⟩
      | false =>
          rw [nameIn_cons hc] at h
          obtain ⟨name', hname, rfl⟩ := Option.map_eq_some_iff.1 h
          obtain ⟨d, behind, rfl, hd⟩ := ih hname
          exact ⟨d, behind, rfl, hd⟩

theorem names_of_opened (h : e.opened tag = some name) : Names tag name := by
  induction tag with
  | nil => simp [opened] at h
  | cons c t ih =>
      -- The name stands behind the first character, or further behind.
      have hrest (h : e.opened t = some name) : Names (c :: t) name := by
        obtain ⟨before, d, behind, rfl, hd⟩ := ih h
        exact ⟨c :: before, d, behind, rfl, hd⟩
      rw [opened] at h
      split at h
      · rename_i hc
        subst hc
        split at h
        · rename_i name' hname
          split at h
          · obtain rfl := Option.some.inj h
            obtain ⟨d, behind, rfl, hd⟩ := nameIn_eq_some hname
            exact ⟨[], d, behind, rfl, endsName_iff.1 hd⟩
          · exact hrest h
        · exact hrest h
      · exact hrest h

/-- A tag that names an excluded element opens one. It may be another one, whose name comes
first. -/
theorem isSome_opened_of_names (h : Names tag name) (hname : e.excludes name = true) :
    (e.opened tag).isSome = true := by
  obtain ⟨before, d, behind, rfl, hd⟩ := h
  induction before with
  | nil =>
      have hread : nameIn (name ++ d :: behind) = some name :=
        nameIn_append (not_endsName_of_excludes hname) (endsName_iff.2 hd) behind
      rw [List.nil_append, opened, if_pos rfl, hread]
      simp [hname]
  | cons c before ih =>
      rw [List.cons_append, opened]
      split
      · split
        · split
          · rfl
          · exact ih
        · exact ih
      · exact ih

end Exclusion

/-! ### Closing -/

theorem closes_iff_holdsClosing : closes tag name = true ↔ HoldsClosing tag name := by
  rw [closes_iff]
  constructor
  · rintro ⟨a, b, h⟩
    have hsplit : tag.map Char.toLower
        = a ++ '<' :: '/' :: (Text.asciiLower name ++ '>' :: b) := by
      rw [← Text.asciiLower, ← h, closer]
      simp
    -- The brackets and the slash have no other case.
    obtain ⟨before, x, rfl, -, hx⟩ := List.map_eq_append_iff.1 hsplit
    obtain ⟨c, y, rfl, hc, hy⟩ := List.map_eq_cons_iff.1 hx
    obtain ⟨d, z, rfl, hd, hz⟩ := List.map_eq_cons_iff.1 hy
    obtain ⟨name', w, rfl, hname, hw⟩ := List.map_eq_append_iff.1 hz
    obtain ⟨c', behind, rfl, hc', -⟩ := List.map_eq_cons_iff.1 hw
    obtain rfl : c = '<' := (Text.toLower_eq_iff rfl).1 hc
    obtain rfl : d = '/' := (Text.toLower_eq_iff rfl).1 hd
    obtain rfl : c' = '>' := (Text.toLower_eq_iff rfl).1 hc'
    exact ⟨name', hname, before, behind, by simp⟩
  · rintro ⟨name', hname, hin⟩
    have hcloser : closer name = Text.asciiLower ('<' :: '/' :: (name' ++ ['>'])) := by
      rw [closer, ← hname, Text.asciiLower_cons, Text.asciiLower_cons, Text.asciiLower_append]
      rfl
    rw [hcloser]
    exact hin.map _

theorem holdsClosing_self (name : Text) : HoldsClosing ('<' :: '/' :: (name ++ ['>'])) name :=
  ⟨name, rfl, List.infix_rfl⟩

/-- The closing tag of an element holds that of another one of the same length only if the two
names are the same but for their case. -/
theorem asciiLower_eq_of_holdsClosing {name' : Text} (hlength : name'.length = name.length)
    (h : HoldsClosing ('<' :: '/' :: (name ++ ['>'])) name') :
    Text.asciiLower name = Text.asciiLower name' := by
  obtain ⟨name'', hname, hin⟩ := h
  have hlength' : name''.length = name'.length := by
    have := congrArg List.length hname
    rwa [Text.asciiLower, Text.asciiLower, List.length_map, List.length_map] at this
  have hall := hin.eq_of_length (by simp [hlength', hlength])
  simp only [List.cons.injEq, true_and, List.append_cancel_right_eq] at hall
  rw [← hall, hname]

/-- An excluded name that is written within ASCII differs from the one in the list in ASCII case
only, and only such a name does. -/
theorem TagName.ascii_iff (n : TagName) (h : n.name.map foldCase = name.map foldCase) :
    (∀ d ∈ name, d.toNat < 128) ↔ Text.asciiLower name = Text.asciiLower n.name := by
  constructor
  · intro hname
    rw [← map_foldCase_of_ascii hname, ← map_foldCase_of_ascii n.ascii, h]
  · intro heq
    refine Text.ascii_of_asciiLower fun d hd => ?_
    rw [heq] at hd
    obtain ⟨c, hc, rfl⟩ := List.mem_map.1 hd
    exact Text.toNat_toLower_lt_iff.2 (n.ascii c hc)

namespace Mode

theorem after_scanning_eq_excluded_iff :
    Mode.scanning.after e tag = .excluded name ↔ e.opened tag = some name := by
  rw [Mode.after]
  cases e.opened tag <;> simp

theorem after_excluded_eq_scanning_iff :
    (Mode.excluded name).after e tag = .scanning ↔ HoldsClosing tag name := by
  rw [Mode.after, ← closes_iff_holdsClosing]
  cases closes tag name <;> simp

end Mode

/-- A tag opens an excluded element exactly if it names one, in any case, and the name that it opens
one by is written in the tag. That name differs in ASCII case only from the one in the list exactly
if it is within ASCII, and exactly then each tag closes the element that holds the closing tag of
the name in the list, in any ASCII case. -/
theorem after_opening (e : Exclusion) (tag : Text) :
    ((∃ name, Mode.scanning.after e tag = .excluded name) ↔
      ∃ name, Names tag name ∧ ∃ n ∈ e.names, n.name.map foldCase = name.map foldCase) ∧
    ∀ name, Mode.scanning.after e tag = .excluded name →
      Names tag name ∧ ∃ n ∈ e.names, n.name.map foldCase = name.map foldCase ∧
        ((∀ d ∈ name, d.toNat < 128) ↔ Text.asciiLower name = Text.asciiLower n.name) ∧
        ((∀ d ∈ name, d.toNat < 128) ↔
          ∀ later, HoldsClosing later n.name →
            (Mode.excluded name).after e later = .scanning) := by
  constructor
  · constructor
    · rintro ⟨name, h⟩
      have hopened := Mode.after_scanning_eq_excluded_iff.1 h
      exact ⟨name, Exclusion.names_of_opened hopened,
        Exclusion.excludes_iff.1 (Exclusion.excludes_of_opened hopened)⟩
    · rintro ⟨name, hnames, hn⟩
      obtain ⟨name', hopened⟩ := Option.isSome_iff_exists.1
        (Exclusion.isSome_opened_of_names hnames (Exclusion.excludes_iff.2 hn))
      exact ⟨name', Mode.after_scanning_eq_excluded_iff.2 hopened⟩
  · intro name h
    have hopened := Mode.after_scanning_eq_excluded_iff.1 h
    obtain ⟨n, hn, hfold⟩ :=
      Exclusion.excludes_iff.1 (Exclusion.excludes_of_opened hopened)
    refine ⟨Exclusion.names_of_opened hopened, n, hn, hfold, n.ascii_iff hfold, ?_⟩
    rw [n.ascii_iff hfold]
    constructor
    · rintro hname later ⟨name', hname', hin⟩
      exact Mode.after_excluded_eq_scanning_iff.2 ⟨name', by rw [hname', hname], hin⟩
    · -- The closing tag of the name in the list is such a tag.
      intro hall
      have hclosed := hall _ (holdsClosing_self n.name)
      have hlength : name.length = n.name.length := by
        have := congrArg List.length hfold
        rwa [List.length_map, List.length_map, eq_comm] at this
      exact (asciiLower_eq_of_holdsClosing hlength
        (Mode.after_excluded_eq_scanning_iff.1 hclosed)).symm

/-- A tag that starts at a `<` which was not closed, and a closing tag in other case. -/
theorem after_opening_code :
    ∃ e, Exclusion.make ["a".toList, "code".toList] = .ok e ∧
      let tag := "< b <CoDe\n>".toList
      let later := "<i </cOdE>".toList
      Mode.scanning.after e tag = .excluded "CoDe".toList ∧
        (∀ d ∈ "CoDe".toList, d.toNat < 128) ∧ HoldsClosing later "code".toList ∧
        (Mode.excluded "CoDe".toList).after e later = .scanning := by
  refine ⟨⟨[⟨"a".toList, by decide⟩, ⟨"code".toList, by decide⟩]⟩, rfl, ?_⟩
  intro tag later
  have hopening : Mode.scanning.after ⟨[⟨"a".toList, by decide⟩, ⟨"code".toList, by decide⟩]⟩ tag
      = .excluded "CoDe".toList := by decide
  have hascii : ∀ d ∈ "CoDe".toList, d.toNat < 128 := by
    have hall : "CoDe".toList.all (fun d => decide (d.toNat < 128)) = true := by decide
    exact fun d hd => of_decide_eq_true (List.all_eq_true.1 hall d hd)
  have hlater : HoldsClosing later "code".toList :=
    ⟨"cOdE".toList, by decide, "<i ".toList, [], by decide⟩
  obtain ⟨-, n, hn, hfold, -, hcloses⟩ := (after_opening _ tag).2 _ hopening
  -- Of the two names in the list only one has as many letters.
  have hname : n.name = "code".toList := by
    rcases List.mem_cons.1 hn with rfl | hn
    · exact absurd hfold (by decide)
    · rw [List.mem_singleton.1 hn]
  exact ⟨hopening, hascii, hlater, hcloses.1 hascii later (hname ▸ hlater)⟩

/-- A tag whose name has a long s opens an excluded element, although no name of the list stands in
it in any ASCII case, and the closing tag of the name in the list does not close it. -/
theorem after_opening_long_s :
    ∃ e, Exclusion.make ["script".toList] = .ok e ∧
      let tag := "<\u017fcript>".toList
      let later := "</script>".toList
      Mode.scanning.after e tag = .excluded "\u017fcript".toList ∧
        (¬ ∃ n ∈ e.names, ∃ name,
          Text.asciiLower name = Text.asciiLower n.name ∧ Names tag name) ∧
        (∀ n ∈ e.names, HoldsClosing later n.name) ∧
        (Mode.excluded "\u017fcript".toList).after e later = .excluded "\u017fcript".toList := by
  refine ⟨⟨[⟨"script".toList, by decide⟩]⟩, rfl, ?_⟩
  intro tag later
  refine ⟨by decide, ?_, fun n hn => ?_, by decide⟩
  · rintro ⟨n, hn, name, hname, before, d, behind, htag, -⟩
    obtain rfl := List.mem_singleton.1 hn
    cases before with
    | nil =>
        -- The name starts behind the `<`, but a long s is not the small form of any s.
        cases name with
        | nil => simp [Text.asciiLower] at hname
        | cons c name =>
            obtain ⟨-, hbehind⟩ := List.cons.inj htag
            obtain ⟨rfl, -⟩ := List.cons.inj hbehind
            obtain ⟨hc, -⟩ := List.cons.inj hname
            exact absurd hc (by decide)
    | cons c before =>
        obtain ⟨-, hbehind⟩ := List.cons.inj htag
        have hmem : '<' ∈ "\u017fcript>".toList := by
          have hall : "\u017fcript>".toList = before ++ '<' :: (name ++ d :: behind) := hbehind
          rw [hall]
          simp
        exact absurd hmem (by decide)
  · obtain rfl := List.mem_singleton.1 hn
    exact holdsClosing_self _

end Markup

end BareUrl
