import BareUrl.Proofs.Markup.Exclusion

/-!
# `BareUrl.Proofs.Markup.Names`: the names of an exclusion are a set

Whether a name in a tag is excluded is a question about all names of an exclusion, and their case
does not count. So exclusions with the same names up to ASCII case, in any order and listed any
number of times, exclude the same names (`Exclusion.excludes_of_same_names`). A walk learns nothing
else of an exclusion (`Mode.after_of_same_excludes`, `Mode.notes_of_same_excludes`).

`Exclusion.make_eq_ok_iff` says which exclusion is made of a list of names, and when.
-/

set_option autoImplicit false

namespace BareUrl.Markup

/-! ### Names in small letters -/

theorem isNameChar_toLower (c : Char) : isNameChar c.toLower = isNameChar c := by
  cases halpha : c.isAlpha with
  | false => rw [Text.toLower_of_not_isAlpha halpha]
  | true =>
      rw [isNameChar, isNameChar, Char.isAlphanum, Char.isAlphanum, Text.isAlpha_toLower, halpha]
      rfl

/-- The case of a name does not decide whether it is the name of an element. -/
theorem isTagName_asciiLower (name : Text) :
    isTagName (Text.asciiLower name) = isTagName name := by
  cases name with
  | nil => rfl
  | cons c rest =>
      have hrest : (Text.asciiLower rest).all isNameChar = rest.all isNameChar := by
        rw [Text.asciiLower, List.all_map]
        exact congrArg (rest.all ·) (funext isNameChar_toLower)
      show (c.toLower.isAlpha && (Text.asciiLower rest).all isNameChar)
        = (c.isAlpha && rest.all isNameChar)
      rw [Text.isAlpha_toLower, hrest]

namespace Exclusion

variable {e e' : Exclusion}

/-! ### Exclusions with the same names -/

theorem excludes_iff_mem {name : Text} :
    e.excludes name = true ↔
      name.map foldCase ∈ (e.names.map TagName.name).map Text.asciiLower := by
  rw [excludes_iff, List.map_map, List.mem_map]
  refine exists_congr fun n => and_congr_right' ?_
  rw [map_foldCase_of_ascii n.ascii]
  rfl

theorem excludes_of_same_names
    (h : ∀ name, name ∈ (e'.names.map TagName.name).map Text.asciiLower ↔
      name ∈ (e.names.map TagName.name).map Text.asciiLower) : e'.excludes = e.excludes := by
  funext name
  rw [Bool.eq_iff_iff, excludes_iff_mem, excludes_iff_mem]
  exact h _

theorem opened_of_same_excludes (h : e'.excludes = e.excludes) (t : Text) :
    e'.opened t = e.opened t := by
  induction t with
  | nil => rfl
  | cons c t ih => rw [opened, opened, h, ih]

/-! ### Exclusions from lists -/

theorem checkTagNames_eq_ok_iff {names : List Text} {ns : List TagName} :
    checkTagNames names = .ok ns ↔ ns.map TagName.name = names := by
  induction names generalizing ns with
  | nil =>
      rw [List.map_eq_nil_iff, checkTagNames, Except.ok.injEq]
      exact eq_comm
  | cons name rest ih =>
      rw [checkTagNames]
      constructor
      · intro h
        split at h
        · split at h
          · rename_i hrest
            rw [← Except.ok.inj h, List.map_cons, ih.1 hrest]
          · exact absurd h (by simp)
        · exact absurd h (by simp)
      · intro h
        obtain ⟨n, ms, rfl, rfl, hrest⟩ := List.map_eq_cons_iff.1 h
        rw [dif_pos n.valid, ih.2 hrest]

theorem exists_tagNames {names : List Text} (h : ∀ name ∈ names, isTagName name = true) :
    ∃ ns : List TagName, ns.map TagName.name = names :=
  ⟨names.pmap TagName.mk h, by rw [List.map_pmap, List.pmap_eq_map, List.map_id']⟩

/-- An exclusion is made of names that all are names of elements, and are not too long
altogether. -/
theorem make_eq_ok_iff {names : List Text} :
    Exclusion.make names = .ok e ↔
      e.names.map TagName.name = names ∧ totalSize names ≤ sizeLimit := by
  rw [Exclusion.make]
  constructor
  · intro h
    split at h
    · exact absurd h (by simp)
    · rename_i ns hcheck
      split at h
      · rename_i hsize
        rw [← Except.ok.inj h]
        exact ⟨checkTagNames_eq_ok_iff.1 hcheck, hsize⟩
      · exact absurd h (by simp)
  · rintro ⟨hnames, hsize⟩
    rw [checkTagNames_eq_ok_iff.2 hnames]
    exact if_pos hsize

end Exclusion

/-! ### The walk -/

namespace Mode

variable {e e' : Exclusion}

theorem after_of_same_excludes (h : e'.excludes = e.excludes) (tag : Text) (mode : Mode) :
    mode.after e' tag = mode.after e tag := by
  cases mode with
  | scanning => rw [Mode.after, Mode.after, Exclusion.opened_of_same_excludes h]
  | excluded name => rfl

theorem notes_of_same_excludes (h : e'.excludes = e.excludes) (tag : Text) (mode : Mode) :
    mode.notes e' tag = mode.notes e tag := by
  cases mode with
  | scanning => rw [Mode.notes, Mode.notes, Exclusion.opened_of_same_excludes h]
  | excluded name => rfl

end Mode

end BareUrl.Markup
