import BareUrl.Markup.Exclusion
import BareUrl.Proofs.Markup.Mask
import BareUrl.Proofs.Markup.Chunk
import BareUrl.Proofs.Text.Case

/-!
# `BareUrl.Proofs.Markup.Exclusion`: what opens and closes an excluded element

The name of an excluded element is made of letters, digits and hyphens, in whatever case it is
written (`isNameChar_of_excludes`), and starts with a letter (`not_excludes`). So a closing tag
never opens one, and neither does text without `<` (`opened_of_not_mem`).

A closing tag starts with its only `<` and ends with its only `>`, so two texts hold one if either
of them does, where they meet at a `<` or behind a `>` (`closes_append_open`,
`closes_append_close`). A text without complete tags holds none.

`after_comment` is about tags that end with a masked comment: the number of its body makes no
difference to where the walk stands behind it.
-/

set_option autoImplicit false

namespace BareUrl.Markup

/-! ### Names -/

/-- `true` for the characters of the name of an element. -/
def isNameChar (c : Char) : Bool := c.isAlphanum || c == '-'

theorem isAlpha_foldCase {c : Char} (hc : c.isAlpha = true) : (foldCase c).isAlpha = true := by
  rw [foldCase]
  split
  · decide
  · split
    · decide
    · rw [Text.isAlpha_toLower, hc]

theorem isNameChar_foldCase {c : Char} (hc : isNameChar c = true) :
    isNameChar (foldCase c) = true := by
  cases halpha : c.isAlpha with
  | true => simp [isNameChar, Char.isAlphanum, isAlpha_foldCase halpha]
  | false =>
      rw [foldCase]
      split
      · decide
      · split
        · decide
        · rwa [Text.toLower_of_not_isAlpha halpha]

theorem isNameChar_of_isTagName {name : Text} (h : isTagName name = true) {c : Char}
    (hc : c ∈ name) : isNameChar c = true := by
  cases name with
  | nil => simp at hc
  | cons d rest =>
      rw [isTagName, Bool.and_eq_true, List.all_eq_true] at h
      rcases List.mem_cons.1 hc with rfl | hmem
      · simp [isNameChar, Char.isAlphanum, h.1]
      · exact h.2 c hmem

/-- Within ASCII only letters have another case. -/
theorem foldCase_of_ascii {c : Char} (hc : c.toNat < 128) : foldCase c = c.toLower := by
  rw [foldCase, if_neg, if_neg]
  · rintro rfl
    exact absurd hc (by decide)
  · rintro rfl
    exact absurd hc (by decide)

theorem map_foldCase_of_ascii {t : Text} (h : ∀ c ∈ t, c.toNat < 128) :
    t.map foldCase = Text.asciiLower t :=
  List.map_congr_left fun c hc => foldCase_of_ascii (h c hc)

theorem code_of_isNameChar {c : Char} (hc : isNameChar c = true) :
    c.toNat = 45 ∨ (48 ≤ c.toNat ∧ c.toNat ≤ 57) ∨ (65 ≤ c.toNat ∧ c.toNat ≤ 90) ∨
      (97 ≤ c.toNat ∧ c.toNat ≤ 122) := by
  simp only [isNameChar, Char.isAlphanum, Bool.or_eq_true, beq_iff_eq] at hc
  rcases hc with (halpha | hdigit) | rfl
  · exact .inr (.inr (Text.isAlpha_iff.1 halpha))
  · exact .inr (.inl (Text.isDigit_iff.1 hdigit))
  · exact .inl rfl

/-- The name of an element is within ASCII. -/
theorem TagName.ascii (n : TagName) : ∀ d ∈ n.name, d.toNat < 128 := by
  intro d hd
  have := code_of_isNameChar (isNameChar_of_isTagName n.valid hd)
  omega

namespace Exclusion

variable {e : Exclusion} {name : Text}

theorem excludes_iff :
    e.excludes name = true ↔ ∃ n ∈ e.names, n.name.map foldCase = name.map foldCase := by
  rw [excludes, List.any_eq_true]
  simp only [beq_iff_eq]

/-- Without regard to case, the name of an excluded element is a name of an element. -/
theorem isNameChar_of_excludes (h : e.excludes name = true) {c : Char} (hc : c ∈ name) :
    isNameChar (foldCase c) = true := by
  obtain ⟨n, -, heq⟩ := excludes_iff.1 h
  have hmem : foldCase c ∈ n.name.map foldCase := heq ▸ List.mem_map_of_mem hc
  obtain ⟨x, hx, hfold⟩ := List.mem_map.1 hmem
  exact hfold ▸ isNameChar_foldCase (isNameChar_of_isTagName n.valid hx)

theorem not_mem_of_excludes (h : e.excludes name = true) {c : Char}
    (hc : isNameChar (foldCase c) = false) : c ∉ name := by
  intro hmem
  rw [isNameChar_of_excludes h hmem] at hc
  exact absurd hc Bool.noConfusion

/-- The name of an excluded element starts with a letter. -/
theorem not_excludes (e : Exclusion) {c : Char} (hc : (foldCase c).isAlpha = false) (t : Text) :
    e.excludes (c :: t) = false := by
  rw [← Bool.not_eq_true]
  intro h
  obtain ⟨n, -, heq⟩ := excludes_iff.1 h
  have hvalid := n.valid
  cases hname : n.name with
  | nil =>
      rw [hname] at hvalid
      exact absurd hvalid (by decide)
  | cons d rest =>
      rw [hname] at heq hvalid
      rw [isTagName, Bool.and_eq_true] at hvalid
      rw [List.map_cons, List.map_cons, List.cons.injEq] at heq
      rw [← heq.1, isAlpha_foldCase hvalid.1] at hc
      exact absurd hc Bool.noConfusion

/-! ### Opening -/

theorem opened_of_not_mem (e : Exclusion) {t : Text} (h : '<' ∉ t) : e.opened t = none := by
  induction t with
  | nil => rfl
  | cons c t ih =>
      rw [List.mem_cons, not_or] at h
      rw [opened, if_neg (Ne.symm h.1), ih h.2]

theorem excludes_of_opened {t : Text} (h : e.opened t = some name) : e.excludes name = true := by
  induction t with
  | nil =>
      rw [opened] at h
      exact absurd h (by simp)
  | cons c t ih =>
      rw [opened] at h
      split at h
      · split at h
        · split at h
          · rename_i hexcludes
            rwa [← Option.some.inj h]
          · exact ih h
        · exact ih h
      · exact ih h

/-- `true` for the characters that a name ends in front of. -/
def endsName (c : Char) : Bool := Text.isBlank c || c == '>'

theorem nameIn_cons_of_ends {c : Char} (hc : endsName c = true) (t : Text) :
    nameIn (c :: t) = some [] := by
  rw [endsName] at hc
  simp only [nameIn, List.dropWhile_cons, List.takeWhile_cons, hc]
  rfl

theorem nameIn_cons {c : Char} (hc : endsName c = false) (t : Text) :
    nameIn (c :: t) = (nameIn t).map (c :: ·) := by
  rw [endsName] at hc
  simp only [nameIn, List.dropWhile_cons, List.takeWhile_cons, hc, Bool.not_false, if_true]
  split <;> rfl

/-- The name is all up to the first character that ends one. -/
theorem nameIn_append {c : Char} (hname : ∀ d ∈ name, endsName d = false)
    (hc : endsName c = true) (t : Text) : nameIn (name ++ c :: t) = some name := by
  induction name with
  | nil => exact nameIn_cons_of_ends hc t
  | cons d name ih =>
      have hrest := ih fun d' hd' => hname d' (List.mem_cons_of_mem d hd')
      rw [List.cons_append, nameIn_cons (hname d List.mem_cons_self), hrest]
      rfl

/-- What stands behind a blank is in no name that starts before it. -/
theorem nameIn_append_blank (s t : Text) : nameIn (s ++ ' ' :: t) = nameIn (s ++ [' ']) := by
  induction s with
  | nil => rw [List.nil_append, List.nil_append, nameIn_cons_of_ends rfl, nameIn_cons_of_ends rfl]
  | cons c s ih =>
      rw [List.cons_append, List.cons_append]
      cases hc : endsName c with
      | true => rw [nameIn_cons_of_ends hc, nameIn_cons_of_ends hc]
      | false => rw [nameIn_cons hc, nameIn_cons hc, ih]

theorem opened_append_blank (e : Exclusion) (s : Text) {t : Text} (ht : '<' ∉ t) :
    e.opened (s ++ ' ' :: t) = e.opened (s ++ [' ']) := by
  induction s with
  | nil =>
      rw [opened_of_not_mem e (by simp [ht]), opened_of_not_mem e (by simp)]
  | cons c s ih =>
      rw [List.cons_append, List.cons_append, opened, opened, nameIn_append_blank, ih]

/-- Of a tag with one `<` it is the name that counts. -/
theorem opened_tag (e : Exclusion) {name t : Text} {d : Char}
    (hname : ∀ c ∈ name, endsName c = false) (hd : endsName d = true)
    (ht : '<' ∉ name ++ d :: t) :
    e.opened ('<' :: (name ++ d :: t)) = if e.excludes name then some name else none := by
  rw [opened, if_pos rfl, nameIn_append hname hd, opened_of_not_mem e ht]

/-- A closing tag opens nothing. -/
theorem opened_slash (e : Exclusion) {t : Text} (ht : '<' ∉ t) :
    e.opened ('<' :: '/' :: t) = none := by
  have hrest : e.opened ('/' :: t) = none := e.opened_of_not_mem (by simp [ht])
  rw [opened, if_pos rfl, nameIn_cons (by decide), hrest]
  cases nameIn t with
  | none => rfl
  | some name =>
      show (if e.excludes ('/' :: name) = true then _ else _) = none
      rw [e.not_excludes (by decide)]
      rfl

end Exclusion

/-! ### Closing -/

/-- The closing tag of an element, in small letters. -/
def closer (name : Text) : Text := '<' :: '/' :: Text.asciiLower name ++ ['>']

theorem closes_iff {t name : Text} : closes t name = true ↔ closer name <:+: Text.asciiLower t := by
  have hcloser : "</".toList ++ Text.asciiLower name ++ ">".toList = closer name := rfl
  rw [closes, Text.contains, hcloser]
  cases hc : Text.cut (closer name) (Text.asciiLower t) with
  | none => simp [Text.cut_eq_none_iff.1 hc]
  | some x =>
      have hin : closer name <:+: Text.asciiLower t :=
        ⟨x.1, x.2, (Text.cut_eq_some hc).symm⟩
      simp [hin]

theorem closes_of_infix {s t name : Text} (hs : s <:+: t) (h : closes s name = true) :
    closes t name = true := by
  rw [closes_iff] at h ⊢
  exact h.trans (hs.map _)

/-- A closing tag has `<` at its start only. -/
theorem closes_append_open {name : Text} (hname : '<' ∉ name) (a b : Text) :
    closes (a ++ '<' :: b) name = true ↔ closes a name = true ∨ closes ('<' :: b) name = true := by
  have htail : '<' ∉ (closer name).tail := by
    simp [closer, Text.mem_asciiLower_iff (d := '<') rfl, hname]
  rw [closes_iff, closes_iff, closes_iff, Text.asciiLower_append, Text.asciiLower_cons]
  exact Text.infix_append_cons htail

/-- A closing tag has `>` at its end only. -/
theorem closes_append_close {name : Text} (hname : '>' ∉ name) (a b : Text) :
    closes (a ++ ['>'] ++ b) name = true ↔
      closes (a ++ ['>']) name = true ∨ closes b name = true := by
  have hinit : '>' ∉ (closer name).dropLast := by
    rw [closer, List.dropLast_concat]
    simp [Text.mem_asciiLower_iff (d := '>') rfl, hname]
  rw [closes_iff, closes_iff, closes_iff, Text.asciiLower_append, Text.asciiLower_append]
  exact Text.infix_append_concat hinit

/-- No closing tag starts in text without `<`. -/
theorem closes_append_of_not_mem {a : Text} (ha : '<' ∉ a) (b name : Text) :
    closes (a ++ b) name = true ↔ closes b name = true := by
  constructor
  · intro h
    rw [closes_iff, Text.asciiLower_append] at h
    rw [closes_iff]
    exact Text.infix_of_not_mem_head (by rwa [Text.mem_asciiLower_iff rfl]) h
  · exact closes_of_infix List.infix_append_right

/-- A closing tag is a complete tag. -/
theorem not_closes_of_untagged {t : Text} (ht : Untagged t) (name : Text) :
    closes t name = false := by
  rw [← Bool.not_eq_true, closes_iff]
  rintro ⟨a, b, h⟩
  have hsplit : t.map Char.toLower
      = a ++ '<' :: '/' :: (Text.asciiLower name ++ ['>'] ++ b) := by
    rw [← Text.asciiLower, ← h, closer]
    simp
  obtain ⟨g, x, rfl, -, hx⟩ := List.map_eq_append_iff.1 hsplit
  obtain ⟨c, y, rfl, hc, hy⟩ := List.map_eq_cons_iff.1 hx
  obtain ⟨d, k, rfl, -, hk⟩ := List.map_eq_cons_iff.1 hy
  obtain rfl : c = '<' := (Text.toLower_eq_iff rfl).1 hc
  have hclose : '>' ∈ Text.asciiLower k := by
    rw [Text.asciiLower, hk]
    simp
  exact ht g d k rfl ((Text.mem_asciiLower_iff rfl).1 hclose)

/-- A comment is no closing tag, and holds none behind its first character. -/
theorem not_closes_comment {body : Text} (hbody : '<' ∉ body) (name : Text) :
    closes (comment body) name = false := by
  rw [← Bool.not_eq_true, closes_iff]
  intro h
  have hlower : Text.asciiLower (comment body)
      = '<' :: '!' :: Text.asciiLower ("--".toList ++ body ++ commentClose) := rfl
  rw [hlower, List.infix_cons_iff] at h
  -- A `!` follows the first `<`, and there is no other one.
  rcases h with h | h
  · simp [closer] at h
  · have hmem : '<' ∈ '!' :: Text.asciiLower ("--".toList ++ body ++ commentClose) :=
      h.subset List.mem_cons_self
    rw [List.mem_cons, Text.mem_asciiLower_iff rfl] at hmem
    simp [hbody, commentClose_eq] at hmem

/-! ### Masked comments -/

theorem maskToken_eq (n : Nat) : ∃ t, maskToken n = ' ' :: t ∧ '<' ∉ t := by
  refine ⟨Text.Decimal.ofNat n ++ [' '], rfl, fun h => ?_⟩
  exact no_open_in_maskToken n (List.mem_cons_of_mem ' ' h)

theorem not_closes_maskToken (n : Nat) (name : Text) :
    closes (comment (maskToken n)) name = false := by
  obtain ⟨t, ht, hmem⟩ := maskToken_eq n
  exact not_closes_comment (by simp [ht, hmem]) name

/-- A masked text holds only closing tags of the text. -/
theorem closes_of_numbered {name : Text} (hopen : '<' ∉ name) (hclose : '>' ∉ name) {index : Nat}
    {k : Cut Text} (h : closes ((numbered index k).render comment) name = true) :
    closes (k.render comment) name = true := by
  induction k using Cut.ind generalizing index with
  | leaf t => exact h
  | cons gap body k ih =>
      rw [numbered_cons, Cut.render_cons, List.append_assoc] at h
      rw [Cut.render_cons]
      -- A comment starts with a `<` and ends with a `>`, so no closing tag reaches into it.
      rcases (closes_append_open hopen gap _).1 h with h | h
      · exact closes_of_infix ⟨[], comment body ++ k.render comment, by simp⟩ h
      · have hsplit : comment (maskToken index) ++ (numbered (index + 1) k).render comment
            = commentOpen ++ maskToken index ++ ['-', '-'] ++ ['>']
              ++ (numbered (index + 1) k).render comment := by
          simp [comment, commentClose_eq]
        have hcomment : commentOpen ++ maskToken index ++ ['-', '-'] ++ ['>']
            = comment (maskToken index) := by
          simp [comment, commentClose_eq]
        have hall : closes (comment (maskToken index)
            ++ (numbered (index + 1) k).render comment) name = true := h
        rw [hsplit, closes_append_close hclose, hcomment, not_closes_maskToken] at hall
        rcases hall with hnot | hrest
        · exact absurd hnot Bool.noConfusion
        · exact closes_of_infix List.infix_append_right (ih hrest)

/-- The number of a masked body is in no name. -/
theorem opened_comment (e : Exclusion) (s : Text) (n : Nat) :
    e.opened (s ++ comment (maskToken n)) = e.opened (s ++ (commentOpen ++ [' '])) := by
  obtain ⟨t, ht, hmem⟩ := maskToken_eq n
  have hsplit : s ++ comment (maskToken n) = s ++ commentOpen ++ ' ' :: (t ++ commentClose) := by
    simp [comment, ht]
  have hrest : '<' ∉ t ++ commentClose := by
    simp [hmem, commentClose_eq]
  rw [hsplit, e.opened_append_blank _ hrest, List.append_assoc]

/-- A comment opens no excluded element. -/
theorem opened_comment_alone (e : Exclusion) (n : Nat) :
    e.opened (comment (maskToken n)) = none := by
  have hends : "!--".toList.any Exclusion.endsName = false := by decide
  have htag : e.opened ('<' :: ("!--".toList ++ ' ' :: []))
      = if e.excludes "!--".toList then some "!--".toList else none :=
    e.opened_tag (by simpa using hends) rfl (by decide)
  have hname : e.excludes "!--".toList = false := e.not_excludes (by decide) _
  rw [hname] at htag
  exact (opened_comment e [] n).trans htag

namespace Mode

variable {e : Exclusion} {mode : Mode}

/-- The element that the walk is in, if there is one, is an excluded one. -/
def Valid (e : Exclusion) : Mode → Prop
  | .scanning => True
  | .excluded name => e.excludes name = true

theorem Valid.after (h : mode.Valid e) (t : Text) : (mode.after e t).Valid e := by
  cases mode with
  | scanning =>
      rw [Mode.after]
      split
      · rename_i hopened
        exact Exclusion.excludes_of_opened hopened
      · trivial
  | excluded name =>
      rw [Mode.after]
      split
      · trivial
      · exact h

end Mode

/-- Where the walk stands behind a tag does not depend on the number of a masked body that the tag
ends with. -/
theorem after_comment {e : Exclusion} {mode : Mode} (hmode : mode.Valid e) {s : Text}
    (hs : Untagged s) (m n : Nat) :
    mode.after e (s ++ comment (maskToken m)) = mode.after e (s ++ comment (maskToken n)) := by
  cases mode with
  | scanning => rw [Mode.after, Mode.after, opened_comment, opened_comment e s n]
  | excluded name =>
      have hname : '<' ∉ name := Exclusion.not_mem_of_excludes hmode (by decide)
      have hnot (n : Nat) : closes (s ++ comment (maskToken n)) name = false := by
        rw [← Bool.not_eq_true]
        intro h
        rcases (closes_append_open hname s _).1 h with h | h
        · rw [not_closes_of_untagged hs] at h
          exact absurd h Bool.noConfusion
        · exact absurd ((not_closes_maskToken n name).symm.trans h) Bool.noConfusion
      rw [Mode.after, Mode.after, hnot m, hnot n]

end BareUrl.Markup
