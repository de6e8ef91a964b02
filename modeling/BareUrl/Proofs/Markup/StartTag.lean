import BareUrl.Proofs.Markup.Document

/-!
# `BareUrl.Proofs.Markup.StartTag`: start tags with quoted values

In HTML a tag ends at the first `>` outside of quotes, and a quoted value may hold one
(`StartTag`). Tags are cut off at the first `>` of all, so a start tag is one as a whole only if
none of its values holds a `>`. In any case it starts with a tag, and what is behind that counts as
text (`exists_tag`). The values in front of the first `>` are in the tag (`exists_tag_of_values`).

A page is text without `<` and start tags in any order. No comment starts in it
(`no_open_in_page`), and no tag is open at its end (`not_mem_last_page`), so it is cut at its tags
on its own, whatever follows it.
-/

set_option autoImplicit false

namespace BareUrl.Markup

/-- The text holds no angle brackets and no quotes. -/
structure Bare (t : Text) : Prop where
  noOpen : '<' ∉ t
  noClose : '>' ∉ t
  noQuote : '"' ∉ t

instance (t : Text) : Decidable (Bare t) :=
  decidable_of_iff ('<' ∉ t ∧ '>' ∉ t ∧ '"' ∉ t)
    ⟨fun ⟨h, h', h''⟩ => ⟨h, h', h''⟩, fun h => ⟨h.noOpen, h.noClose, h.noQuote⟩⟩

/-- An attribute with a value in double quotes. -/
structure Attribute where
  /-- What stands in front of the quotes: white space, the name, and the equals sign. Attributes
  without quotes may come before. -/
  front : Text
  value : Text
  bare : Bare front
  noQuote : '"' ∉ value
  noOpen : '<' ∉ value

/-- A start tag. -/
structure StartTag where
  name : Text
  attributes : List Attribute
  /-- What stands behind the last value: white space, attributes without quotes, a slash. -/
  back : Text
  named : name.head?.any Char.isAlpha = true
  bareName : Bare name
  bareBack : Bare back

/-- A part of a page. -/
inductive Node where
  | text (t : Text) (plain : '<' ∉ t)
  | tag (t : StartTag)

/-- The attribute up to its value. -/
def Attribute.opening (x : Attribute) : Text := x.front ++ ['"']

def Attribute.written (x : Attribute) : Text := x.opening ++ x.value ++ ['"']

namespace StartTag

/-- What is between the angle brackets. -/
def inner (t : StartTag) : Text := t.name ++ t.attributes.flatMap Attribute.written ++ t.back

def written (t : StartTag) : Text := bracketed t.inner

/-- The tag up to the value of an attribute with the given ones before it. -/
def upTo (t : StartTag) (before : List Attribute) (x : Attribute) : Text :=
  '<' :: t.name ++ before.flatMap Attribute.written ++ x.opening

/-- The tag behind the value of an attribute with the given ones after it. -/
def behind (t : StartTag) (after : List Attribute) : Text :=
  '"' :: after.flatMap Attribute.written ++ t.back ++ ['>']

end StartTag

def Node.written : Node → Text
  | .text t _ => t
  | .tag t => t.written

/-- The text of a page. -/
def page (nodes : List Node) : Text := nodes.flatMap Node.written

variable {t : StartTag} {before after : List Attribute} {x : Attribute}

/-! ### The parts of a start tag -/

namespace StartTag

theorem exists_name (t : StartTag) : ∃ d rest, t.name = d :: rest ∧ d.isAlpha = true := by
  have hnamed := t.named
  cases hname : t.name with
  | nil => simp [hname] at hnamed
  | cons d rest =>
      rw [hname] at hnamed
      exact ⟨d, rest, rfl, hnamed⟩

theorem noOpen_written (x : Attribute) : '<' ∉ x.written := by
  simp [Attribute.written, Attribute.opening, x.bare.noOpen, x.noOpen]

theorem noOpen_inner (t : StartTag) : '<' ∉ t.inner := by
  simp [inner, t.bareName.noOpen, t.bareBack.noOpen, noOpen_written]

/-- A start tag at one of its values. -/
theorem written_eq (h : t.attributes = before ++ x :: after) :
    t.written = t.upTo before x ++ (x.value ++ t.behind after) := by
  simp [written, bracketed, inner, upTo, behind, h, Attribute.written]

/-- A start tag starts with a tag. What is behind that one holds no `<`. -/
theorem exists_tag (t : StartTag) :
    ∃ d inner loose, t.written = Markup.tag d inner ++ loose ∧ '>' ∉ inner ∧ '<' ∉ loose := by
  obtain ⟨d, rest, hname, -⟩ := t.exists_name
  have hopen := t.noOpen_inner
  obtain ⟨k, hk⟩ : ∃ k, t.inner = d :: k := ⟨_, by rw [inner, hname]; rfl⟩
  obtain ⟨inner, loose, hsplit, hinner⟩ :=
    List.eq_append_cons_of_mem (show '>' ∈ k ++ ['>'] by simp)
  refine ⟨d, inner, loose, ?_, hinner, fun hmem => hopen ?_⟩
  · rw [written, bracketed, hk, List.cons_append, List.cons_append, hsplit]
    simp [Markup.tag]
  · -- All that is behind the first `>` is between the angle brackets, or the last of these.
    have hloose : '<' ∈ k ++ ['>'] := by
      rw [hsplit]
      exact List.mem_append_right _ (List.mem_cons_of_mem _ hmem)
    rw [hk]
    exact List.mem_cons_of_mem d (by simpa using hloose)

/-- If no value up to a certain one holds a `>`, all of these are in the tag that a start tag starts
with. -/
theorem exists_tag_of_values (h : t.attributes = before ++ x :: after)
    (hclose : ∀ y ∈ before ++ [x], '>' ∉ y.value) :
    ∃ d inner rest loose, t.written = Markup.tag d inner ++ loose ∧
      Markup.tag d inner = t.upTo before x ++ (x.value ++ rest) ∧ '>' ∉ inner ∧ '<' ∉ loose := by
  obtain ⟨d, inner, loose, htag, hinner, hloose⟩ := t.exists_tag
  have hfront : '>' ∉ t.upTo before x ++ x.value := by
    have hbefore : ∀ y ∈ before, '>' ∉ y.written := by
      intro y hy
      simp [Attribute.written, Attribute.opening, y.bare.noClose,
        hclose y (List.mem_append_left _ hy)]
    have hx : '>' ∉ x.value := hclose x (by simp)
    simpa [upTo, Attribute.opening, t.bareName.noClose, x.bare.noClose, hx] using hbefore
  have hsplit : Markup.tag d inner ++ loose = t.upTo before x ++ x.value ++ t.behind after := by
    rw [← htag, written_eq h, List.append_assoc]
  rcases List.append_eq_append_iff.1 hsplit with ⟨m, hm, -⟩ | ⟨m, hm, -⟩
  · -- The tag ends in a `>`, so it cannot end in front of the value.
    exact absurd (hm ▸ List.mem_append_left m (by simp [Markup.tag])) hfront
  · exact ⟨d, inner, m, loose, htag, by rw [hm, List.append_assoc], hinner, hloose⟩

end StartTag

/-! ### Pages -/

theorem page_append (nodes nodes' : List Node) :
    page (nodes ++ nodes') = page nodes ++ page nodes' := List.flatMap_append

/-- Text without `<` in front leaves no tag open. -/
theorem not_mem_last_append {a b : Text} (ha : '<' ∉ a) (hb : '<' ∉ (tags b).last) :
    '<' ∉ (tags (a ++ b)).last := by
  rw [tags_append_of_not_mem ha]
  cases h : tags b using Cut.ind with
  | leaf last =>
      rw [h] at hb
      show '<' ∉ a ++ last
      exact fun hmem => (List.mem_append.1 hmem).elim ha hb
  | cons gap tag k _ =>
      rw [h] at hb
      exact hb

/-- No tag is open at the end of a page. -/
theorem not_mem_last_page (nodes : List Node) : '<' ∉ (tags (page nodes)).last := by
  induction nodes with
  | nil =>
      rw [page, List.flatMap_nil, tags_of_untagged (untagged_of_not_mem List.not_mem_nil)]
      exact List.not_mem_nil
  | cons node nodes ih =>
      cases node with
      | text t plain => exact not_mem_last_append plain ih
      | tag t =>
          obtain ⟨d, inner, loose, htag, hinner, hloose⟩ := t.exists_tag
          have hpage : page (.tag t :: nodes)
              = [] ++ tag d inner ++ (loose ++ page nodes) := by
            show t.written ++ page nodes = _
            rw [htag, List.append_assoc, List.nil_append]
          rw [hpage, tags_tag _ List.not_mem_nil hinner]
          exact not_mem_last_append hloose ih

/-- No comment starts in a page. -/
theorem no_open_in_page (nodes : List Node) : ¬ commentOpen <:+: page nodes := by
  induction nodes with
  | nil => decide
  | cons node nodes ih =>
      intro h
      cases node with
      | text t plain => exact ih (Text.infix_of_not_mem_head plain h)
      | tag t =>
          obtain ⟨d, rest, hname, hd⟩ := t.exists_name
          have hpage : page (.tag t :: nodes) = '<' :: (t.inner ++ ['>'] ++ page nodes) := rfl
          rw [hpage, List.infix_cons_iff] at h
          rcases h with h | h
          · -- The name of the tag would start with an exclamation mark.
            rw [StartTag.inner, hname, commentOpen_eq] at h
            have hbang : '!' = d := (List.cons_prefix_cons.1 (List.cons_prefix_cons.1 h).2).1
            rw [← hbang] at hd
            exact absurd hd (by decide)
          · have hopen : '<' ∉ t.inner ++ ['>'] := by simp [t.noOpen_inner]
            exact ih (Text.infix_of_not_mem_head hopen h)

end BareUrl.Markup
