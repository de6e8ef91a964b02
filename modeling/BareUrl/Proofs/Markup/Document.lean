import BareUrl.Proofs.Markup.Exclusion

/-!
# `BareUrl.Proofs.Markup.Document`: documents as trees

A document is text, comments, tags that stand alone, and elements with a document inside
(`Document`), and it is written one after another (`Document.render`). Its text falls into runs,
each with the elements around it (`Document.textRuns`).

Documents that fit an exclusion (`Document.fits`) have no element inside of an excluded one that
has the same name, as the closing tag of the inner one would end the outer one too.

The lemmas say of a tag that holds no further angle bracket how it is read: it is one chunk
(`chunks_bracketed`), no comment starts in it (`comments_bracketed`), it opens the element with its
name (`ElementTags.opened_opening`), and it closes an element exactly if it is the closing tag
(`closes_bracketed`).
-/

set_option autoImplicit false

namespace BareUrl.Markup

/-! ### Tags -/

/-- A tag, from what is between its angle brackets. -/
def bracketed (inner : Text) : Text := '<' :: inner ++ ['>']

/-- What is between the angle brackets of a tag that holds no further ones and is not the start of
a comment. -/
structure TagInner (inner : Text) : Prop where
  nonempty : inner ≠ []
  noOpen : '<' ∉ inner
  noClose : '>' ∉ inner
  noComment : ¬ "!--".toList <+: inner

instance (inner : Text) : Decidable (TagInner inner) :=
  decidable_of_iff (inner ≠ [] ∧ '<' ∉ inner ∧ '>' ∉ inner ∧ ¬ "!--".toList <+: inner)
    ⟨fun ⟨h, h', h'', h'''⟩ => ⟨h, h', h'', h'''⟩,
      fun h => ⟨h.nonempty, h.noOpen, h.noClose, h.noComment⟩⟩

/-- A tag that stands alone. It may be an opening tag that is never closed. -/
structure LeafTag where
  inner : Text
  proper : TagInner inner
  notClosing : inner.head? ≠ some '/'

/-- The two tags of an element. -/
structure ElementTags where
  /-- The name in the opening tag. -/
  name : Text
  /-- What follows the name in the opening tag. -/
  attributes : Text
  /-- The name in the closing tag. -/
  closingName : Text
  named : name ≠ []
  ascii : ∀ d ∈ name, d.toNat < 128
  whole : ∀ d ∈ name, Exclusion.endsName d = false
  notClosing : name.head? ≠ some '/'
  apart : attributes.head?.all Text.isBlank = true
  proper : TagInner (name ++ attributes)
  same : Text.asciiLower closingName = Text.asciiLower name

namespace ElementTags

def opening (tags : ElementTags) : Text := bracketed (tags.name ++ tags.attributes)

def closing (tags : ElementTags) : Text := bracketed ('/' :: tags.closingName)

end ElementTags

/-- `true` if the name is in the list of the excluded ones, in any ASCII case. -/
def Exclusion.lists (e : Exclusion) (name : Text) : Bool :=
  e.names.any fun n => Text.asciiLower n.name == Text.asciiLower name

/-! ### Documents -/

/-- A document: what comes first, and the rest. -/
inductive Document where
  | nil
  | text (t : Text) (plain : '<' ∉ t) (rest : Document)
  | comment (body : Text) (closed : ¬ commentClose <:+: body) (rest : Document)
  | leaf (tag : LeafTag) (rest : Document)
  | element (tags : ElementTags) (children rest : Document)

/-- Text of a document with no tag or comment in it. -/
structure TextRun where
  /-- The names of the elements that the text is in, the innermost first. -/
  ancestors : List Text
  text : Text
deriving DecidableEq

namespace Document

/-- The text of a document, with other comment bodies. -/
def written (label : Text → Text) : Document → Text
  | .nil => []
  | .text t _ rest => t ++ rest.written label
  | .comment body _ rest => Markup.comment (label body) ++ rest.written label
  | .leaf tag rest => bracketed tag.inner ++ rest.written label
  | .element tags children rest =>
    tags.opening ++ (children.written label ++ (tags.closing ++ rest.written label))

/-- The text of a document. -/
def render (d : Document) : Text := d.written id

/-- The runs of text of a document inside of elements, with `before` in front of the first one. -/
def runs (ancestors : List Text) (before : Text) : Document → List TextRun
  | .nil => [⟨ancestors, before⟩]
  | .text t _ rest => rest.runs ancestors (before ++ t)
  | .comment _ _ rest => ⟨ancestors, before⟩ :: rest.runs ancestors []
  | .leaf _ rest => ⟨ancestors, before⟩ :: rest.runs ancestors []
  | .element tags children rest =>
    ⟨ancestors, before⟩ :: (children.runs (tags.name :: ancestors) [] ++ rest.runs ancestors [])

/-- The runs of text of a document, in order. Each goes as far as there are no tags or comments, and
may be empty. -/
def textRuns (d : Document) : List TextRun := d.runs [] []

/-- `true` if there is an element with the name somewhere in the document, in any ASCII case. -/
def hasElement (name : Text) : Document → Bool
  | .nil => false
  | .text _ _ rest => rest.hasElement name
  | .comment _ _ rest => rest.hasElement name
  | .leaf _ rest => rest.hasElement name
  | .element tags children rest =>
    Text.asciiLower tags.name == Text.asciiLower name || children.hasElement name ||
      rest.hasElement name

/-- `true` if no tag that stands alone opens an excluded element, and no excluded element has an
element of the same name inside. -/
def fits (e : Exclusion) : Document → Bool
  | .nil => true
  | .text _ _ rest => rest.fits e
  | .comment _ _ rest => rest.fits e
  | .leaf tag rest => (e.opened (bracketed tag.inner)).isNone && rest.fits e
  | .element tags children rest =>
    !(e.lists tags.name && children.hasElement tags.name) && children.fits e && rest.fits e

end Document

/-! ### Reading tags -/

variable {inner g : Text}

theorem chunks_bracketed (h : TagInner inner) (hg : '<' ∉ g) (rest : Text) :
    chunks (g ++ (bracketed inner ++ rest))
      = .text g :: .tag (bracketed inner) :: chunks rest := by
  obtain ⟨d, t, rfl⟩ := List.exists_cons_of_ne_nil h.nonempty
  have hclose : '>' ∉ t := fun hmem => h.noClose (List.mem_cons_of_mem d hmem)
  have hall := chunks_tag (c := d) rest hg hclose
  rwa [List.append_assoc] at hall

/-- No comment starts in such a tag. -/
theorem comments_bracketed (h : TagInner inner) (rest : Text) :
    comments (bracketed inner ++ rest) = (comments rest).prepend (bracketed inner) := by
  refine comments_append_of_no_start (fun b hb => ?_) rest
  rcases (Text.infix_append_concat (by decide)).1 hb with hin | hin
  · -- Only the first character of the tag is a `<`, and no delimiter starts with that one.
    have hopen : commentOpen = '<' :: "!--".toList := by decide
    rw [hopen, List.cons_append, List.infix_cons_iff, List.cons_prefix_cons] at hin
    rcases hin with ⟨-, hprefix⟩ | hin
    · rcases List.prefix_concat_iff.1 hprefix with heq | hprefix
      · have hmem : '>' ∈ "!--".toList := heq ▸ List.mem_append_right inner List.mem_cons_self
        exact absurd hmem (by decide)
      · exact absurd hprefix h.noComment
    · have hmem : '<' ∈ inner ++ ['>'] := hin.subset List.mem_cons_self
      simp [h.noOpen] at hmem
  · exact hin

/-- Such a tag closes an element exactly if it is its closing tag. -/
theorem closes_bracketed (h : TagInner inner) (name : Text) :
    closes (bracketed inner) name = true ↔ Text.asciiLower inner = '/' :: Text.asciiLower name := by
  have hlower : Text.asciiLower (bracketed inner) = '<' :: (Text.asciiLower inner ++ ['>']) := by
    rw [bracketed, Text.asciiLower_append]
    rfl
  have hopen : '<' ∉ Text.asciiLower inner ++ ['>'] := by
    simp [Text.mem_asciiLower_iff (d := '<') rfl, h.noOpen]
  have hclose : '>' ∉ Text.asciiLower inner := by
    rw [Text.mem_asciiLower_iff rfl]
    exact h.noClose
  rw [closes_iff, hlower]
  constructor
  · -- The closing tag starts with the only `<` and ends with the only `>`: it is the whole tag.
    intro hin
    rcases List.infix_cons_iff.1 hin with hprefix | hin
    · have hrest : '/' :: Text.asciiLower name ++ ['>'] <+: Text.asciiLower inner ++ ['>'] :=
        (List.cons_prefix_cons.1 hprefix).2
      rcases List.prefix_concat_iff.1 hrest with heq | hrest
      · exact (List.append_cancel_right heq).symm
      · have hmem : '>' ∈ '/' :: Text.asciiLower name ++ ['>'] := by simp
        exact absurd (hrest.subset hmem) hclose
    · exact absurd (hin.subset List.mem_cons_self) hopen
  · intro heq
    rw [heq]
    exact List.infix_rfl

/-- A tag that does not start with a slash closes nothing. -/
theorem not_closes_bracketed (h : TagInner inner) (hhead : inner.head? ≠ some '/') (name : Text) :
    closes (bracketed inner) name = false := by
  rw [← Bool.not_eq_true, closes_bracketed h]
  intro heq
  cases inner with
  | nil => exact h.nonempty rfl
  | cons d t =>
      obtain ⟨hd, -⟩ := List.cons.inj heq
      obtain rfl : d = '/' := (Text.toLower_eq_iff rfl).1 hd
      exact hhead rfl

/-- For a name within ASCII, an excluded name in any case is one in any ASCII case. -/
theorem Exclusion.excludes_eq_lists (e : Exclusion) {name : Text}
    (hname : ∀ d ∈ name, d.toNat < 128) : e.excludes name = e.lists name := by
  rw [Exclusion.excludes, Exclusion.lists]
  congr 1
  funext n
  rw [map_foldCase_of_ascii hname, map_foldCase_of_ascii n.ascii]

namespace ElementTags

variable (tags : ElementTags)

theorem head_opening : (tags.name ++ tags.attributes).head? ≠ some '/' := by
  obtain ⟨d, t, hname⟩ := List.exists_cons_of_ne_nil tags.named
  have hhead := tags.notClosing
  rw [hname] at hhead ⊢
  exact hhead

/-- The name in the closing tag has no more brackets than the one in the opening tag. -/
theorem not_mem_closingName {d : Char} (hd : d.isAlpha = false) (h : d ∉ tags.name) :
    d ∉ tags.closingName := by
  rwa [← Text.mem_asciiLower_iff hd, tags.same, Text.mem_asciiLower_iff hd]

theorem proper_closing : TagInner ('/' :: tags.closingName) where
  nonempty := List.cons_ne_nil _ _
  noOpen := by
    have hname : '<' ∉ tags.name := fun h => tags.proper.noOpen (List.mem_append_left _ h)
    simp [tags.not_mem_closingName rfl hname]
  noClose := by
    have hname : '>' ∉ tags.name := fun h => tags.proper.noClose (List.mem_append_left _ h)
    simp [tags.not_mem_closingName rfl hname]
  noComment := by
    intro h
    exact absurd (List.cons_prefix_cons.1 h).1 (by decide)

/-- The opening tag opens the element with its name. -/
theorem opened_opening (e : Exclusion) :
    e.opened tags.opening = if e.lists tags.name then some tags.name else none := by
  rw [← e.excludes_eq_lists tags.ascii]
  -- What ends the name is the `>` of the tag, or the white space in front of the attributes.
  have hopen := tags.proper.noOpen
  have happart := tags.apart
  rw [opening]
  cases hattributes : tags.attributes with
  | nil =>
      rw [hattributes] at hopen
      have htag := e.opened_tag (t := []) tags.whole (d := '>') rfl (by simpa using hopen)
      simpa [bracketed] using htag
  | cons d rest =>
      rw [hattributes] at hopen happart
      have hblank : Exclusion.endsName d = true := by
        simp only [List.head?_cons, Option.all_some] at happart
        rw [Exclusion.endsName, happart]
        rfl
      have htag := e.opened_tag (t := rest ++ ['>']) tags.whole hblank (by simpa using hopen)
      simpa [bracketed] using htag

theorem opened_closing (e : Exclusion) : e.opened tags.closing = none := by
  have hopen : '<' ∉ tags.closingName := fun h =>
    tags.proper_closing.noOpen (List.mem_cons_of_mem _ h)
  exact e.opened_slash (t := tags.closingName ++ ['>']) (by simp [hopen])

/-- The closing tag closes the elements with its name. -/
theorem closes_closing (name : Text) :
    closes tags.closing name = true ↔ Text.asciiLower tags.name = Text.asciiLower name := by
  have hslash : Text.asciiLower ('/' :: tags.closingName)
      = '/' :: Text.asciiLower tags.closingName := rfl
  rw [closing, closes_bracketed tags.proper_closing, hslash, tags.same, List.cons.injEq]
  exact and_iff_right rfl

end ElementTags

/-- Other bodies in the text of a document are other bodies in the document. -/
theorem render_comments_written (f : Text → Text) (d : Document) (x : Text) :
    ((comments (d.render ++ x)).map f).render comment
      = d.written f ++ ((comments x).map f).render comment := by
  -- Each piece of the document is cut off in front of the comment cut of what follows it.
  induction d generalizing x with
  | nil => rfl
  | text t plain rest ih =>
      have hsplit : (Document.text t plain rest).render ++ x = t ++ (rest.render ++ x) :=
        List.append_assoc _ _ _
      rw [hsplit, comments_append_of_not_mem plain, Cut.map_prepend, Cut.render_prepend, ih,
        Document.written, List.append_assoc]
  | comment body closed rest ih =>
      have hsplit : (Document.comment body closed rest).render ++ x
          = [] ++ comment body ++ (rest.render ++ x) := List.append_assoc _ _ _
      have hnone : ¬ commentOpen <:+: [] := by decide
      rw [hsplit, comments_comment _ hnone closed, Cut.map_cons, Cut.render_cons, ih,
        List.nil_append, Document.written, List.append_assoc]
  | leaf tag rest ih =>
      have hsplit : (Document.leaf tag rest).render ++ x
          = bracketed tag.inner ++ (rest.render ++ x) := List.append_assoc _ _ _
      rw [hsplit, comments_bracketed tag.proper, Cut.map_prepend, Cut.render_prepend, ih,
        Document.written, List.append_assoc]
  | element tags children rest ihc ihr =>
      have hsplit : (Document.element tags children rest).render ++ x
          = tags.opening ++ (children.render ++ (tags.closing ++ (rest.render ++ x))) := by
        simp [Document.render, Document.written]
      rw [hsplit, ElementTags.opening, comments_bracketed tags.proper, Cut.map_prepend,
        Cut.render_prepend, ihc, ElementTags.closing, comments_bracketed tags.proper_closing,
        Cut.map_prepend, Cut.render_prepend, ihr, Document.written, ElementTags.opening,
        ElementTags.closing]
      simp only [List.append_assoc]

end BareUrl.Markup
