import BareUrl.Proofs.Converter.Numbers
import BareUrl.Proofs.Markup.Document

/-!
# `BareUrl.Proofs.Converter.Nesting`: excluded elements of a document

The walk knows of one open element at most, by the text of a closing tag, and looks at no other tag
as long as that element is open. In a document the text to leave alone is that of all elements that
are excluded ones, at any depth. `find_render` says that the two agree: the URLs of a document that
fits the exclusion are those of its runs of text that have no excluded element around them.

The walk over a document is followed up to the tag behind it (`Abuts`), with the text that has been
read since the last tag in front of it. Inside of an excluded element it finds nothing and is still
there at the end, since no element inside has the same name (`tokens_walk_excluded`). Outside it
finds the URLs of the runs and is outside again at the end (`tokens_walk_scanning`).
-/

set_option autoImplicit false

namespace BareUrl.Converter

open Markup (Mode Chunk chunks maskToken Document TextRun bracketed TagInner)

variable {c : Converter} {x g : Text} {following rest : List Chunk}

/-! ### The URLs of runs -/

/-- The URLs of the runs of text that have no excluded element around them. -/
def urlsOutside (c : Converter) (runs : List TextRun) : List Url.Found :=
  (runs.filter fun run => !run.ancestors.any c.exclusion.lists).flatMap fun run =>
    (c.grammar.find run.text).tokens

theorem urlsOutside_nil (c : Converter) : c.urlsOutside [] = [] := rfl

theorem urlsOutside_append (c : Converter) (runs runs' : List TextRun) :
    c.urlsOutside (runs ++ runs') = c.urlsOutside runs ++ c.urlsOutside runs' := by
  simp [urlsOutside]

theorem urlsOutside_cons {ancestors : List Text} (h : ancestors.any c.exclusion.lists = false)
    (t : Text) (runs : List TextRun) :
    c.urlsOutside (⟨ancestors, t⟩ :: runs) = (c.grammar.find t).tokens ++ c.urlsOutside runs := by
  simp [urlsOutside, h]

theorem urlsOutside_cons_of_excluded {ancestors : List Text}
    (h : ancestors.any c.exclusion.lists = true) (t : Text) (runs : List TextRun) :
    c.urlsOutside (⟨ancestors, t⟩ :: runs) = c.urlsOutside runs := by
  simp [urlsOutside, h]

/-- In an excluded element there is no run that counts. -/
theorem urlsOutside_runs_of_excluded {ancestors : List Text}
    (h : ancestors.any c.exclusion.lists = true) (before : Text) (d : Document) :
    c.urlsOutside (d.runs ancestors before) = [] := by
  induction d generalizing ancestors before with
  | nil => rw [Document.runs, urlsOutside_cons_of_excluded h, urlsOutside_nil]
  | text t plain rest ih => exact ih h _
  | comment body closed rest ih => rw [Document.runs, urlsOutside_cons_of_excluded h, ih h]
  | leaf tag rest ih => rw [Document.runs, urlsOutside_cons_of_excluded h, ih h]
  | element tags children rest ihc ihr =>
      have hinside : (tags.name :: ancestors).any c.exclusion.lists = true := by
        rw [List.any_cons, h, Bool.or_true]
      rw [Document.runs, urlsOutside_cons_of_excluded h, urlsOutside_append, ihc hinside, ihr h,
        List.append_nil]

/-! ### What follows a document -/

/-- Text without `<` in front of this one is a chunk, and then come the given ones. -/
def Abuts (x : Text) (following : List Chunk) : Prop :=
  ∀ g, '<' ∉ g → chunks (g ++ x) = .text g :: following

theorem abuts_nil : Abuts [] [] := by
  intro g hg
  rw [List.append_nil, Markup.chunks_of_untagged (Markup.untagged_of_not_mem hg)]

theorem abuts_bracketed {inner : Text} (h : TagInner inner) (x : Text) :
    Abuts (bracketed inner ++ x) (.tag (bracketed inner) :: chunks x) :=
  fun _ hg => Markup.chunks_bracketed h hg x

theorem abuts_opening (tags : Markup.ElementTags) (x : Text) :
    Abuts (tags.opening ++ x) (.tag tags.opening :: chunks x) :=
  abuts_bracketed tags.proper x

theorem abuts_closing (tags : Markup.ElementTags) (x : Text) :
    Abuts (tags.closing ++ x) (.tag tags.closing :: chunks x) :=
  abuts_bracketed tags.proper_closing x

theorem abuts_comment (n : Nat) (x : Text) :
    Abuts (Markup.comment (maskToken n) ++ x)
      (.tag (Markup.comment (maskToken n)) :: chunks x) := by
  intro g hg
  have hinner : '>' ∉ '-' :: '-' :: (maskToken n ++ ['-', '-']) := by
    simp [Markup.not_mem_maskToken]
  rw [Markup.comment_eq_tag, ← List.append_assoc, Markup.chunks_tag x hg hinner]

/-! ### Walking over a document -/

theorem tokens_walk_tag (c : Converter) (mode : Mode) (t : Text) (rest : List Chunk) :
    (c.walk mode (.tag t :: rest)).1.tokens
      = (c.walk (mode.after c.exclusion t) rest).1.tokens := by
  rw [walk, Cut.tokens_prepend]

theorem tokens_walk_text (c : Converter) (t : Text) (rest : List Chunk) :
    (c.walk .scanning (.text t :: rest)).1.tokens
      = (c.grammar.find t).tokens ++ (c.walk .scanning rest).1.tokens := by
  rw [walk, Cut.tokens_append]

theorem tokens_walk_text_excluded (c : Converter) (name t : Text) (rest : List Chunk) :
    (c.walk (.excluded name) (.text t :: rest)).1.tokens
      = (c.walk (.excluded name) rest).1.tokens := by
  rw [walk, Cut.tokens_prepend]

/-- A tag that does not close the excluded element changes nothing. -/
theorem tokens_walk_tag_excluded {name t : Text} (h : Markup.closes t name = false)
    (rest : List Chunk) :
    (c.walk (.excluded name) (.tag t :: rest)).1.tokens
      = (c.walk (.excluded name) rest).1.tokens := by
  have hafter : (Mode.excluded name).after c.exclusion t = .excluded name := by
    rw [Mode.after, h]
    rfl
  rw [tokens_walk_tag, hafter]

theorem written_element (label : Text → Text) (tags : Markup.ElementTags)
    (children rest : Document) (x : Text) :
    (Document.element tags children rest).written label ++ x
      = tags.opening ++ (children.written label ++
        (tags.closing ++ (rest.written label ++ x))) := by
  simp [Document.written]

/-- In an excluded element the walk passes over a document with no element of the same name. -/
theorem tokens_walk_excluded {name : Text} {d : Document} (hd : d.hasElement name = false)
    (hx : Abuts x following) (hg : '<' ∉ g) :
    (c.walk (.excluded name) (chunks (g ++ (d.written (fun _ => maskToken 0) ++ x)))).1.tokens
      = (c.walk (.excluded name) following).1.tokens := by
  -- For every text that follows: what follows the children of an element is its closing tag.
  induction d generalizing x following g with
  | nil =>
      rw [Document.written, List.nil_append, hx g hg, tokens_walk_text_excluded]
  | text t plain rest ih =>
      rw [Document.written, List.append_assoc, ← List.append_assoc]
      exact ih hd hx (by simp [hg, plain])
  | comment body closed rest ih =>
      have hrest := ih (g := []) hd hx List.not_mem_nil
      rw [Document.written, List.append_assoc, abuts_comment _ _ g hg, tokens_walk_text_excluded,
        tokens_walk_tag_excluded (Markup.not_closes_maskToken 0 name)]
      exact hrest
  | leaf tag rest ih =>
      have hrest := ih (g := []) hd hx List.not_mem_nil
      rw [Document.written, List.append_assoc, abuts_bracketed tag.proper _ g hg,
        tokens_walk_text_excluded,
        tokens_walk_tag_excluded (Markup.not_closes_bracketed tag.proper tag.notClosing name)]
      exact hrest
  | element tags children rest ihc ihr =>
      rw [Document.hasElement, Bool.or_eq_false_iff, Bool.or_eq_false_iff] at hd
      obtain ⟨⟨hname, hchildren⟩, hrest⟩ := hd
      -- Of the two tags only the closing one could close an element, and it has another name.
      have hopening : Markup.closes tags.opening name = false :=
        Markup.not_closes_bracketed tags.proper tags.head_opening name
      have hclosing : Markup.closes tags.closing name = false := by
        rw [← Bool.not_eq_true, tags.closes_closing]
        simpa using hname
      have hcloses := abuts_closing tags (rest.written (fun _ => maskToken 0) ++ x)
      have hinside := ihc (g := []) hchildren hcloses List.not_mem_nil
      have hbehind := ihr (g := []) hrest hx List.not_mem_nil
      rw [List.nil_append, tokens_walk_tag_excluded hclosing] at hinside
      rw [written_element, abuts_opening tags _ g hg, tokens_walk_text_excluded,
        tokens_walk_tag_excluded hopening]
      exact hinside.trans hbehind

/-- Outside of excluded elements the walk finds the URLs of the runs of a document. -/
theorem tokens_walk_scanning {d : Document} (hd : d.fits c.exclusion = true)
    {ancestors : List Text} (hancestors : ancestors.any c.exclusion.lists = false)
    (hx : Abuts x following) (hg : '<' ∉ g) :
    (c.walk .scanning (chunks (g ++ (d.written (fun _ => maskToken 0) ++ x)))).1.tokens
      = c.urlsOutside (d.runs ancestors g) ++ (c.walk .scanning following).1.tokens := by
  -- The text read so far, `g`, is the start of the first run.
  induction d generalizing x following g ancestors with
  | nil =>
      rw [Document.written, List.nil_append, hx g hg, tokens_walk_text, Document.runs,
        urlsOutside_cons hancestors, urlsOutside_nil, List.append_nil]
  | text t plain rest ih =>
      rw [Document.written, List.append_assoc, ← List.append_assoc]
      exact ih hd hancestors hx (by simp [hg, plain])
  | comment body closed rest ih =>
      have hrest := ih (g := []) hd hancestors hx List.not_mem_nil
      have hafter : Mode.scanning.after c.exclusion (Markup.comment (maskToken 0)) = .scanning := by
        rw [Mode.after, Markup.opened_comment_alone]
      rw [Document.written, List.append_assoc, abuts_comment _ _ g hg, tokens_walk_text,
        tokens_walk_tag, hafter, Document.runs, urlsOutside_cons hancestors, List.append_assoc]
      exact congrArg _ hrest
  | leaf tag rest ih =>
      rw [Document.fits, Bool.and_eq_true] at hd
      have hrest := ih (g := []) hd.2 hancestors hx List.not_mem_nil
      have hafter : Mode.scanning.after c.exclusion (bracketed tag.inner) = .scanning := by
        rw [Mode.after, Option.isNone_iff_eq_none.1 hd.1]
      rw [Document.written, List.append_assoc, abuts_bracketed tag.proper _ g hg, tokens_walk_text,
        tokens_walk_tag, hafter, Document.runs, urlsOutside_cons hancestors, List.append_assoc]
      exact congrArg _ hrest
  | element tags children rest ihc ihr =>
      rw [Document.fits, Bool.and_eq_true, Bool.and_eq_true] at hd
      obtain ⟨⟨hnested, hchildren⟩, hrest⟩ := hd
      have hbehind := ihr (g := []) hrest hancestors hx List.not_mem_nil
      have hcloses := abuts_closing tags (rest.written (fun _ => maskToken 0) ++ x)
      have hinside : (c.walk (Mode.scanning.after c.exclusion tags.opening) (chunks
          (children.written (fun _ => maskToken 0) ++
            (tags.closing ++ (rest.written (fun _ => maskToken 0) ++ x))))).1.tokens
          = c.urlsOutside (children.runs (tags.name :: ancestors) []) ++
            (c.walk .scanning (chunks (rest.written (fun _ => maskToken 0) ++ x))).1.tokens := by
        rw [Mode.after, tags.opened_opening]
        cases hlists : c.exclusion.lists tags.name with
        | true =>
            -- The element is an excluded one, and its own closing tag is the first that closes it.
            have hname : children.hasElement tags.name = false := by simpa [hlists] using hnested
            have hpassed := tokens_walk_excluded (c := c) (g := []) hname hcloses
              List.not_mem_nil
            have hnone : (tags.name :: ancestors).any c.exclusion.lists = true := by
              rw [List.any_cons, hlists, Bool.true_or]
            have hclosed : (Mode.excluded tags.name).after c.exclusion tags.closing
                = .scanning := by
              rw [Mode.after, (tags.closes_closing tags.name).2 rfl]
              rfl
            rw [tokens_walk_tag, hclosed] at hpassed
            rw [urlsOutside_runs_of_excluded hnone]
            exact hpassed
        | false =>
            -- The walk goes on as before, as neither tag opens an excluded element.
            have hnone : (tags.name :: ancestors).any c.exclusion.lists = false := by
              rw [List.any_cons, hlists, hancestors, Bool.or_false]
            have hwalked := ihc (g := []) hchildren hnone hcloses List.not_mem_nil
            have hclosed : Mode.scanning.after c.exclusion tags.closing = .scanning := by
              rw [Mode.after, tags.opened_closing]
            rw [tokens_walk_tag, hclosed] at hwalked
            exact hwalked
      rw [written_element, abuts_opening tags _ g hg, tokens_walk_text, tokens_walk_tag, hinside,
        Document.runs, urlsOutside_cons hancestors, urlsOutside_append, List.append_assoc,
        List.append_assoc]
      exact congrArg _ (congrArg _ hbehind)

/-- The URLs of a document that fits the exclusion are those of its runs of text that have no
excluded element around them, in order. -/
theorem find_render (c : Converter) (d : Document) (hd : d.fits c.exclusion = true) :
    (c.find d.render).1
      = (d.textRuns.filter fun run => !run.ancestors.any c.exclusion.lists).flatMap fun run =>
          (c.grammar.find run.text).tokens := by
  have hnil : Markup.Uncommented [] := Markup.uncommented_of_no_open (by decide)
  have hwritten := Markup.render_comments_written (fun _ => maskToken 0) d []
  rw [List.append_nil, Markup.comments_of_uncommented hnil] at hwritten
  have hnone : ([] : List Text).any c.exclusion.lists = false := rfl
  have hwalk := tokens_walk_scanning hd hnone abuts_nil List.not_mem_nil
  rw [find_eq_tokens_walk, hwritten]
  exact hwalk.trans (List.append_nil _)

/-- An excluded element with another one inside, names in several cases, a closing tag in a comment
and a run that two pieces of text make. -/
theorem find_render_nested :
    ∃ d : Document,
      d.render = ("<div class=\"a\">http://a.cc<Code>http://b.cc <A\n>http://c.cc</a>" ++
        "<!--</code>-->http://d.cc</cODE><br/>http://e.cc</DIV>").toList ∧
      d.textRuns = [([], ""), (["div"], "http://a.cc"), (["Code", "div"], "http://b.cc "),
        (["A", "Code", "div"], "http://c.cc"), (["Code", "div"], ""),
        (["Code", "div"], "http://d.cc"), (["div"], ""), (["div"], "http://e.cc"), ([], "")].map
          (fun (names, t) => ⟨names.map String.toList, t.toList⟩) ∧
      d.fits usual.exclusion = true ∧
      (usual.find d.render).1
        = ((d.textRuns.filter fun run => !run.ancestors.any usual.exclusion.lists).flatMap
            fun run => (usual.grammar.find run.text).tokens) ∧
      (usual.find d.render).1.map Url.Found.url
        = ["http://a.cc", "http://e.cc"].map String.toList := by
  let division : Markup.ElementTags := ⟨"div".toList, " class=\"a\"".toList, "DIV".toList,
    by decide, by simp, by simp [Markup.Exclusion.endsName, Text.isBlank], by decide, by decide,
    by decide +kernel, by decide⟩
  let code : Markup.ElementTags := ⟨"Code".toList, [], "cODE".toList,
    by decide, by simp, by simp [Markup.Exclusion.endsName, Text.isBlank], by decide, by decide,
    by decide +kernel, by decide⟩
  let link : Markup.ElementTags := ⟨"A".toList, "\n".toList, "a".toList,
    by decide, by simp, by simp [Markup.Exclusion.endsName, Text.isBlank], by decide, by decide,
    by decide +kernel, by decide⟩
  let lineBreak : Markup.LeafTag := ⟨"br/".toList, by decide +kernel, by decide⟩
  let inside : Document := .text "http://b.cc ".toList (by decide +kernel)
    (.element link (.text "http://c.cc".toList (by decide +kernel) .nil)
      (.comment "</code>".toList (by decide +kernel)
        (.text "http://d.cc".toList (by decide +kernel) .nil)))
  let d : Document := .element division
    (.text "http://".toList (by decide +kernel) (.text "a.cc".toList (by decide +kernel)
      (.element code inside
        (.leaf lineBreak (.text "http://e.cc".toList (by decide +kernel) .nil)))))
    .nil
  have hfits : d.fits usual.exclusion = true := by decide +kernel
  have hfind := find_render usual d hfits
  refine ⟨d, by decide +kernel, by decide +kernel, hfits, hfind, ?_⟩
  rw [hfind]
  decide +kernel

end BareUrl.Converter
