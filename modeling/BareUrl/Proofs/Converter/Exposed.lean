import BareUrl.Proofs.Converter.Rewrite
import BareUrl.Proofs.Markup.Exclusion

/-!
# `BareUrl.Proofs.Converter.Exposed`: the walk over a placeholder

A placeholder is two tags with nothing in between, and it leaves no excluded element open that was
not open before, even if it is an excluded element itself (`after_placeholder`). So the walk goes
on behind it as if it were not there. Only a `<` before it that was not closed changes that: the
placeholder closes it (`walk_placeholder`).

What a placeholder does to the text before it is that this text now ends where a `<` stands. A URL
that ends there is `Exposed`.
-/

set_option autoImplicit false

namespace BareUrl

open Markup (Mode Chunk chunks Untagged)

namespace Converter

/-! ### URLs in front of placeholders -/

/-- `true` if a URL that gets the answer becomes a placeholder. -/
def embeds : Answer → Bool
  | .ok resolution => resolution.isEmbeddable
  | .error _ => false

/-- The URL stands right in front of a placeholder. -/
def Exposed (k : Cut Url.Found) (f : Url.Found) : Prop :=
  ∃ (before after : Cut Url.Found) (url : Text), '<' ∉ url ∧ '>' ∉ url ∧
    k = before.append ((after.prepend (placeholder url)).cons [] f)

variable {k d : Cut Url.Found} {f : Url.Found} {answer : Url.Found → Answer}

theorem Exposed.prepend (h : Exposed k f) (t : Text) : Exposed (k.prepend t) f := by
  obtain ⟨before, after, url, hopen, hclose, rfl⟩ := h
  exact ⟨before.prepend t, after, url, hopen, hclose, (Cut.prepend_append _ _ _).symm⟩

theorem Exposed.append_left (h : Exposed k f) (d : Cut Url.Found) : Exposed (k.append d) f := by
  obtain ⟨before, after, url, hopen, hclose, rfl⟩ := h
  refine ⟨before, after.append d, url, hopen, hclose, ?_⟩
  rw [Cut.append_assoc, Cut.cons_append, Cut.prepend_append]

theorem Exposed.append_right (h : Exposed d f) (k : Cut Url.Found) : Exposed (k.append d) f := by
  obtain ⟨before, after, url, hopen, hclose, rfl⟩ := h
  exact ⟨k.append before, after, url, hopen, hclose, (Cut.append_assoc _ _ _).symm⟩

/-- Of the URLs of the cut, only those right in front of a placeholder become placeholders. -/
def OnlyExposed (answer : Url.Found → Answer) (k : Cut Url.Found) : Prop :=
  ∀ f ∈ k.tokens, embeds (answer f) = true → Exposed k f

theorem onlyExposed_of_none (h : ∀ f ∈ k.tokens, embeds (answer f) = false) :
    OnlyExposed answer k := by
  intro f hf hembeds
  rw [h f hf] at hembeds
  exact absurd hembeds Bool.noConfusion

theorem OnlyExposed.prepend (h : OnlyExposed answer k) (t : Text) :
    OnlyExposed answer (k.prepend t) := by
  intro f hf hembeds
  rw [Cut.tokens_prepend] at hf
  exact (h f hf hembeds).prepend t

theorem OnlyExposed.append (hk : OnlyExposed answer k) (hd : OnlyExposed answer d) :
    OnlyExposed answer (k.append d) := by
  intro f hf hembeds
  rw [Cut.tokens_append] at hf
  rcases List.mem_append.1 hf with hf | hf
  · exact (hk f hf hembeds).append_left d
  · exact (hd f hf hembeds).append_right k

/-- A URL that ends a text is right in front of the placeholder that follows. -/
theorem exposed_of_last {gap : Text} {before : List (Text × Url.Found)} {url : Text}
    (hparts : k.parts = before ++ [(gap, f)]) (hlast : k.last = []) (hopen : '<' ∉ url)
    (hclose : '>' ∉ url) (d : Cut Url.Found) :
    Exposed (k.append (d.prepend (placeholder url))) f := by
  have hk : k = Cut.append ⟨before, gap⟩ ((Cut.leaf []).cons [] f) := by
    obtain ⟨parts, last⟩ := k
    obtain rfl : parts = before ++ [(gap, f)] := hparts
    obtain rfl : last = [] := hlast
    simp [Cut.append, Cut.cons, Cut.leaf, Cut.prepend]
  refine ⟨⟨before, gap⟩, d, url, hopen, hclose, ?_⟩
  rw [hk, Cut.append_assoc, Cut.cons_append, Cut.leaf_append, Cut.prepend_nil]

/-! ### The two tags of a placeholder -/

/-- The tag that a placeholder starts with. -/
def frontTag (url : Text) : Text := placeholderFront ++ (url ++ ['"', '>'])

/-- The tag that a placeholder ends with. -/
def backTag : Text := Markup.tag '/' placeholderName

theorem placeholder_eq_tags (url : Text) : placeholder url = frontTag url ++ backTag := by
  simp [placeholder_eq, frontTag, backTag, placeholderBack_eq, placeholderName_eq, Markup.tag]

/-- The chunks of a text with a placeholder in it. -/
theorem chunks_placeholder {s url : Text} (hs : Untagged s) (hurl : '>' ∉ url) :
    ∃ before opened, s = before ++ opened ∧ '<' ∉ before ∧
      (opened = [] ∨ ∃ x, opened = '<' :: x) ∧
      ∀ rest, chunks (s ++ (placeholder url ++ rest))
        = .text before :: .tag (opened ++ frontTag url) :: .text [] :: .tag backTag ::
            chunks rest := by
  obtain ⟨before, opened, hsplit, hbefore, hopened, hchunks⟩ := Markup.chunks_append_tag hs
  refine ⟨before, opened, hsplit, hbefore, hopened, fun rest => ?_⟩
  have hfront : frontTag url
      = Markup.tag 'd' (placeholderFront.tail.tail ++ (url ++ ['"'])) := by
    simp [frontTag, placeholderFront_eq, Markup.tag]
  have hinner : '>' ∉ 'd' :: (placeholderFront.tail.tail ++ (url ++ ['"'])) := by
    simp [placeholderFront_eq, hurl]
  have hname : '>' ∉ placeholderName := by
    rw [placeholderName_eq]
    decide
  have hback : backTag ++ rest = [] ++ Markup.tag '/' placeholderName ++ rest := rfl
  rw [placeholder_eq_tags, hfront, List.append_assoc, hchunks _ _ _ hinner, ← hfront, hback,
    Markup.chunks_tag _ List.not_mem_nil hname]
  rfl

/-! ### Excluded elements -/

theorem opened_frontTag (e : Markup.Exclusion) {url : Text} (hurl : '<' ∉ url) :
    e.opened (frontTag url)
      = if e.excludes placeholderName then some placeholderName else none := by
  have hfront : frontTag url = '<' :: (placeholderName ++ ' ' ::
      (placeholderAttribute ++ (['=', '"'] ++ (url ++ ['"', '>'])))) := by
    simp [frontTag, placeholderFront_eq, placeholderName_eq, placeholderAttribute_eq]
  have hname : placeholderName.any Markup.Exclusion.endsName = false := by decide
  have hopen : '<' ∉ placeholderName ++ ' ' ::
      (placeholderAttribute ++ (['=', '"'] ++ (url ++ ['"', '>']))) := by
    simp [placeholderName_eq, placeholderAttribute_eq, hurl]
  rw [hfront]
  exact e.opened_tag (by simpa using hname) rfl hopen

theorem opened_backTag (e : Markup.Exclusion) : e.opened backTag = none :=
  e.opened_slash (by simp [placeholderName_eq])

theorem closes_backTag : Markup.closes backTag placeholderName = true := by
  rw [backTag, placeholderName_eq]
  decide

/-- A placeholder leaves no excluded element open. -/
theorem after_placeholder (e : Markup.Exclusion) {url : Text} (hurl : '<' ∉ url) :
    (Mode.scanning.after e (frontTag url)).after e backTag = .scanning := by
  rw [Mode.after, opened_frontTag e hurl]
  split
  · -- Placeholders are excluded elements themselves: the front opens one and the back closes it.
    rename_i name h
    split at h
    · obtain rfl := Option.some.inj h
      rw [Mode.after, closes_backTag]
      rfl
    · simp at h
  · rw [Mode.after, opened_backTag]

/-! ### Walking on -/

/-- The cut of the text between two tags. -/
def scanned (c : Converter) : Mode → Text → Cut Url.Found
  | .scanning, t => c.grammar.find t
  | .excluded _, t => .leaf t

theorem walk_text (c : Converter) (mode : Mode) (t : Text) (rest : List Chunk) :
    (c.walk mode (.text t :: rest)).1 = (c.scanned mode t).append (c.walk mode rest).1 := by
  cases mode with
  | scanning => rw [walk, scanned]
  | excluded name => rw [walk, scanned, Cut.leaf_append]

theorem walk_tag (c : Converter) (mode : Mode) (t : Text) (rest : List Chunk) :
    (c.walk mode (.tag t :: rest)).1 = (c.walk (mode.after c.exclusion t) rest).1.prepend t := by
  rw [walk]

theorem scanned_nil (c : Converter) (mode : Mode) : c.scanned mode [] = .leaf [] := by
  cases mode with
  | scanning => rw [scanned, Url.Grammar.find_nil]
  | excluded name => rfl

/-- The walk over a text with a placeholder in it. What is looked at before the placeholder ends
with it, or with a `<` that was not closed. -/
theorem walk_placeholder (c : Converter) (mode : Mode) {s url : Text} (hs : Untagged s)
    (hopen : '<' ∉ url) (hclose : '>' ∉ url) :
    ∃ before opened mode', s = before ++ opened ∧ '<' ∉ before ∧
      (opened = [] ∨ ∃ x, opened = '<' :: x) ∧
      (mode = .scanning → opened = [] → mode' = .scanning) ∧
      ∀ rest, (c.walk mode (chunks (s ++ (placeholder url ++ rest)))).1
        = (c.scanned mode before).append
            ((c.walk mode' (chunks rest)).1.prepend (opened ++ placeholder url)) := by
  obtain ⟨before, opened, hsplit, hbefore, hopened, hchunks⟩ := chunks_placeholder hs hclose
  refine ⟨before, opened,
    (mode.after c.exclusion (opened ++ frontTag url)).after c.exclusion backTag, hsplit, hbefore,
    hopened, ?_, fun rest => ?_⟩
  · rintro rfl rfl
    exact after_placeholder c.exclusion hopen
  · rw [hchunks, walk_text, walk_tag, walk_text, walk_tag, scanned_nil, Cut.leaf_append,
      Cut.prepend_nil, Cut.prepend_prepend, placeholder_eq_tags, List.append_assoc]

end Converter

end BareUrl
