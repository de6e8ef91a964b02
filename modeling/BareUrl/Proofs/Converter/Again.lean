import BareUrl.Proofs.Converter.Exposed
import BareUrl.Proofs.Converter.Splice
import BareUrl.Proofs.Url.Before

/-!
# `BareUrl.Proofs.Converter.Again`: the walk over a converted text

A text is converted, and the walk goes over what comes out. What does it find? It finds the URLs
that stayed, none where placeholders are now, and what it finds beyond that is right in front of a
placeholder (`onlyExposed_walk`).

The proof follows the first walk. Since the last placeholder, a stretch of text was searched whose
URLs all stayed (`Url.Grammar.Searched`), and the text behind it is still to be searched. A URL
that stays makes the stretch longer. One that becomes a placeholder ends it, and what the second
search finds in it was found the first time, but for a URL that ends with the stretch.
-/

set_option autoImplicit false

namespace BareUrl

open Markup (Mode Chunk chunks Untagged)
open Url (Found)
open Url.Grammar (Searched)

/-! ### Answers that are known -/

namespace Piece

open Converter

/-- The piece that stands for a URL when the answers are known. -/
def settled (answer : Found → Answer) : Piece → Piece
  | .url f => answered f (answer f)
  | p => p

variable {answer : Found → Answer}

theorem answered_of_embeds {f : Found} {a : Answer} (h : embeds a = true) :
    answered f a = .plain (placeholder f.url) := by
  rcases a with e | (_ | _)
  · exact absurd h Bool.noConfusion
  · rfl
  · exact absurd h Bool.noConfusion

theorem answered_of_not_embeds {f : Found} {a : Answer} (h : embeds a = false) :
    answered f a = .url f := by
  rcases a with e | (_ | _)
  · rfl
  · exact absurd h Bool.noConfusion
  · rfl

theorem settled_of_embeds {f : Found} (h : embeds (answer f) = true) :
    settled answer (.url f) = .plain (placeholder f.url) := answered_of_embeds h

theorem settled_of_not_embeds {f : Found} (h : embeds (answer f) = false) :
    settled answer (.url f) = .url f := answered_of_not_embeds h

/-- Answers that are known make the same pieces one by one as in their order. -/
theorem rewrite_eq_map (answer : Found → Answer) (ps : List Piece) :
    rewrite ps ((urls ps).tokens.map answer) = ps.map (settled answer) := by
  induction ps with
  | nil => rfl
  | cons p ps ih =>
      cases p with
      | plain t =>
          have htokens : (urls (.plain t :: ps)).tokens = (urls ps).tokens := Cut.tokens_prepend _ _
          rw [htokens]
          exact congrArg (List.cons _) ih
      | comment body =>
          have htokens : (urls (.comment body :: ps)).tokens = (urls ps).tokens :=
            Cut.tokens_prepend _ _
          rw [htokens]
          exact congrArg (List.cons _) ih
      | url f => exact congrArg (List.cons _) ih

end Piece

namespace Converter

open Piece

variable {answer : Found → Answer} {c : Converter} {mode : Mode} {s x : Text}

/-- The text between two tags when the answers about its URLs are known. -/
theorem text_settled_cons (gap : Text) (f : Found) (k : Cut Found) :
    text (((k.cons gap f).pieces .plain .url).map (settled answer))
      = gap ++ ((settled answer (.url f)).written
          ++ text ((k.pieces .plain .url).map (settled answer))) := by
  rw [Cut.pieces_cons]
  rfl

/-- Answers are not about tags. -/
theorem text_settled_tagPieces (t : Text) :
    text ((tagPieces id t).map (settled answer)) = t := by
  have hkept : (tagPieces id t).map (settled answer) = tagPieces id t := by
    simp [tagPieces, Cut.pieces, List.map_flatMap, settled]
  rw [hkept, text_tagPieces]

/-! ### What follows a text -/

/-- What follows the text `t`: nothing, or, if `t` is scanned and holds no `<`, a tag and more text
in which only URLs in front of placeholders become placeholders. -/
def Followed (answer : Found → Answer) (c : Converter) (mode : Mode) (t after : Text) : Prop :=
  after = [] ∨ mode = .scanning ∧ '<' ∉ t ∧ ∃ d inner rest,
    '>' ∉ inner ∧ after = Markup.tag d inner ++ rest ∧
      OnlyExposed answer (c.walk (mode.after c.exclusion (Markup.tag d inner)) (chunks rest)).1

theorem Followed.mono {mode' : Mode} {t t' after : Text} (h : Followed answer c mode t after)
    (hmem : '<' ∈ t' → '<' ∈ t) (hmode : mode = .scanning → '<' ∉ t → mode' = .scanning) :
    Followed answer c mode' t' after := by
  rcases h with rfl | ⟨rfl, hopen, hrest⟩
  · exact .inl rfl
  · rw [hmode rfl hopen]
    exact .inr ⟨rfl, fun h => hopen (hmem h), hrest⟩

/-- Text whose URLs all stay, and what follows it. -/
theorem Followed.onlyExposed {t after : Text} (h : Followed answer c mode t after)
    (ht : Untagged t) (hkept : ∀ f ∈ (c.scanned mode t).tokens, embeds (answer f) = false) :
    OnlyExposed answer (c.walk mode (chunks (t ++ after))).1 := by
  rcases h with rfl | ⟨rfl, hopen, d, inner, rest, hinner, rfl, hrest⟩
  · rw [List.append_nil, Markup.chunks_of_untagged ht, walk_text]
    exact (onlyExposed_of_none hkept).append (onlyExposed_of_none (by simp [walk]))
  · rw [← List.append_assoc, Markup.chunks_tag rest hopen hinner, walk_text, walk_tag]
    exact (onlyExposed_of_none hkept).append (hrest.prepend _)

/-! ### The walk over text between two tags -/

/-- In a text whose URLs all stayed and that a placeholder ends now, what is found up to the
placeholder, or up to the `<` that it closes, stays again, or is right in front of the
placeholder. -/
theorem exposed_of_mem_scanned {k : Cut Found} {z before opened url : Text} {f : Found}
    (h : Searched c.grammar z (before ++ opened) k)
    (hk : ∀ f ∈ k.tokens, embeds (answer f) = false) (hbefore : '<' ∉ before)
    (hopened : opened = [] ∨ ∃ y, opened = '<' :: y) (hopen : '<' ∉ url) (hclose : '>' ∉ url)
    (hf : f ∈ (c.scanned mode before).tokens) (hembeds : embeds (answer f) = true)
    (d : Cut Found) :
    Exposed ((c.scanned mode before).append (d.prepend (opened ++ placeholder url))) f := by
  have hnew : f ∉ k.tokens := by
    intro hmem
    rw [hk f hmem] at hembeds
    exact absurd hembeds Bool.noConfusion
  cases mode with
  | excluded name => simp [scanned] at hf
  | scanning =>
      rcases hopened with rfl | ⟨y, rfl⟩
      · -- The placeholder starts a tag of its own.
        rw [List.append_nil] at h
        obtain ⟨⟨gap, f'⟩, hpart, rfl⟩ := List.mem_map.1 hf
        obtain ⟨parts, after, hparts⟩ := List.append_of_mem hpart
        rcases h.mem_of_find hparts with hmem | ⟨rfl, hlast, -⟩
        · exact absurd hmem hnew
        · exact exposed_of_last hparts hlast hopen hclose d
      · exact absurd (h.mem_of_bracket hbefore hf) hnew

/-- Text whose URLs all stayed, a new placeholder, and what follows that. Unless the placeholder
closes a `<`, it leaves the mode as it is. -/
theorem onlyExposed_placeholder {k : Cut Found} {z rest url : Text}
    (h : Searched c.grammar z s k) (hk : ∀ f ∈ k.tokens, embeds (answer f) = false)
    (hun : Untagged s) (hopen : '<' ∉ url) (hclose : '>' ∉ url)
    (hrest : ∀ mode', (mode = .scanning → '<' ∉ s → mode' = .scanning) →
      OnlyExposed answer (c.walk mode' (chunks rest)).1) :
    OnlyExposed answer (c.walk mode (chunks (s ++ (placeholder url ++ rest)))).1 := by
  obtain ⟨before, opened, mode', rfl, hbefore, hopened, hmode, hwalk⟩ :=
    c.walk_placeholder mode hun hopen hclose
  have hbehind : OnlyExposed answer (c.walk mode' (chunks rest)).1 := by
    refine hrest mode' fun hscan hnone => hmode hscan (hopened.resolve_right ?_)
    rintro ⟨y, rfl⟩
    simp at hnone
  rw [hwalk]
  intro f hf hembeds
  rw [Cut.tokens_append] at hf
  rcases List.mem_append.1 hf with hf | hf
  · exact exposed_of_mem_scanned h hk hbefore hopened hopen hclose hf hembeds _
  · exact ((hbehind.prepend _) f hf hembeds).append_right _

/-- The text `s` was searched since the last placeholder, and `x` is still to be searched. -/
theorem onlyExposed_of_searched {k : Cut Found} {after : Text}
    (h : Searched c.grammar x s k) (hk : ∀ f ∈ k.tokens, embeds (answer f) = false)
    (hun : Untagged (s ++ x)) (hafter : Followed answer c mode (s ++ x) after) :
    OnlyExposed answer (c.walk mode (chunks (s ++
      (text (((c.grammar.find x).pieces .plain .url).map (settled answer)) ++ after)))).1 := by
  induction x using Url.Grammar.find_induct c.grammar generalizing s k mode with
  | silent x hclear hfind =>
      have htext : s ++ (text (((c.grammar.find x).pieces .plain .url).map (settled answer))
          ++ after) = (s ++ x) ++ after := by
        rw [hfind]
        simp [settled, written]
      rw [htext]
      refine hafter.onlyExposed hun fun f hf => hk f ?_
      cases mode with
      | scanning =>
          rw [scanned, h.find_append, hfind] at hf
          simpa using hf
      | excluded name => simp [scanned] at hf
  | url gap f rest hled hurl hclear hfind ih =>
      have hread := Url.Grammar.led_eq_some hled hurl
      have hrest : gap ++ (f.matched ++ rest) = gap ++ f.matched ++ rest :=
        (List.append_assoc _ _ _).symm
      rw [hfind, text_settled_cons]
      cases hembeds : embeds (answer f) with
      | false =>
          -- The URL stays, so the stretch goes on behind it.
          rw [settled_of_not_embeds hembeds]
          rw [hrest, ← List.append_assoc] at hun hafter
          have hlonger := ih (h.extend_url hled hread hclear) ?_ hun hafter
          · simpa [written] using hlonger
          · intro f' hf'
            simp only [Cut.tokens_append, Cut.tokens_cons, Cut.tokens_leaf, List.mem_append,
              List.mem_singleton] at hf'
            rcases hf' with hf' | rfl
            · exact hk f' hf'
            · exact hembeds
      | true =>
          -- The stretch ends with the gap, and a new one starts behind the placeholder.
          rw [settled_of_embeds hembeds]
          have hopen : '<' ∉ f.url := Url.Grammar.not_mem_of_url rfl hurl
          have hclose : '>' ∉ f.url := Url.Grammar.not_mem_of_url rfl hurl
          have hkept : ∀ f' ∈ (k.append (.leaf gap)).tokens, embeds (answer f') = false := by
            simpa using hk
          have htext (t : Text) :
              s ++ (gap ++ ((Piece.plain (placeholder f.url)).written ++ t) ++ after)
                = s ++ gap ++ (placeholder f.url ++ (t ++ after)) := by
            simp [written]
          rw [htext]
          refine onlyExposed_placeholder (h.extend hclear) hkept
            (hun.of_infix ⟨[], f.matched ++ rest, by simp⟩) hopen hclose fun mode' hmode => ?_
          have hrest' : Untagged ([] ++ rest) := hun.of_infix ⟨s ++ gap ++ f.matched, [], by simp⟩
          -- Where a `<` was not closed nothing follows the text, so the mode does not matter.
          have hfollowed : Followed answer c mode' ([] ++ rest) after := by
            refine hafter.mono (fun hmem => by simp at hmem; simp [hmem]) fun hscan hnone => ?_
            refine hmode hscan fun hmem => hnone ?_
            rw [← List.append_assoc]
            exact List.mem_append_left _ hmem
          have hbehind := ih (.start rest) (by simp) hrest' hfollowed
          rwa [List.nil_append] at hbehind

/-! ### The walk over the whole text -/

/-- Of the URLs that the walk over a converted text finds, only those right in front of a
placeholder become placeholders. -/
theorem onlyExposed_walk (answer : Found → Answer) (c : Converter) (mode : Mode) (u : Text) :
    OnlyExposed answer
      (c.walk mode (chunks (text ((pieces id c mode (chunks u)).map (settled answer))))).1 := by
  induction u using Markup.chunks_induct generalizing mode with
  | plain t ht =>
      rw [Markup.chunks_of_untagged ht, pieces, pieces, List.append_nil]
      cases mode with
      | scanning =>
          have hfollowed : Followed answer c .scanning ([] ++ t) [] := .inl rfl
          have hall := onlyExposed_of_searched (.start t) (by simp) ht hfollowed
          rwa [List.nil_append, List.append_nil] at hall
      | excluded name =>
          have htext : text ((c.textPieces (.excluded name) t).map (settled answer)) = t := by
            simp [textPieces, settled, written]
          rw [htext, Markup.chunks_of_untagged ht, walk_text]
          exact onlyExposed_of_none (by simp [scanned, walk])
  | tag g d inner rest hg hi ih =>
      have hrest := ih (mode.after c.exclusion (Markup.tag d inner))
      have htag : text ((tagPieces id (Markup.tag d inner)).map (settled answer))
          = Markup.tag d inner := text_settled_tagPieces _
      rw [Markup.chunks_tag rest hg hi, pieces, pieces, List.map_append, List.map_append,
        text_append, text_append, htag]
      generalize text ((pieces id c _ (chunks rest)).map (settled answer)) = after at hrest ⊢
      cases mode with
      | scanning =>
          have hfollowed : Followed answer c .scanning ([] ++ g) (Markup.tag d inner ++ after) :=
            .inr ⟨rfl, hg, d, inner, after, hi, rfl, hrest⟩
          have hun : Untagged ([] ++ g) := Markup.untagged_of_not_mem hg
          have hall := onlyExposed_of_searched (.start g) (by simp) hun hfollowed
          rwa [List.nil_append] at hall
      | excluded name =>
          have htext : text ((c.textPieces (.excluded name) g).map (settled answer)) = g := by
            simp [textPieces, settled, written]
          rw [htext, ← List.append_assoc, Markup.chunks_tag _ hg hi, walk_text, walk_tag]
          exact (onlyExposed_of_none (by simp [scanned])).append (hrest.prepend _)

end Converter

end BareUrl
