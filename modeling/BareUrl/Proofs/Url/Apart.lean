import BareUrl.Proofs.Url.Before

/-!
# `BareUrl.Proofs.Url.Apart`: URLs and the text around them

Two laws about URLs and the text that they stand in.

* A URL that is found stands by itself: cut out of its text, it is found again, as the only one,
  and all of it (`spans_matched`). The text behind it may have kept its reader from another parse,
  but none of those goes on beyond the end of the URL.
* White space keeps URLs apart: what is found in a text with white space in it is what is found in
  front of that and what is found behind it (`spans_blank`). The same is true of every delimiter
  (`find_delimiter`), since no reader goes on over one (`same_led_delimiter`).
-/

set_option autoImplicit false

namespace BareUrl.Url.Grammar

open Reader (Same)

variable {g : Grammar} {s t rest : Text} {f : Found} {d : Char}

/-! ### Spans -/

/-- The spans of two cuts are those of the first one, and those of the second one behind it. -/
theorem spansFrom_append_cuts (offset : Nat) (c c' : Cut Found) :
    spansFrom offset (c.append c').parts
      = spansFrom offset c.parts
        ++ spansFrom (offset + Text.utf8Size (c.render Found.matched)) c'.parts := by
  induction c using Cut.ind generalizing offset with
  | leaf t =>
      -- The text of the leaf belongs to the first gap of the other cut.
      cases c' using Cut.ind with
      | leaf last => rfl
      | cons gap f c' _ =>
          show spansFrom offset ((t ++ gap, f) :: c'.parts)
            = spansFrom (offset + Text.utf8Size t) ((gap, f) :: c'.parts)
          simp only [spansFrom, Text.utf8Size_append, Nat.add_assoc]
  | cons gap f c ih =>
      have hsize : offset + Text.utf8Size gap + Text.utf8Size f.matched
          + Text.utf8Size (c.render Found.matched)
          = offset + Text.utf8Size ((c.cons gap f).render Found.matched) := by
        rw [Cut.render_cons, Text.utf8Size_append, Text.utf8Size_append]
        omega
      show _ :: spansFrom _ (c.append c').parts = _ :: (spansFrom _ c.parts ++ _)
      rw [ih, hsize]

/-- A span that lies further behind. -/
def shifted (n : Nat) (span : Nat × Nat × Found) : Nat × Nat × Found :=
  (n + span.1, n + span.2.1, span.2.2)

theorem spansFrom_shifted (n offset : Nat) (parts : List (Text × Found)) :
    spansFrom (n + offset) parts = (spansFrom offset parts).map (shifted n) := by
  induction parts generalizing offset with
  | nil => rfl
  | cons part parts ih =>
      simp only [spansFrom, List.map_cons, shifted, ← ih, Nat.add_assoc]

theorem eq_nil_of_utf8Size (h : Text.utf8Size t = 0) : t = [] := by
  cases t with
  | nil => rfl
  | cons c t =>
      have hsize : Text.utf8Size (c :: t) = Text.utf8Size [c] + Text.utf8Size t :=
        Text.utf8Size_append [c] t
      have hc : Text.utf8Size [c] = c.utf8Size := Nat.zero_add _
      have := c.utf8Size_pos
      omega

/-- One span over all of the text is that of a URL without text around it. -/
theorem spans_eq_singleton_iff :
    g.spans t = [(0, Text.utf8Size t, f)] ↔
      g.find t = (Cut.leaf []).cons [] f ∧ f.matched = t := by
  constructor
  · intro h
    have ht := render_find g t
    rw [spans] at h
    cases hfind : g.find t using Cut.ind with
    | leaf last =>
        rw [hfind] at h
        cases h
    | cons gap f' c _ =>
        rw [hfind] at h ht
        obtain ⟨hspan, hnone⟩ := List.cons.inj h
        simp only [Prod.mk.injEq] at hspan
        obtain ⟨hstart, hstop, rfl⟩ := hspan
        obtain rfl : gap = [] := eq_nil_of_utf8Size (by omega)
        cases c using Cut.ind with
        | leaf last =>
            rw [Cut.render_cons, Cut.render_leaf, List.nil_append] at ht
            -- The URL is as long as the text, so nothing is left behind it.
            have hsize := congrArg Text.utf8Size ht
            rw [Text.utf8Size_append] at hsize
            have hzero : Text.utf8Size ([] : Text) = 0 := rfl
            obtain rfl : last = [] := eq_nil_of_utf8Size (by omega)
            rw [List.append_nil] at ht
            exact ⟨rfl, ht⟩
        | cons gap' f'' c _ => cases hnone
  · rintro ⟨hfind, rfl⟩
    rw [spans, hfind]
    show [(0 + 0, 0 + 0 + Text.utf8Size f.matched, f)] = _
    simp

/-! ### A URL by itself -/

/-- A URL that is read with text behind it is read without that text. -/
theorem led_matched (h : g.led (f.matched ++ rest) = some (f.matched, rest)) :
    g.led (f.matched ++ []) = some (f.matched, []) := by
  rw [List.append_nil]
  rcases local_led g f.matched rest with hsame | ⟨a, r, hread, hlt⟩ | ⟨hall, -⟩
  · cases hs : g.led f.matched with
    | none =>
        rw [hsame.eq_none hs] at h
        cases h
    | some x =>
        obtain ⟨a, r⟩ := x
        rw [hsame.eq_some hs, Option.some.injEq, Prod.mk.injEq] at h
        obtain ⟨rfl, hr⟩ := h
        rw [List.append_left_eq_self.1 hr]
  · -- What is read is the URL, so it does not go on beyond its end.
    rw [h] at hread
    obtain ⟨rfl, -⟩ := Prod.mk.inj (Option.some.inj hread)
    exact absurd hlt (Nat.lt_irrefl _)
  · exact hall

theorem exists_led_of_mem_find (h : f ∈ (g.find t).tokens) :
    f.matched = g.leader ++ f.url ∧
      ∃ rest, g.led (f.matched ++ rest) = some (f.matched, rest) := by
  obtain ⟨hled, rest, hurl⟩ := exists_url_of_mem_find h
  exact ⟨hled, rest, led_eq_some hled hurl⟩

/-- A URL that starts a text is found there first. -/
theorem find_of_led_start (hled : f.matched = g.leader ++ f.url)
    (hread : g.led (f.matched ++ rest) = some (f.matched, rest)) :
    g.find (f.matched ++ rest) = (g.find rest).cons [] f := by
  -- The text in front of the URL is empty.
  show g.find ([] ++ (f.matched ++ rest)) = _
  exact find_of_led hled hread clearBefore_nil

/-- A URL that is found is found again in its own text, as the only one, and spans all of it. -/
theorem spans_matched {start stop : Nat} (h : (start, stop, f) ∈ g.spans t) :
    g.spans f.matched = [(0, Text.utf8Size f.matched, f)] := by
  obtain ⟨before, gap, after, hparts, -, -⟩ := of_mem_spansFrom h
  have hmem : f ∈ (g.find t).tokens := by
    rw [Cut.tokens, hparts]
    simp
  obtain ⟨hled, rest, hread⟩ := exists_led_of_mem_find hmem
  have hfind := find_of_led_start hled (led_matched hread)
  rw [List.append_nil, find_nil] at hfind
  exact spans_eq_singleton_iff.2 ⟨hfind, rfl⟩

/-- In its text the URL has a path with an `@`, as its last word goes on behind it. By itself it
has user information and a host. -/
theorem spans_matched_user :
    ∃ g, make ["http".toList] [] = .ok g ∧
      let m := "http:aa/x@b.cc".toList
      (3, 17, ⟨m, m⟩) ∈ g.spans ("(a ".toList ++ m ++ ['\u203F']) ∧
        g.spans m = [(0, 14, ⟨m, m⟩)] := by
  refine ⟨⟨[], [⟨"http".toList, by decide⟩], List.cons_ne_nil _ _⟩, rfl, ?_⟩
  intro m
  have hmem : (3, 17, Found.mk m m) ∈
      spans ⟨[], [⟨"http".toList, by decide⟩], List.cons_ne_nil _ _⟩
        ("(a ".toList ++ m ++ ['\u203F']) := by decide +kernel
  exact ⟨hmem, spans_matched hmem⟩

/-! ### Delimiters between URLs -/

/-- Nothing that is read reaches to a delimiter, and a word ends in front of it. So a delimiter and
what follows it make no difference to what is read. -/
theorem same_led_delimiter (hd : isDelimiter d = true) (hleader : d ∉ g.leader) (s t : Text) :
    Same g.led s (d :: t) := by
  rcases local_led g s (d :: t) with hsame | ⟨a, r, hread, hlt⟩ | ⟨-, hend⟩
  · exact hsame
  · exfalso
    -- The piece goes beyond `s`, so it holds the delimiter.
    have hsplit : s ++ d :: t = a ++ r :=
      (Reader.lossless_literal _).seq g.lossless_url _ _ _ hread
    have hmem : d ∈ a := by
      rcases List.append_eq_append_iff.1 hsplit with ⟨m, rfl, hm⟩ | ⟨m, rfl, -⟩
      · cases m with
        | nil => simp at hlt
        | cons c m =>
            obtain ⟨rfl, -⟩ := List.cons.inj hm
            simp
      · rw [List.length_append] at hlt
        omega
    obtain ⟨x, after, u, hx, hu, rfl⟩ := Reader.seq_eq_some_iff.1 hread
    obtain ⟨rfl, -⟩ := Reader.literal_eq_some_iff.1 hx
    rcases List.mem_append.1 hmem with hmem | hmem
    · exact hleader hmem
    · exact not_mem_of_reads_urlExpression hd (sound_url g _ _ _ hu) hmem
  · rw [endsWord_delimiter hd] at hend
    cases hend

/-- No URL starts in a text in front of a delimiter if none starts there in the text alone. -/
theorem not_starts_delimiter (hd : isDelimiter d = true) (hleader : d ∉ g.leader)
    (h : ¬ g.Starts s) (t : Text) : ¬ g.Starts (s ++ d :: t) := by
  rw [starts_iff_led, Option.not_isSome_iff_eq_none] at h ⊢
  exact (same_led_delimiter hd hleader s t).eq_none h

/-- What is found in a text is found in it with a delimiter behind it. -/
theorem searched_delimiter (hd : isDelimiter d = true) (hleader : d ∉ g.leader) (s t : Text) :
    Searched g (d :: t) s (g.find s) := by
  induction s using find_induct g with
  | silent s hsilent hfind =>
      rw [hfind]
      refine .silent fun x y hs _ => ?_
      exact not_starts_delimiter hd hleader (hsilent x y hs) t
  | url gap f rest hled hurl hclear hfind ih =>
      rw [hfind]
      refine .url hled ?_ (fun x y hgap hy => ?_) ih
      · have hread := (same_led_delimiter hd hleader (f.matched ++ rest) t).eq_some
          (led_eq_some hled hurl)
        rwa [List.append_assoc] at hread
      · have hnone := not_starts_delimiter hd hleader (hclear x y hgap hy) t
        rwa [List.append_assoc, List.append_assoc] at hnone

/-- A delimiter keeps URLs apart, if the leader does not hold it. -/
theorem find_delimiter (hd : isDelimiter d = true) (hleader : d ∉ g.leader) (s t : Text) :
    g.find (s ++ d :: t) = (g.find s).append ((g.find t).prepend [d]) := by
  -- At the delimiter itself nothing starts, as nothing starts in an empty text.
  have hclear : g.ClearBefore [d] t := by
    refine clearBefore_cons.2 ⟨?_, clearBefore_nil⟩
    have hnone := not_starts_delimiter hd hleader (not_starts_nil (g := g)) t
    rwa [starts_iff_led, Option.not_isSome_iff_eq_none] at hnone
  have hbehind : g.find (d :: t) = (g.find t).prepend [d] := find_append_of_clear hclear
  rw [(searched_delimiter hd hleader s t).find_append, hbehind]

/-- White space keeps URLs apart, if the leader holds none: in front of it and behind it the same
URLs are found as in two texts. -/
theorem spans_blank (hleader : ∀ c ∈ g.leader, Text.isBlank c = false)
    (hd : Text.isBlank d = true) (s t : Text) :
    g.spans (s ++ d :: t)
      = g.spans s ++ (g.spans t).map (shifted (Text.utf8Size (s ++ [d]))) := by
  have hnot : d ∉ g.leader := by
    intro hmem
    rw [hleader d hmem] at hd
    cases hd
  have hsplit : (g.find s).append ((g.find t).prepend [d])
      = ((g.find s).append (Cut.leaf [d])).append (g.find t) := by
    rw [Cut.append_assoc, Cut.leaf_append]
  have hsize : Text.utf8Size (((g.find s).append (Cut.leaf [d])).render Found.matched)
      = Text.utf8Size (s ++ [d]) := by
    rw [Cut.render_append, render_find, Cut.render_leaf]
  have hfront : spansFrom 0 ((g.find s).append (Cut.leaf [d])).parts = g.spans s := by
    rw [spansFrom_append_cuts]
    exact List.append_nil _
  rw [spans, find_delimiter (isDelimiter_of_isBlank hd) hnot, hsplit, spansFrom_append_cuts, hfront,
    hsize, Nat.zero_add]
  exact congrArg _ (spansFrom_shifted _ 0 _)

/-- A space that takes three bytes, between URLs with a leader. -/
theorem spans_blank_wide :
    ∃ g, make ["http".toList] ['_'] = .ok g ∧
      let first : Found := ⟨"_http:aa".toList, "http:aa".toList⟩
      let second : Found := ⟨"_http:bb".toList, "http:bb".toList⟩
      (∀ c ∈ g.leader, Text.isBlank c = false) ∧ Text.isBlank '\u3000' = true ∧
        g.spans (first.matched ++ '\u3000' :: second.matched)
          = [(0, 8, first), (11, 19, second)] := by
  refine ⟨⟨['_'], [⟨"http".toList, by decide⟩], List.cons_ne_nil _ _⟩, rfl, ?_⟩
  intro first second
  have hleader : ∀ c ∈ ['_'], Text.isBlank c = false := by
    intro c hc
    obtain rfl := List.mem_singleton.1 hc
    rfl
  have hwide : Text.isBlank '\u3000' = true := by decide
  exact ⟨hleader, hwide, (spans_blank hleader hwide _ _).trans (by decide +kernel)⟩

end BareUrl.Url.Grammar
