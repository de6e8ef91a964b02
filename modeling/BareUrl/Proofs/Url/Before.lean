import BareUrl.Proofs.Url.Find
import BareUrl.Proofs.Url.Local

/-!
# `BareUrl.Proofs.Url.Before`: searching in front of more text

What is found in a text, if more text follows? `Searched g z s c` says that `c` is the cut of `s`
at the URLs that are found in it where `z` follows, and that none of them reaches into `z`. Such
a cut grows from left to right (`Searched.extend`, `Searched.extend_url`), as the search does.

`Searched.mem_of_find` compares it with the search in `s` alone: what is found there is found with
`z` behind it, but for one URL at most, which ends with the text and was none because `z` goes on
with its last word.
-/

set_option autoImplicit false

namespace BareUrl.Url.Grammar

open Reader (Same Reaches)

variable {g : Grammar} {s z gap rest : Text} {f : Found} {c : Cut Found}

/-! ### Where a URL starts -/

theorem starts_iff_led {t : Text} : g.Starts t ↔ (g.led t).isSome := by
  rw [← isSome_here_iff, isSome_here_iff_url]
  constructor
  · rintro ⟨after, rfl, h⟩
    exact Reader.isSome_seq (Reader.literal_append _ _) h
  · intro h
    obtain ⟨⟨a, r⟩, h⟩ := Option.isSome_iff_exists.1 h
    obtain ⟨x, after, y, hx, hy, -⟩ := Reader.seq_eq_some_iff.1 h
    obtain ⟨rfl, ht⟩ := Reader.literal_eq_some_iff.1 hx
    exact ⟨after, ht, Option.isSome_iff_exists.2 ⟨_, hy⟩⟩

theorem led_eq_some (hled : f.matched = g.leader ++ f.url)
    (hurl : g.url (f.url ++ rest) = some (f.url, rest)) :
    g.led (f.matched ++ rest) = some (f.matched, rest) := by
  rw [hled, List.append_assoc]
  exact Reader.seq_eq_some_iff.2 ⟨_, _, _, Reader.literal_append _ _, hurl, rfl⟩

theorem url_eq_some (hled : f.matched = g.leader ++ f.url)
    (h : g.led (f.matched ++ rest) = some (f.matched, rest)) :
    g.url (f.url ++ rest) = some (f.url, rest) := by
  obtain ⟨x, after, y, hx, hy, ha⟩ := Reader.seq_eq_some_iff.1 h
  obtain ⟨rfl, ht⟩ := Reader.literal_eq_some_iff.1 hx
  rw [hled, List.append_cancel_left_eq] at ha
  rw [hled, List.append_assoc, List.append_cancel_left_eq] at ht
  rw [ht, ha]
  exact hy

/-- A URL that is found is determined by its leader and all that is matched. -/
theorem eq_of_matched {f f' : Found} (hled : f.matched = g.leader ++ f.url)
    (hled' : f'.matched = g.leader ++ f'.url) (h : f.matched = f'.matched) : f = f' := by
  obtain ⟨m, u⟩ := f
  obtain ⟨m', u'⟩ := f'
  obtain rfl : m = m' := h
  have hu : g.leader ++ u = g.leader ++ u' := hled.symm.trans hled'
  rw [List.append_cancel_left_eq] at hu
  rw [hu]

theorem matched_ne_nil (h : g.led (f.matched ++ rest) = some (f.matched, rest)) :
    f.matched ≠ [] := by
  intro hnil
  rw [hnil, List.nil_append] at h
  have hstarts : g.Starts rest := starts_iff_led.2 (by rw [h]; rfl)
  obtain ⟨x, after, y, hx, hy, ha⟩ := Reader.seq_eq_some_iff.1 h
  obtain ⟨rfl, -⟩ := List.append_eq_nil_iff.1 ha.symm
  obtain ⟨-, rfl⟩ := List.append_eq_nil_iff.1 ha.symm
  have hlt := length_lt_of_url hy
  rw [g.lossless_url _ _ _ hy, List.nil_append] at hlt
  exact Nat.lt_irrefl _ hlt

/-! ### The search -/

theorem find_of_led (hled : f.matched = g.leader ++ f.url)
    (hread : g.led (f.matched ++ rest) = some (f.matched, rest))
    (hclear : g.ClearBefore gap (f.matched ++ rest)) :
    g.find (gap ++ (f.matched ++ rest)) = (g.find rest).cons gap f := by
  have hsome : (g.here (f.matched ++ rest)).isSome :=
    isSome_here_iff.2 (starts_iff_led.2 (by rw [hread]; rfl))
  obtain ⟨s, hs⟩ := Option.isSome_iff_exists.1 hsome
  obtain ⟨hled', ht, hurl⟩ := here_eq_some hs
  have hread' := led_eq_some hled' hurl
  rw [← ht, hread] at hread'
  obtain ⟨hm, hrest⟩ := Prod.mk.inj (Option.some.inj hread')
  have hfind := Recogniser.run_leftmost_of_here hs (silentBefore_iff.2 hclear)
  rw [find, hfind, ← eq_of_matched hled hled' hm, ← hrest]
  rfl

theorem clearBefore_nil : g.ClearBefore [] z :=
  fun _ _ h hy => absurd (List.append_eq_nil_iff.1 h.symm).2 hy

theorem clearBefore_cons {d : Char} :
    g.ClearBefore (d :: gap) z ↔ g.led (d :: gap ++ z) = none ∧ g.ClearBefore gap z := by
  rw [← silentBefore_iff, Recogniser.silentBefore_cons, silentBefore_iff, isSome_here_iff,
    starts_iff_led, Option.not_isSome_iff_eq_none]
  rfl

theorem clearBefore_append :
    g.ClearBefore (s ++ gap) z ↔ g.ClearBefore s (gap ++ z) ∧ g.ClearBefore gap z := by
  constructor
  · intro h
    refine ⟨fun x y hs hy => ?_, fun x y hgap hy => ?_⟩
    · rw [← List.append_assoc]
      exact h x (y ++ gap) (by rw [hs, List.append_assoc]) (by simp [hy])
    · exact h (s ++ x) y (by rw [hgap, List.append_assoc]) hy
  · rintro ⟨hs, hgap⟩ x y hxy hy
    rcases List.append_eq_append_iff.1 hxy with ⟨m, -, hm⟩ | ⟨m, hm, rfl⟩
    · exact hgap m y hm hy
    · by_cases hne : m = []
      · rw [hne, List.nil_append] at hy ⊢
        exact hgap [] gap rfl hy
      · rw [List.append_assoc]
        exact hs x m hm hne

/-- A URL that ends with its host is found at the end of a text. -/
theorem find_of_head {u : Text} (h : g.head u = some (u, []))
    (hclear : g.ClearBefore gap (g.leader ++ u)) :
    g.find (gap ++ (g.leader ++ u)) = (Cut.leaf []).cons gap ⟨g.leader ++ u, u⟩ := by
  have htrail : trail [] = some ([], []) := by
    obtain ⟨⟨a, r⟩, hr⟩ := Option.isSome_iff_exists.1 (total_trail [])
    obtain ⟨rfl, rfl⟩ := List.append_eq_nil_iff.1 (lossless_trail _ _ _ hr).symm
    exact hr
  have hurl : g.url (u ++ []) = some (u, []) := by
    rw [List.append_nil]
    exact Reader.seq_eq_some_iff.2 ⟨u, [], [], h, htrail, (List.append_nil u).symm⟩
  have hread := led_eq_some (f := ⟨g.leader ++ u, u⟩) rfl hurl
  have hfind := find_of_led (f := ⟨g.leader ++ u, u⟩) rfl hread (by rwa [List.append_nil])
  rwa [List.append_nil, find_nil] at hfind

/-- Text in which no URL starts belongs to the gap of what follows. -/
theorem find_append_of_clear (h : g.ClearBefore s z) : g.find (s ++ z) = (g.find z).prepend s := by
  induction z using find_induct g with
  | silent z hz hfind =>
      -- A URL would start in `s` or in `z`.
      have hsilent : ∀ x y, s ++ z = x ++ y → ¬ g.Starts y := by
        intro x y hxy
        rcases List.append_eq_append_iff.1 hxy with ⟨m, -, hm⟩ | ⟨m, hm, rfl⟩
        · exact hz m y hm
        · by_cases hne : m = []
          · rw [hne, List.nil_append]
            exact hz [] z rfl
          · exact h x m hm hne
      rw [hfind, Cut.prepend_leaf]
      exact Recogniser.run_leftmost_of_silent (silent_iff.2 hsilent)
  | url gap f rest hled hurl hclear hfind ih =>
      have hboth : g.ClearBefore (s ++ gap) (f.matched ++ rest) := clearBefore_append.2 ⟨h, hclear⟩
      rw [hfind, Cut.prepend_cons, ← List.append_assoc,
        find_of_led hled (led_eq_some hled hurl) hboth]

/-- The cut of a text at the URLs that are found in it where `z` follows, and that do not reach
into `z`. -/
inductive Searched (g : Grammar) (z : Text) : Text → Cut Found → Prop where
  | silent {s : Text} (h : g.ClearBefore s z) : Searched g z s (.leaf s)
  | url {gap s : Text} {f : Found} {c : Cut Found} (hled : f.matched = g.leader ++ f.url)
      (hread : g.led (f.matched ++ (s ++ z)) = some (f.matched, s ++ z))
      (hclear : g.ClearBefore gap (f.matched ++ (s ++ z))) (h : Searched g z s c) :
      Searched g z (gap ++ (f.matched ++ s)) (c.cons gap f)

theorem Searched.start (z : Text) : Searched g z [] (.leaf []) :=
  .silent clearBefore_nil

/-! ### Growing -/

/-- With text in which no URL starts at its end. -/
theorem Searched.extend (h : Searched g (gap ++ z) s c) (hgap : g.ClearBefore gap z) :
    Searched g z (s ++ gap) (c.append (.leaf gap)) := by
  induction h with
  | silent hs =>
      rw [Cut.leaf_append, Cut.prepend_leaf]
      exact .silent (clearBefore_append.2 ⟨hs, hgap⟩)
  | url hled hread hclear h ih =>
      rw [Cut.cons_append, List.append_assoc, List.append_assoc]
      refine .url hled ?_ ?_ ih
      · simpa only [List.append_assoc] using hread
      · simpa only [List.append_assoc] using hclear

/-- With a URL at its end that is found there. -/
theorem Searched.extend_url (h : Searched g (gap ++ (f.matched ++ rest)) s c)
    (hled : f.matched = g.leader ++ f.url)
    (hread : g.led (f.matched ++ rest) = some (f.matched, rest))
    (hclear : g.ClearBefore gap (f.matched ++ rest)) :
    Searched g rest (s ++ (gap ++ f.matched)) (c.append ((Cut.leaf []).cons gap f)) := by
  induction h with
  | @silent s hs =>
      have hurl : Searched g rest (s ++ gap ++ (f.matched ++ []))
          ((Cut.leaf []).cons (s ++ gap) f) :=
        .url hled hread (clearBefore_append.2 ⟨hs, hclear⟩) (.start rest)
      rw [List.append_nil, List.append_assoc] at hurl
      exact hurl
  | @url gap' s f' c hled' hread' hclear' h ih =>
      rw [Cut.cons_append, List.append_assoc, List.append_assoc]
      refine .url hled' ?_ ?_ ih
      · simpa only [List.append_assoc] using hread'
      · simpa only [List.append_assoc] using hclear'

/-- What is found in front of `z` and what is found in `z` is what is found in both. -/
theorem Searched.find_append (h : Searched g z s c) : g.find (s ++ z) = c.append (g.find z) := by
  induction h with
  | silent hs => exact find_append_of_clear hs
  | url hled hread hclear h ih =>
      rw [List.append_assoc, List.append_assoc, find_of_led hled hread hclear, ih,
        Cut.cons_append]

/-! ### The search in a part of the text -/

/-- What starts in a text alone, and what starts in it with `z` behind it. Either both are the
same, or the one reaches into `z`, or the other reaches to `z` where a word goes on. -/
theorem not_starts_of_not_starts_append {a r : Text} (h : ¬ g.Starts (s ++ z))
    (hs : g.led s = some (a, r)) : r = [] ∧ Text.endsWord z = false := by
  rw [starts_iff_led] at h
  -- In the first two cases something is read with `z` behind the text.
  rcases local_led g s z with hsame | ⟨b, r', hz, -⟩ | ⟨hall, hend⟩
  · rw [hsame.eq_some hs] at h
    exact absurd rfl h
  · rw [hz] at h
    exact absurd rfl h
  · rw [hs] at hall
    exact ⟨(Prod.mk.inj (Option.some.inj hall)).2, hend⟩

/-- Two URLs that start at the same place, one of a text alone and one with `z` behind it, are the
same, unless the one ends the text and `z` goes on with its last word. -/
theorem eq_of_led_append {f' : Found} {s' : Text} (hm : f'.matched ++ s' = f.matched ++ rest)
    (hled : f.matched = g.leader ++ f.url) (hled' : f'.matched = g.leader ++ f'.url)
    (hread : g.led (f.matched ++ rest) = some (f.matched, rest))
    (hread' : g.led (f'.matched ++ (s' ++ z)) = some (f'.matched, s' ++ z)) :
    (rest = [] ∧ Text.endsWord z = false) ∨ f' = f ∧ s' = rest := by
  have hboth : g.led (f.matched ++ rest ++ z) = some (f'.matched, s' ++ z) := by
    rw [← hm, List.append_assoc]
    exact hread'
  rcases local_led g (f.matched ++ rest) z with hsame | ⟨a, r, hz, hlt⟩ | ⟨hall, hend⟩
  · rw [hsame.eq_some hread] at hboth
    obtain ⟨hmatched, -⟩ := Prod.mk.inj (Option.some.inj hboth)
    rw [hmatched, List.append_cancel_left_eq] at hm
    exact .inr ⟨eq_of_matched hled' hled hmatched.symm, hm⟩
  · -- The second URL does not reach into `z`.
    rw [hboth] at hz
    obtain ⟨rfl, -⟩ := Prod.mk.inj (Option.some.inj hz)
    have hlen := congrArg List.length hm
    simp only [List.length_append] at hlen hlt
    omega
  · rw [hread] at hall
    exact .inl ⟨(Prod.mk.inj (Option.some.inj hall)).2, hend⟩

/-- What is read with `z` behind a text, within the text, starts there without `z` as well. -/
theorem starts_of_led_append {f' : Found} {s' : Text}
    (hread' : g.led (f'.matched ++ (s' ++ z)) = some (f'.matched, s' ++ z)) :
    g.Starts (f'.matched ++ s') := by
  rw [starts_iff_led]
  rw [← List.append_assoc] at hread'
  rcases local_led g (f'.matched ++ s') z with hsame | ⟨a, r, hz, hlt⟩ | ⟨hall, -⟩
  · cases hs : g.led (f'.matched ++ s') with
    | some x => rfl
    | none =>
        rw [hsame.eq_none hs] at hread'
        simp at hread'
  · rw [hread'] at hz
    obtain ⟨rfl, -⟩ := Prod.mk.inj (Option.some.inj hz)
    rw [List.length_append] at hlt
    omega
  · rw [hall]
    rfl

/-- The first URL that is found in a text is also the first with `z` behind it, unless it ends the
text and `z` goes on with its last word. -/
theorem Searched.first (h : Searched g z s c) (hs : s = gap ++ (f.matched ++ rest))
    (hled : f.matched = g.leader ++ f.url)
    (hread : g.led (f.matched ++ rest) = some (f.matched, rest))
    (hclear : g.ClearBefore gap (f.matched ++ rest)) :
    (rest = [] ∧ Text.endsWord z = false) ∨
      ∃ c', c = c'.cons gap f ∧ Searched g z rest c' := by
  cases h with
  | silent hsilent =>
      have hne : f.matched ++ rest ≠ [] := by simp [matched_ne_nil hread]
      exact .inl (not_starts_of_not_starts_append (hsilent gap _ hs hne) hread)
  | @url gap' s' f' c' hled' hread' hclear' h' =>
      have hplace (hm : f'.matched ++ s' = f.matched ++ rest) (hgap : gap' = gap) :
          (rest = [] ∧ Text.endsWord z = false) ∨
            ∃ c'', c'.cons gap' f' = c''.cons gap f ∧ Searched g z rest c'' := by
        rcases eq_of_led_append hm hled hled' hread hread' with hend | ⟨rfl, rfl⟩
        · exact .inl hend
        · exact .inr ⟨c', by rw [hgap], h'⟩
      rcases List.append_eq_append_iff.1 hs with ⟨m, hgap, hm⟩ | ⟨m, hgap, hm⟩
      · by_cases hnil : m = []
        · rw [hnil, List.append_nil] at hgap
          rw [hnil, List.nil_append] at hm
          exact hplace hm hgap.symm
        · -- The other one would start in the gap, where nothing starts without `z`.
          have hnone : ¬ g.Starts (f'.matched ++ s') := hm ▸ hclear gap' m hgap hnil
          exact absurd (starts_of_led_append hread') hnone
      · by_cases hnil : m = []
        · rw [hnil, List.append_nil] at hgap
          rw [hnil, List.nil_append] at hm
          exact hplace hm.symm hgap
        · -- The first URL lies in the gap, where nothing starts with `z` behind it.
          have hnone : ¬ g.Starts (f.matched ++ rest ++ z) := by
            rw [hm, List.append_assoc, List.append_assoc]
            exact hclear' gap m hgap hnil
          exact .inl (not_starts_of_not_starts_append hnone hread)

/-- What is found in a text alone is found with `z` behind it as well, but for a URL that ends the
text where `z` goes on with its last word. -/
theorem Searched.mem_of_find (h : Searched g z s c) {before after : List (Text × Found)}
    (hf : (g.find s).parts = before ++ (gap, f) :: after) :
    f ∈ c.tokens ∨ after = [] ∧ (g.find s).last = [] ∧ Text.endsWord z = false := by
  -- Along what is found in the text alone; `c` keeps up with it up to the last URL.
  induction s using find_induct g generalizing before c with
  | silent s _ hfind =>
      rw [hfind] at hf
      simp [Cut.leaf] at hf
  | url gap' f' rest hled hurl hclear hfind ih =>
      rw [hfind] at hf ⊢
      rcases h.first rfl hled (led_eq_some hled hurl) hclear with ⟨rfl, hend⟩ | ⟨c', rfl, hc⟩
      · rw [find_nil] at hf ⊢
        refine .inr ⟨?_, rfl, hend⟩
        cases before with
        | nil => exact (List.cons.inj hf).2.symm
        | cons part before =>
            have hpart := (List.cons.inj hf).2
            simp [Cut.leaf] at hpart
      · cases before with
        | nil =>
            obtain ⟨hpart, -⟩ := List.cons.inj hf
            rw [(Prod.mk.inj hpart).2]
            exact .inl List.mem_cons_self
        | cons part before =>
            exact (ih hc (List.cons.inj hf).2).imp (List.mem_cons_of_mem f') id

/-! ### The search up to a bracket -/

theorem not_mem_of_url {u : Text} {d : Char} (hd : isDelimiter d = true)
    (h : g.url (u ++ rest) = some (u, rest)) : d ∉ u :=
  not_mem_of_reads_urlExpression hd (sound_url g _ _ _ h)

theorem not_mem_matched (hleader : '<' ∉ g.leader) (hled : f.matched = g.leader ++ f.url)
    (hread : g.led (f.matched ++ rest) = some (f.matched, rest)) : '<' ∉ f.matched := by
  rw [hled, List.mem_append, not_or]
  exact ⟨hleader, not_mem_of_url rfl (url_eq_some hled hread)⟩

/-- No URL reaches across a `<`, if the leader does not. -/
theorem Searched.up_to_bracket {b k : Text} (h : Searched g z s c) (hs : s = b ++ '<' :: k)
    (hleader : '<' ∉ g.leader) :
    ∃ c', Searched g ('<' :: (k ++ z)) b c' ∧ ∀ f ∈ c'.tokens, f ∈ c.tokens := by
  induction h generalizing b with
  | silent hclear =>
      rw [hs] at hclear
      exact ⟨.leaf b, .silent (clearBefore_append.1 hclear).1, by simp⟩
  | @url gap s f c hled hread hclear h ih =>
      have hbehind (m' : Text) (hm : s = m' ++ '<' :: k) :
          ∃ c', Searched g ('<' :: (k ++ z)) (gap ++ (f.matched ++ m')) c' ∧
            ∀ f' ∈ c'.tokens, f' ∈ (c.cons gap f).tokens := by
        obtain ⟨c', hc', htokens⟩ := ih hm
        have hrest : m' ++ '<' :: (k ++ z) = s ++ z := by
          rw [hm, List.append_assoc]
          rfl
        rw [← hrest] at hread hclear
        refine ⟨c'.cons gap f, .url hled hread hclear hc', fun f' hf' => ?_⟩
        rcases List.mem_cons.1 hf' with rfl | hf'
        · exact List.mem_cons_self
        · exact List.mem_cons_of_mem f (htokens f' hf')
      -- The bracket is behind the URL, or in the gap before it, but not in it.
      rcases List.append_eq_append_iff.1 hs with ⟨m, rfl, hm⟩ | ⟨m, rfl, hm⟩
      · rcases List.append_eq_append_iff.1 hm with ⟨m', rfl, hm'⟩ | ⟨m', hm', hk⟩
        · exact hbehind m' hm'
        · cases m' with
          | nil =>
              rw [List.append_nil] at hm'
              rw [← hm', ← List.append_nil f.matched]
              exact hbehind [] hk.symm
          | cons x m' =>
              obtain ⟨rfl, -⟩ := List.cons.inj hk
              exact absurd (by simp [hm']) (not_mem_matched hleader hled hread)
      · have hrest : m ++ (f.matched ++ (s ++ z)) = '<' :: (k ++ z) := by
          rw [← List.cons_append, hm, List.append_assoc, List.append_assoc]
        rw [clearBefore_append, hrest] at hclear
        exact ⟨.leaf b, .silent hclear.1, by simp⟩

/-- What is found in front of a `<` is found there whatever follows. -/
theorem Searched.mem_of_bracket {b k : Text} (h : Searched g z (b ++ '<' :: k) c) (hb : '<' ∉ b)
    (hf : f ∈ (g.find b).tokens) : f ∈ c.tokens := by
  obtain ⟨⟨gap, f'⟩, hpart, rfl⟩ := List.mem_map.1 hf
  obtain ⟨before, after, hparts⟩ := List.append_of_mem hpart
  have hleader : '<' ∉ g.leader := by
    intro hmem
    have hinside := Cut.infix_render_of_mem_tokens Found.matched hf
    rw [render_find, (of_mem_find hparts).1] at hinside
    exact hb (hinside.subset (List.mem_append_left _ hmem))
  obtain ⟨c', hc', htokens⟩ := h.up_to_bracket rfl hleader
  rcases hc'.mem_of_find hparts with hmem | ⟨-, -, hend⟩
  · exact htokens _ hmem
  · have hbracket : Text.endsWord ('<' :: (k ++ z)) = true := rfl
    rw [hbracket] at hend
    exact absurd hend Bool.noConfusion

end BareUrl.Url.Grammar
