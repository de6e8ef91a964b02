import BareUrl.Proofs.Url.Apart

/-!
# `BareUrl.Proofs.Url.Sentence`: the punctuation behind a URL

A sentence may end behind a URL, and the URL may stand in parentheses. The marks that are written
there can also stand in a URL, so its readers go over them and have to come back.

* No URL ends in a mark that ends a sentence (`not_mem_sentenceMarks`).
* Behind a URL that stands by itself, such marks and closing parentheses make no difference if
  white space follows them, or nothing (`url_closing`). Most readers of the grammar are steady, and
  what they read ends in no such mark, so they do not go on into what is written there
  (`Firm.same_of_steady`). A group in parentheses could end there, but it would have to be open in
  the URL, and then the URL would end in front of it (`groups_closing`).

`sentence_spec` says both of what is found in a text.
-/

set_option autoImplicit false

namespace BareUrl.Url

open Reader (Same Reaches Steady)

/-! ### Marks -/

/-- The punctuation that ends a sentence, or a part of it. -/
def sentenceMarks : List Char := ".,;!?'".toList

/-- What is written behind a URL at the end of a sentence, or of an aside in parentheses. -/
def closingMarks : List Char := ')' :: sentenceMarks

/-- No part of a URL ends in a closing mark but a group in parentheses, and no part of it starts
with one but a query. -/
theorem class_of_mem_closingMarks {c : Char} (h : c ∈ closingMarks) :
    Text.isLetter c = false ∧ c.isDigit = false ∧ isPathEnd c = false ∧ isQueryEnd c = false ∧
      Text.isWord c = false ∧ c ≠ '/' ∧ c ≠ '(' := by
  have hall : closingMarks.all (fun c => !Text.isLetter c && !c.isDigit && !isPathEnd c &&
      !isQueryEnd c && !Text.isWord c && c != '/' && c != '(') = true := by decide
  simpa [and_assoc] using List.all_eq_true.1 hall c h

/-- What is written behind a URL: closing marks, and behind them white space or nothing. -/
structure Closing (marks tail : Text) : Prop where
  ne_nil : marks ≠ []
  marks : ∀ c ∈ marks, c ∈ closingMarks
  tail : ∀ c ∈ tail.head?, Text.isBlank c = true

variable {p : Reader} {e : Expression} {marks tail s t a r : Text}

theorem Closing.exists_cons (h : Closing marks tail) :
    ∃ c rest, marks ++ tail = c :: rest ∧ c ∈ closingMarks := by
  obtain ⟨c, rest, rfl⟩ := List.exists_cons_of_ne_nil h.ne_nil
  exact ⟨c, rest ++ tail, rfl, h.marks c List.mem_cons_self⟩

theorem Closing.endsWord (h : Closing marks tail) : Text.endsWord (marks ++ tail) = true := by
  obtain ⟨c, rest, hz, hc⟩ := h.exists_cons
  obtain ⟨-, -, -, -, hword, -⟩ := class_of_mem_closingMarks hc
  rw [hz, Text.endsWord, hword]
  rfl

/-- What reaches beyond a text with closing marks behind it ends in such a mark, or holds white
space. -/
theorem Closing.of_reaches (h : Closing marks tail) (hsplit : s ++ (marks ++ tail) = a ++ r)
    (hlt : s.length < a.length) :
    (∃ c, a.getLast? = some c ∧ c ∈ closingMarks) ∨ ∃ c ∈ a, Text.isBlank c = true := by
  rcases List.append_eq_append_iff.1 hsplit with ⟨m, rfl, hm⟩ | ⟨m, rfl, -⟩
  · have hne : m ≠ [] := by
      rintro rfl
      simp at hlt
    rcases List.append_eq_append_iff.1 hm with ⟨b, rfl, rfl⟩ | ⟨b, rfl, -⟩
    · cases b with
      | nil =>
          -- All of the marks and nothing of what is behind them.
          rw [List.append_nil] at hne ⊢
          refine .inl ⟨marks.getLast hne, ?_, h.marks _ (List.getLast_mem hne)⟩
          rw [List.getLast?_append, List.getLast?_eq_some_getLast hne, Option.some_or]
      | cons c b => exact .inr ⟨c, by simp, h.tail c rfl⟩
    · refine .inl ⟨m.getLast hne, ?_, h.marks _ (List.mem_append_left _ (List.getLast_mem hne))⟩
      rw [List.getLast?_append, List.getLast?_eq_some_getLast hne, Option.some_or]
  · rw [List.length_append] at hlt
    omega

/-! ### Readers that do not go on -/

/-- What the reader reads does not end in a closing mark and holds no white space. -/
def Firm (p : Reader) : Prop :=
  ∀ t a r, p t = some (a, r) →
    (∀ c, a.getLast? = some c → c ∉ closingMarks) ∧ ∀ c ∈ a, Text.isBlank c = false

theorem Firm.not_reaches (hp : Firm p) (hl : p.Lossless) (h : Closing marks tail) :
    ¬ Reaches p s (marks ++ tail) := by
  rintro ⟨a, r, hread, hlt⟩
  obtain ⟨hends, hblank⟩ := hp _ _ _ hread
  rcases h.of_reaches (hl _ _ _ hread) hlt with ⟨c, hlast, hc⟩ | ⟨c, hmem, hc⟩
  · exact hends c hlast hc
  · rw [hblank c hmem] at hc
    cases hc

/-- Closing marks behind a text make no difference to what is read of it. -/
theorem Firm.same_of_steady (hp : Firm p) (hl : p.Lossless) (hsteady : Steady p)
    (h : Closing marks tail) (s : Text) : Same p s (marks ++ tail) :=
  (hsteady s (marks ++ tail)).resolve_right (hp.not_reaches hl h)

theorem Firm.optional (hp : Firm p) : Firm p.optional := by
  intro t a r h
  rcases Reader.optional_eq_some h with h | ⟨rfl, -⟩
  · exact hp t a r h
  · simp

theorem not_isBlank_of_isUrlChar {c : Char} (h : isUrlChar c = true) : Text.isBlank c = false := by
  rw [← Bool.not_eq_true]
  intro hc
  rw [not_isUrlChar_of_isDelimiter (isDelimiter_of_isBlank hc)] at h
  cases h

/-- A part of a URL that ends in no closing mark is read by a firm reader. -/
theorem firm_of_sound (hp : Sound p e) (hends : ∀ c ∈ closingMarks, ¬ e.Ends c)
    (hallows : ∀ c, e.Allows c → isUrlChar c = true) : Firm p := by
  intro t a r h
  have hreads := hp t a r h
  refine ⟨fun c hlast hc => ?_, fun c hmem => ?_⟩
  · exact hends c hc (Expression.ends_of_reads hreads hlast)
  · exact not_isBlank_of_isUrlChar (hallows c (Expression.allows_of_reads hreads hmem))

/-! ### The parts of a URL -/

/-- A host ends in a letter or a digit. -/
theorem class_of_ends_front {p : Protocol} {c : Char} (h : (Expression.front p).Ends c) :
    Text.isLetter c = true ∨ c.isDigit = true := by
  simpa [Expression.front, Expression.location, Expression.authority, Expression.domain,
    Expression.ip, Expression.octet, Expression.letter, Expression.digit, Expression.all,
    Expression.plain, Expression.optional, Expression.Ends, Expression.skips] using h

theorem firm_head (g : Grammar) : Firm g.head := by
  intro t a r h
  obtain ⟨p, -, hreads⟩ := exists_of_head h
  refine ⟨fun c hlast hc => ?_, fun c hmem => ?_⟩
  · obtain ⟨hletter, hdigit, -⟩ := class_of_mem_closingMarks hc
    rcases class_of_ends_front (Expression.ends_of_reads hreads hlast) with h | h
    · rw [hletter] at h
      cases h
    · rw [hdigit] at h
      cases h
  · exact not_isBlank_of_isUrlChar
      (isUrlChar_of_allows (.inl (Expression.allows_of_reads hreads hmem)))

/-- What may follow a host is made of the characters of URLs. -/
theorem isUrlChar_of_allows_rear {c : Char} (h : Expression.rear.Allows c) : isUrlChar c = true :=
  isUrlChar_of_allows (p := ⟨['a'], by decide⟩) (.inr h)

theorem firm_slash : Firm (.literal ['/']) := by
  refine firm_of_sound (sound_literal _) (fun c hc hends => ?_) fun c h => ?_
  · obtain ⟨-, -, -, -, -, hslash, -⟩ := class_of_mem_closingMarks hc
    exact hslash (Option.some.inj hends).symm
  · exact isUrlChar_of_allows_rear (.inl h)

theorem firm_stretch : Firm stretch := by
  refine firm_of_sound sound_stretch (fun c hc hends => ?_) fun c h => ?_
  · obtain ⟨-, -, hpath, -⟩ := class_of_mem_closingMarks hc
    have hend : isPathEnd c = true := by
      simpa [Expression.pathEndChar, Expression.all, Expression.Ends, Expression.skips] using hends
    rw [hpath] at hend
    cases hend
  · -- A stretch is a path of the expression.
    exact isUrlChar_of_allows_rear (.inr (.inl (.inl (.inl h))))

theorem firm_query : Firm query := by
  refine firm_of_sound sound_query (fun c hc hends => ?_) fun c h => ?_
  · obtain ⟨-, -, -, hquery, -⟩ := class_of_mem_closingMarks hc
    have hend : isQueryEnd c = true := by
      simpa [Expression.query, Expression.queryEndChar, Expression.all, Expression.Ends,
        Expression.skips] using hends
    rw [hquery] at hend
    cases hend
  · exact isUrlChar_of_allows_rear (.inr (.inr h))

/-- Closing marks do not change where the host of a URL ends. -/
theorem same_head (g : Grammar) (h : Closing marks tail) (s : Text) :
    Same g.head s (marks ++ tail) := by
  rcases local_head g s (marks ++ tail) with hsame | hreaches | ⟨-, hend⟩
  · exact hsame
  · exact absurd hreaches ((firm_head g).not_reaches g.lossless_head h)
  · rw [h.endsWord] at hend
    cases hend

/-- A group that closing marks close would have to be open in front of them. Nothing is open where
the text ends behind the groups, or where a query starts. -/
theorem groups_closing (h : Closing marks tail) (t : Text)
    (hrest : (groups t).2 = [] ∨ ∃ q, (groups t).2 = '?' :: q) :
    groups (t ++ (marks ++ tail)) = ((groups t).1, (groups t).2 ++ (marks ++ tail)) := by
  fun_induction groups t with
  | case1 t g r hg _ ih => rw [groups_of_group (group_append _ hg), ih hrest]
  | case2 t hg =>
      -- No group starts at a closing mark or at a question mark.
      have hnone : group (t ++ (marks ++ tail)) = none := by
        refine Reader.seq_eq_none_of_left ?_
        rw [← Option.not_isSome_iff_eq_none, Option.isSome_iff_exists]
        rintro ⟨⟨x, r⟩, hread⟩
        obtain ⟨-, hopen⟩ := Reader.literal_eq_some_iff.1 hread
        rcases hrest with rfl | ⟨q, rfl⟩
        · obtain ⟨c, rest, hz, hc⟩ := h.exists_cons
          obtain ⟨-, -, -, -, -, -, hne⟩ := class_of_mem_closingMarks hc
          rw [List.nil_append, hz] at hopen
          exact hne (List.cons.inj hopen).1
        · cases hopen
      rw [groups_of_no_group hnone]

/-- What follows a host up to the end of a text is read with closing marks behind it as well. -/
theorem trail_closing (h : Closing marks tail) (hread : trail s = some (a, [])) :
    trail (s ++ (marks ++ tail)) = some (a, marks ++ tail) := by
  obtain ⟨x, s₁, b, hslash, hbehind, rfl⟩ := Reader.seq_eq_some_iff.1 hread
  obtain ⟨y, s₂, q, hpaths, hquery, rfl⟩ := Reader.seq_eq_some_iff.1 hbehind
  obtain ⟨y₁, s₃, y₂, hstretch, hgroups, rfl⟩ := Reader.seq_eq_some_iff.1 hpaths
  have hgroups : groups s₃ = (y₂, s₂) := Option.some.inj hgroups
  -- Each part in turn is read as before; the groups are, as the text ends behind the query.
  have hslash' : Same (Reader.optional (.literal ['/'])) s (marks ++ tail) :=
    firm_slash.optional.same_of_steady (Reader.lossless_literal _).optional
      ((Reader.fixed_literal _).steady (Reader.lossless_literal _)).optional h s
  have hstretch' : Same (Reader.optional stretch) s₁ (marks ++ tail) :=
    firm_stretch.optional.same_of_steady lossless_stretch.optional steady_stretch.optional h s₁
  have hquery' : Same (Reader.optional query) s₂ (marks ++ tail) :=
    firm_query.optional.same_of_steady (.optional lossless_query) steady_query.optional h s₂
  have hrest : (groups s₃).2 = [] ∨ ∃ q, (groups s₃).2 = '?' :: q := by
    rw [hgroups]
    rcases Reader.optional_eq_some hquery with hquery | ⟨-, hnil⟩
    · obtain ⟨mark, r, q', hmark, -, rfl⟩ := Reader.seq_eq_some_iff.1 hquery
      exact .inr ⟨r, (Reader.literal_eq_some_iff.1 hmark).2⟩
    · exact .inl hnil.symm
  have hgroups' : groups (s₃ ++ (marks ++ tail)) = (y₂, s₂ ++ (marks ++ tail)) := by
    rw [groups_closing h s₃ hrest, hgroups]
  have hpaths' : paths (s₁ ++ (marks ++ tail)) = some (y₁ ++ y₂, s₂ ++ (marks ++ tail)) :=
    Reader.seq_eq_some_iff.2
      ⟨y₁, _, y₂, hstretch'.eq_some hstretch, congrArg some hgroups', rfl⟩
  exact Reader.seq_eq_some_iff.2 ⟨x, _, _, hslash'.eq_some hslash,
    Reader.seq_eq_some_iff.2 ⟨_, _, q, hpaths', hquery'.eq_some hquery, rfl⟩, rfl⟩

namespace Grammar

variable {g : Grammar} {f : Found}

/-- A URL that ends a text is read with closing marks behind it as well. -/
theorem url_closing (h : Closing marks tail) (hread : g.url s = some (a, [])) :
    g.url (s ++ (marks ++ tail)) = some (a, marks ++ tail) := by
  obtain ⟨x, r, y, hhead, htrail, rfl⟩ := Reader.seq_eq_some_iff.1 hread
  exact Reader.seq_eq_some_iff.2
    ⟨x, _, y, (same_head g h s).eq_some hhead, trail_closing h htrail, rfl⟩

/-- No URL that is found ends in a mark that ends a sentence. -/
theorem not_mem_sentenceMarks {c : Char} (h : f ∈ (g.find t).tokens)
    (hlast : f.url.getLast? = some c) : c ∉ sentenceMarks := by
  intro hmem
  obtain ⟨-, rest, hurl⟩ := exists_url_of_mem_find h
  obtain ⟨p, -, hreads⟩ := reads_urlExpression_iff.1 (sound_url g _ _ _ hurl)
  obtain ⟨hletter, hdigit, hpath, hquery, -, hslash, -⟩ :=
    class_of_mem_closingMarks (List.mem_cons_of_mem _ hmem)
  have hclose : c ≠ ')' := by
    rintro rfl
    exact absurd hmem (by decide)
  -- No expression that may come last in a URL allows one of the marks.
  rcases Expression.ends_of_reads hreads hlast with hrear | ⟨-, hfront⟩
  · revert hrear
    simp [Expression.rear, Expression.trail, Expression.path, Expression.properPath,
      Expression.userPath, Expression.parenthesised, Expression.query, Expression.pathEndChar,
      Expression.queryEndChar, Expression.all, Expression.plain, Expression.optional,
      Expression.star, Expression.Ends, Expression.skips, hpath, hquery, hslash.symm, hclose.symm]
  · rcases class_of_ends_front hfront with h | h
    · rw [hletter] at h
      cases h
    · rw [hdigit] at h
      cases h

/-- The punctuation of a sentence is not taken for a part of a URL. No URL ends in `.`, `,`, `;`,
`!`, `?` or an apostrophe; and a URL that stands by itself is the first that is found where any of
these and closing parentheses are written behind it, with white space or nothing behind them. -/
theorem sentence_spec (g : Grammar) :
    (∀ t f c, f ∈ (g.find t).tokens → f.url.getLast? = some c → c ∉ ".,;!?'".toList) ∧
    ∀ m f marks tail, g.spans m = [(0, Text.utf8Size m, f)] →
      marks ≠ [] → (∀ c ∈ marks, c ∈ ").,;!?'".toList) →
      (∀ c ∈ tail.head?, Text.isBlank c = true) →
      (g.spans (m ++ marks ++ tail)).head? = some (0, Text.utf8Size m, f) := by
  refine ⟨fun t f c => not_mem_sentenceMarks, fun m f marks tail hm hne hmarks htail => ?_⟩
  have h : Closing marks tail := ⟨hne, hmarks, htail⟩
  obtain ⟨hfind, rfl⟩ := spans_eq_singleton_iff.1 hm
  have hmem : f ∈ (g.find f.matched).tokens := by simp [hfind]
  obtain ⟨hled, rest, hread⟩ := exists_led_of_mem_find hmem
  have hurl := url_eq_some hled (led_matched hread)
  rw [List.append_nil] at hurl
  have hbehind : g.find (f.matched ++ (marks ++ tail)) = (g.find (marks ++ tail)).cons [] f := by
    refine find_of_led_start hled (led_eq_some hled ?_)
    exact url_closing h hurl
  rw [List.append_assoc, spans, hbehind]
  show some (0 + 0, 0 + 0 + Text.utf8Size f.matched, f) = _
  simp

/-- An aside that ends with a quoted URL. The query of the URL holds a parenthesis that is not
closed, and the one behind the URL does not close it. -/
theorem sentence_spec_aside :
    ∃ g, make ["http".toList] [] = .ok g ∧
      let m := "http://aa.bb/c_(d)?e(f".toList
      let marks := "').".toList
      let tail := " (g)".toList
      g.spans m = [(0, 22, ⟨m, m⟩)] ∧ marks ≠ [] ∧ (∀ c ∈ marks, c ∈ ").,;!?'".toList) ∧
        (∀ c ∈ tail.head?, Text.isBlank c = true) ∧
        (g.spans (m ++ marks ++ tail)).head? = some (0, 22, ⟨m, m⟩) := by
  refine ⟨⟨[], [⟨"http".toList, by decide⟩], List.cons_ne_nil _ _⟩, rfl, ?_⟩
  intro m marks tail
  have hm : spans ⟨[], [⟨"http".toList, by decide⟩], List.cons_ne_nil _ _⟩ m
      = [(0, 22, ⟨m, m⟩)] := by decide +kernel
  have hmarks : ∀ c ∈ marks, c ∈ ").,;!?'".toList := by
    have hsub : marks ⊆ ").,;!?'".toList := by decide
    exact fun c hc => hsub hc
  have htail : ∀ c ∈ tail.head?, Text.isBlank c = true := by
    rintro c ⟨⟩
    rfl
  obtain ⟨-, hspec⟩ := sentence_spec ⟨[], [⟨"http".toList, by decide⟩], List.cons_ne_nil _ _⟩
  exact ⟨hm, by decide, hmarks, htail, hspec m ⟨m, m⟩ marks tail hm (by decide) hmarks htail⟩

end Grammar

end BareUrl.Url
