import BareUrl.Proofs.Text.Reader
import BareUrl.Proofs.Url.Language

/-!
# `BareUrl.Proofs.Url.Sound`: what is read looks like a URL

`Sound p e` says that whatever the reader `p` takes off a text is a piece that the expression `e`
reads with the same text behind it. Every reader of the grammar is sound for its expression, up to
`sound_url` for a whole URL.

Repetitions are read by recursion, so their lemmas go along the recursion of the reader: what is
read first extends what the repetition behind it reads.
-/

set_option autoImplicit false

namespace BareUrl.Url

open Expression

/-- What the reader reads is a piece of the expression, with the same text behind it. -/
def Sound (p : Reader) (e : Expression) : Prop :=
  ∀ t a r, p t = some (a, r) → e.Reads a r

/-! ### Combinations -/

theorem sound_literal (w : Text) : Sound (.literal w) (.word w) := by
  intro t a r h
  exact reads_word_iff.2 (Reader.literal_eq_some_iff.1 h).1

theorem Sound.seq {p q : Reader} {e f : Expression} (hp : Sound p e) (hq : Sound q f)
    (hl : q.Lossless) : Sound (p.seq q) (.seq e f) := by
  intro t a r h
  obtain ⟨x, s, y, hx, hy, rfl⟩ := Reader.seq_eq_some_iff.1 h
  have hs := hl _ _ _ hy
  exact .seq (hs ▸ hp _ _ _ hx) (hq _ _ _ hy)

theorem Sound.orElse {p q : Reader} {e f : Expression} (hp : Sound p e) (hq : Sound q f) :
    Sound (p.orElse q) (.alt e f) := by
  intro t a r h
  rcases Option.or_eq_some_iff.1 h with h | ⟨-, h⟩
  · exact .left (hp _ _ _ h)
  · exact .right (hq _ _ _ h)

theorem Sound.optional {p : Reader} {e : Expression} (hp : Sound p e) :
    Sound p.optional e.optional := by
  intro t a r h
  rw [reads_optional_iff]
  rcases Reader.optional_eq_some h with h | ⟨ha, -⟩
  · exact .inr (hp _ _ _ h)
  · exact .inl ha

theorem Sound.group {p : Reader} {e : Expression} (mark : String) (hp : Sound p e) :
    Sound p (.group mark e) := fun t a r h => .group (hp t a r h)

/-- An optional part in front is read as one of two cases. -/
theorem Sound.optional_seq {p q : Reader} {e f : Expression} (hp : Sound p e) (hq : Sound q f)
    (hl : q.Lossless) : Sound ((p.seq q).orElse q) (.seq e.optional f) := by
  intro t a r h
  rcases Option.or_eq_some_iff.1 h with h | ⟨-, h⟩
  · obtain ⟨x, y, rfl, hx, hy⟩ := reads_seq_iff.1 (hp.seq hq hl _ _ _ h)
    exact .seq (reads_optional_iff.2 (.inr hx)) hy
  · exact Expression.Reads.seq (a := []) (reads_optional_iff.2 (.inl rfl)) (hq _ _ _ h)

/-- A run of one class, of which there is at least one character. -/
theorem sound_run1 (shown : String) (p : Char → Bool) :
    Sound (.run1 p) (.plus (.one shown p)) := by
  intro t a r h
  obtain ⟨-, hne, ha, -⟩ := Reader.run1_eq_some_iff.1 h
  exact reads_times_one_iff.2 ⟨ha, List.length_pos_iff.2 hne, by simp⟩

/-! ### Hosts -/

/-- A top-level name is the whole run of letters, which is the only piece of it that ends a
word. -/
theorem topLevel_eq_some_iff {t a r : Text} :
    topLevel t = some (a, r) ↔ t = a ++ r ∧ (∀ c ∈ a, Text.isLetter c = true) ∧
      2 ≤ a.length ∧ a.length ≤ 64 ∧ Text.endsWord r = true := by
  constructor
  · intro h
    have ht := lossless_topLevel _ _ _ h
    simp only [topLevel] at h
    split at h
    · rename_i hname
      simp only [Option.some.injEq, Prod.mk.injEq] at h
      obtain ⟨rfl, rfl⟩ := h
      exact ⟨ht, List.all_eq_true.1 List.all_takeWhile, hname⟩
    · simp at h
  · rintro ⟨rfl, ha, hname⟩
    -- A letter behind the name would be part of the same word.
    have hr : Reader.Stops Text.isLetter r := by
      cases r with
      | nil => exact Reader.stops_nil
      | cons c r =>
          rw [Reader.stops_cons, ← Bool.not_eq_true]
          intro hc
          have hend := hname.2.2
          rw [Text.endsWord, Text.isWord_of_isLetter c hc] at hend
          simp at hend
    simp only [topLevel, Reader.takeWhile_eq ha hr, Reader.dropWhile_eq ha hr]
    rw [if_pos hname]

theorem sound_topLevel :
    Sound topLevel (.seq (.times 2 (some 64) letter) .wordEnd) := by
  intro t a r h
  obtain ⟨-, hall, hmin, hmax, hend⟩ := topLevel_eq_some_iff.1 h
  have hname : Expression.Reads (.times 2 (some 64) letter) a r :=
    reads_times_one_iff.2 ⟨hall, hmin, by simpa using hmax⟩
  have := Expression.Reads.seq (b := []) hname (.wordEnd hend)
  rwa [List.append_nil] at this

/-- Labels are label characters up to a dot that a top-level name follows. -/
theorem labelsThenTop_eq_some {t a r : Text} (h : labelsThenTop t = some (a, r)) :
    ∃ l s name, a = l ++ '.' :: name ∧ (∀ c ∈ l, isLabelChar c = true) ∧
      topLevel s = some (name, r) := by
  induction t generalizing a with
  | nil => simp [labelsThenTop] at h
  | cons c t ih =>
      rw [labelsThenTop] at h
      split at h
      · rename_i hc
        split at h
        · rename_i d s hd
          simp only [Option.some.injEq, Prod.mk.injEq] at h
          obtain ⟨rfl, rfl⟩ := h
          obtain ⟨l, s, name, rfl, hl, hn⟩ := ih hd
          exact ⟨c :: l, s, name, rfl, List.forall_mem_cons.2 ⟨hc, hl⟩, hn⟩
        · split at h
          · rename_i hdot
            obtain ⟨⟨name, s⟩, hn, he⟩ := Option.map_eq_some_iff.1 h
            obtain ⟨rfl, rfl⟩ := Prod.mk.inj he
            exact ⟨[], t, name, by rw [hdot]; rfl, by simp, hn⟩
          · simp at h
      · simp at h

theorem sound_domain : Sound domain Expression.domain := by
  intro t a r h
  show Reads (.seq (plain (.seq labelChar.plus (.word ['.']))).optional
    (.seq (.times 2 (some 64) letter) .wordEnd)) a r
  rcases Option.or_eq_some_iff.1 h with h | ⟨-, h⟩
  · cases t with
    | nil => simp [labelledDomain] at h
    | cons c t =>
        rw [labelledDomain] at h
        split at h
        · rename_i hc
          obtain ⟨⟨d, r⟩, hd, he⟩ := Option.map_eq_some_iff.1 h
          obtain ⟨rfl, rfl⟩ := Prod.mk.inj he
          obtain ⟨l, s, name, rfl, hl, hn⟩ := labelsThenTop_eq_some hd
          have hlabels : Reads (plain (.seq labelChar.plus (.word ['.']))) (c :: l ++ ['.'])
              (name ++ r) := by
            refine .group (.seq (reads_times_one_iff.2 ⟨?_, by simp, by simp⟩) .word)
            exact List.forall_mem_cons.2 ⟨hc, hl⟩
          have hname := sound_topLevel _ _ _ hn
          have := Expression.Reads.seq (reads_optional_iff.2 (.inr hlabels)) hname
          simpa using this
        · simp at h
  · exact Expression.Reads.seq (a := []) (reads_optional_iff.2 (.inl rfl)) (sound_topLevel _ _ _ h)

theorem stops_take {f : Char → Bool} {n : Nat} {r : Text} (hn : 0 < n) :
    Reader.Stops f (r.take n) ↔ Reader.Stops f r := by
  obtain ⟨n, rfl⟩ := Nat.exists_eq_succ_of_ne_zero (Nat.pos_iff_ne_zero.1 hn)
  cases r with
  | nil => simp
  | cons c r => rw [List.take_succ_cons, Reader.stops_cons, Reader.stops_cons]

/-- A number is one to three digits, and as many as there are up to three. -/
theorem octet_eq_some_iff {t a r : Text} :
    octet t = some (a, r) ↔ t = a ++ r ∧ (∀ c ∈ a, c.isDigit = true) ∧ a ≠ [] ∧ a.length ≤ 3 ∧
      (a.length < 3 → Reader.Stops Char.isDigit r) := by
  have htake (h : a.length ≤ 3) : (a ++ r).take 3 = a ++ r.take (3 - a.length) := by
    rw [List.take_append, List.take_of_length_le h]
  constructor
  · intro h
    obtain rfl := lossless_octet _ _ _ h
    unfold octet at h
    split at h
    · simp at h
    · rename_i d ds hd
      simp only [Option.some.injEq, Prod.mk.injEq] at h
      obtain ⟨rfl, -⟩ := h
      have hall : ∀ c ∈ d :: ds, c.isDigit = true :=
        fun c hc => List.all_eq_true.1 List.all_takeWhile c (hd ▸ hc)
      have hle : (d :: ds).length ≤ 3 := by
        have hpre : d :: ds <+: (d :: ds ++ r).take 3 := by
          have := List.takeWhile_prefix Char.isDigit (l := (d :: ds ++ r).take 3)
          rwa [hd] at this
        exact Nat.le_trans hpre.length_le (List.length_take_le 3 _)
      refine ⟨rfl, hall, by simp, hle, fun hlt => ?_⟩
      -- With fewer than three digits it is the next character that ended the run.
      rw [htake hle, List.takeWhile_append_of_pos hall, List.append_right_eq_self] at hd
      exact (stops_take (by omega)).1 (Reader.stops_iff.2 hd)
  · rintro ⟨rfl, hall, hne, hle, hstop⟩
    have hread : ((a ++ r).take 3).takeWhile Char.isDigit = a := by
      rw [htake hle]
      by_cases hlt : a.length < 3
      · exact Reader.takeWhile_eq hall ((stops_take (by omega)).2 (hstop hlt))
      · have hzero : 3 - a.length = 0 := by omega
        rw [hzero, List.take_zero]
        exact Reader.takeWhile_eq hall Reader.stops_nil
    obtain ⟨c, cs, rfl⟩ := List.exists_cons_of_ne_nil hne
    rw [octet, hread]
    simp

theorem sound_octet : Sound octet Expression.octet := by
  intro t a r h
  obtain ⟨-, hall, hne, hle, -⟩ := octet_eq_some_iff.1 h
  refine reads_times_one_iff.2 ⟨hall, List.length_pos_iff.2 hne, fun m hm => ?_⟩
  obtain rfl := Option.some.inj hm
  exact hle

/-- Four numbers are three with a dot, one after the other, and one more. -/
theorem reads_ip_iff {a r : Text} :
    Reads Expression.ip a r ↔
      Reads (.seq (plain (.seq Expression.octet (.word ['.'])))
        (.seq (plain (.seq Expression.octet (.word ['.'])))
          (.seq (plain (.seq Expression.octet (.word ['.']))) Expression.octet))) a r := by
  let dotted := plain (.seq Expression.octet (.word ['.']))
  calc Reads (.seq (.times 3 (some 3) dotted) Expression.octet) a r
      ↔ Reads (.seq dotted (.seq (.times 2 (some 2) dotted) Expression.octet)) a r :=
        reads_times_succ_seq_iff
    _ ↔ Reads (.seq dotted (.seq dotted (.seq (.times 1 (some 1) dotted) Expression.octet))) a r :=
        reads_seq_congr (fun _ _ => Iff.rfl) fun _ _ => reads_times_succ_seq_iff
    _ ↔ Reads (.seq dotted (.seq dotted (.seq dotted Expression.octet))) a r :=
        reads_seq_congr (fun _ _ => Iff.rfl) fun _ _ =>
          reads_seq_congr (fun _ _ => Iff.rfl) fun _ _ => by
            rw [reads_times_succ_seq_iff]
            exact reads_seq_congr (fun _ _ => Iff.rfl) fun _ _ => reads_times_zero_seq_iff

theorem sound_ip : Sound ip Expression.ip := by
  have hdot : Reader.Lossless (.literal ['.']) := Reader.lossless_literal _
  have hl : (octet.seq (.literal ['.'])).Lossless := lossless_octet.seq hdot
  have hd : Sound (octet.seq (.literal ['.']))
      (plain (.seq Expression.octet (.word ['.']))) :=
    (sound_octet.seq (sound_literal _) hdot).group "?:"
  intro t a r h
  exact reads_ip_iff.2 ((hd.seq (hd.seq (hd.seq sound_octet lossless_octet)
    (hl.seq lossless_octet)) (hl.seq (hl.seq lossless_octet))) t a r h)

theorem sound_host : Sound host (plain (.alt Expression.domain Expression.ip)) :=
  (sound_domain.orElse sound_ip).group "?:"

theorem sound_userInfo : Sound userInfo Expression.userInfo :=
  (sound_run1 _ _).seq (sound_literal _) (Reader.lossless_literal _)

theorem sound_authority : Sound authority Expression.authority :=
  (sound_userInfo.group "?:").optional_seq sound_host lossless_host

theorem sound_site : Sound site location :=
  ((sound_literal _).group "?:").optional_seq sound_authority lossless_authority

/-! ### Paths and queries -/

theorem sound_group : Sound group parenthesised :=
  (sound_literal _).seq ((sound_run1 _ _).seq (sound_literal _) (Reader.lossless_literal _))
    ((Reader.lossless_run1 _).seq (Reader.lossless_literal _))

theorem reads_star_pathChar_cons {c : Char} {b r : Text} (hc : isPathChar c = true)
    (h : Reads pathChar.star b r) : Reads pathChar.star (c :: b) r :=
  reads_star_append (a := [c]) (.one hc) h

/-- A stretch is a path that ends outside of its groups. -/
theorem sound_stretch :
    Sound stretch (all [pathChar.star, (plain (.seq parenthesised pathChar.star)).star,
      pathEndChar]) := by
  intro t
  fun_induction stretch t with
  | case1 =>
      intro a r h
      simp at h
  | case2 c rest hc s r hs ih =>
      intro a r' h
      simp only [Option.some.injEq, Prod.mk.injEq] at h
      obtain ⟨rfl, rfl⟩ := h
      obtain ⟨x, y, rfl, hx, hy⟩ := reads_seq_iff.1 (ih _ _ hs)
      exact .seq (a := c :: x) (reads_star_pathChar_cons hc hx) hy
  | case3 c rest hc hs he ih =>
      intro a r h
      simp only [Option.some.injEq, Prod.mk.injEq] at h
      obtain ⟨rfl, rfl⟩ := h
      exact .seq (a := []) reads_star_nil (.seq (a := []) reads_star_nil (.one he))
  | case4 c rest hc hs he ih =>
      intro a r h
      simp at h
  | case5 c rest hc g r hg _ ih =>
      intro a r' h
      obtain ⟨⟨s, r'⟩, hs, he⟩ := Option.map_eq_some_iff.1 h
      obtain ⟨rfl, rfl⟩ := Prod.mk.inj he
      -- The characters that the rest starts with belong behind the group.
      obtain ⟨x, y, rfl, hx, hy⟩ := reads_seq_iff.1 (ih _ _ hs)
      obtain ⟨b, e, rfl, hb, hend⟩ := reads_seq_iff.1 hy
      have hr : r = x ++ (b ++ e) ++ r' := lossless_stretch _ _ _ hs
      have hgroup := sound_group _ _ _ hg
      rw [hr] at hgroup
      have hfirst : Reads (plain (.seq parenthesised pathChar.star)) (g ++ x) (b ++ (e ++ r')) := by
        refine .group (.seq ?_ ?_)
        · simpa using hgroup
        · simpa using hx
      have := Expression.Reads.seq (a := []) (reads_star_nil (e := pathChar))
        (.seq (reads_star_append hfirst hb) hend)
      rw [List.nil_append, List.append_assoc, List.append_assoc] at this
      exact this
  | case6 c rest hc hg =>
      intro a r h
      simp at h

theorem reads_groups (t : Text) : Reads path.star (groups t).1 (groups t).2 := by
  fun_induction groups t with
  | case1 t g r hg _ ih =>
      have hgroup := sound_group _ _ _ hg
      rw [groups_append r] at hgroup
      exact reads_star_append (.group (.left (.group (.right (.group hgroup))))) ih
  | case2 t hg => exact reads_star_nil

theorem sound_paths : Sound paths path.star := by
  intro t a r h
  obtain ⟨x, s, y, hx, hy, rfl⟩ := Reader.seq_eq_some_iff.1 h
  have hgroups := reads_groups s
  have hs := groups_append s
  rw [Option.some.inj hy] at hgroups hs
  -- The stretch is the first path, and each group behind it is a path of its own.
  rcases Reader.optional_eq_some hx with hx | ⟨rfl, -⟩
  · have hstretch := sound_stretch _ _ _ hx
    rw [hs] at hstretch
    exact reads_star_append (.group (.left (.group (.left hstretch)))) hgroups
  · exact hgroups

theorem sound_queryBody : Sound queryBody (.seq queryChar.star queryEndChar) := by
  intro t
  induction t with
  | nil =>
      intro a r h
      simp [queryBody] at h
  | cons c rest ih =>
      intro a r h
      unfold queryBody at h
      split at h
      · rename_i hc
        split at h
        · rename_i q r' hq
          simp only [Option.some.injEq, Prod.mk.injEq] at h
          obtain ⟨rfl, rfl⟩ := h
          obtain ⟨x, y, rfl, hx, hy⟩ := reads_seq_iff.1 (ih _ _ hq)
          exact .seq (a := c :: x) (reads_star_append (a := [c]) (.one hc) hx) hy
        · split at h
          · rename_i he
            simp only [Option.some.injEq, Prod.mk.injEq] at h
            obtain ⟨rfl, rfl⟩ := h
            exact .seq (a := []) reads_star_nil (.one he)
          · simp at h
      · simp at h

theorem sound_query : Sound query Expression.query :=
  (sound_literal _).seq sound_queryBody lossless_queryBody

theorem sound_trail : Sound trail rear := by
  have hq : query.optional.Lossless := .optional lossless_query
  have hpaths : Sound (paths.seq query.optional)
      (.seq (Expression.group "" path.star) (Expression.group "" Expression.query).optional) :=
    (sound_paths.group "").seq (sound_query.group "").optional hq
  intro t a r h
  obtain ⟨x, s, y, hx, hy, rfl⟩ := Reader.seq_eq_some_iff.1 h
  have hs : s = y ++ r := (lossless_paths.seq hq) _ _ _ hy
  obtain ⟨b, q, rfl, hb, hq'⟩ := reads_seq_iff.1 (hpaths _ _ _ hy)
  refine .seq (hs ▸ (sound_literal _).optional _ _ _ hx) ?_
  exact reads_optional_iff.2 (.inr (.group (.seq (reads_optional_iff.2 (.inr hb)) hq')))

/-! ### URLs -/

/-- What is read up to the end of a host is that of one of the protocols. -/
theorem exists_of_head {g : Grammar} {t a r : Text} (h : g.head t = some (a, r)) :
    ∃ p ∈ g.protocols, Reads (front p) a r := by
  obtain ⟨_, hq, h⟩ := Reader.exists_of_first h
  obtain ⟨p, hp, rfl⟩ := List.mem_map.1 hq
  refine ⟨p, hp, ?_⟩
  obtain ⟨x, y, rfl, hx, hy⟩ :=
    reads_seq_iff.1 ((sound_literal _).seq sound_site lossless_site _ _ _ h)
  rw [reads_word_iff.1 hx]
  exact .seq (.seq .word .word) hy

/-- What is read is a URL of the grammar. -/
theorem sound_url (g : Grammar) : Sound g.url g.urlExpression := by
  intro t u r h
  obtain ⟨x, s, y, hx, hy, rfl⟩ := Reader.seq_eq_some_iff.1 h
  obtain ⟨p, hp, hx⟩ := exists_of_head hx
  have hs : s = y ++ r := lossless_trail _ _ _ hy
  exact reads_urlExpression_iff.2 ⟨p, hp, .seq (hs ▸ hx) (sound_trail _ _ _ hy)⟩

end BareUrl.Url
