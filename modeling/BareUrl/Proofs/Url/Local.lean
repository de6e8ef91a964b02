import BareUrl.Proofs.Text.Local
import BareUrl.Proofs.Url.Sound

/-!
# `BareUrl.Proofs.Url.Local`: a URL does not depend on text further on

Every reader of the grammar is local, so the reader of a URL with its leader is (`local_led`). Host
names are the only parts whose end looks at the next character. User information, the numbers of
an address and groups in parentheses are fixed, as each ends with a character that it cannot hold.
What follows the host takes as much as it can, so more text can only make it longer: `steady_trail`.
-/

set_option autoImplicit false

namespace BareUrl.Url

open Expression
open Reader (Same Reaches Steady Local Fixed Total same_of_none same_of_some)

/-! ### Hosts -/

theorem endsWord_append {r z : Text} (hr : r ≠ []) :
    Text.endsWord (r ++ z) = Text.endsWord r := by
  obtain ⟨c, r, rfl⟩ := List.exists_cons_of_ne_nil hr
  rfl

theorem local_topLevel : Local topLevel := by
  intro s z
  cases hs : topLevel s with
  | some x =>
      obtain ⟨a, r⟩ := x
      obtain ⟨ht, hall, hmin, hmax, hend⟩ := topLevel_eq_some_iff.1 hs
      have hread (h : Text.endsWord (r ++ z) = true) : topLevel (s ++ z) = some (a, r ++ z) :=
        topLevel_eq_some_iff.2 ⟨by rw [ht, List.append_assoc], hall, hmin, hmax, h⟩
      by_cases hr : r = []
      · -- The name ends with the text: only here does `z` decide whether a word ends.
        subst hr
        cases hz : Text.endsWord z with
        | true => exact .inl (same_of_some hs (hread hz))
        | false =>
            rw [List.append_nil] at ht
            exact .inr (.inr ⟨by rw [ht], rfl⟩)
      · exact .inl (same_of_some hs (hread ((endsWord_append hr).trans hend)))
  | none =>
      cases hz : topLevel (s ++ z) with
      | none => exact .inl (same_of_none hs hz)
      | some x =>
          -- A name within the text that ends a word with `z` ends one without it.
          obtain ⟨a, r⟩ := x
          refine .inr (.inl ⟨a, r, hz, Nat.lt_of_not_le fun hle => ?_⟩)
          obtain ⟨ht, hall, hmin, hmax, hend⟩ := topLevel_eq_some_iff.1 hz
          obtain ⟨r', rfl, rfl⟩ := Reader.exists_rest ht hle
          have hend' : Text.endsWord r' = true := by
            by_cases hr : r' = []
            · rw [hr]
              rfl
            · rwa [← endsWord_append hr]
          rw [topLevel_eq_some_iff.2 ⟨rfl, hall, hmin, hmax, hend'⟩] at hs
          simp at hs

theorem ne_nil_of_labelsThenTop {t a r : Text} (h : labelsThenTop t = some (a, r)) : a ≠ [] := by
  obtain ⟨l, s, name, rfl, -⟩ := labelsThenTop_eq_some h
  simp

/-- However far the labels reach, only the top-level name looks beyond its own characters. -/
theorem local_labelsThenTop : Local labelsThenTop := by
  intro s z
  induction s with
  | nil =>
      cases hz : labelsThenTop z with
      | none => exact .inl (same_of_none rfl hz)
      | some x =>
          exact .inr (.inl ⟨x.1, x.2, hz, List.length_pos_iff.2 (ne_nil_of_labelsThenTop hz)⟩)
  | cons c s ih =>
      by_cases hc : isLabelChar c = true
      · have hrest (t : Text) (d r : Text) (h : labelsThenTop t = some (d, r)) :
            labelsThenTop (c :: t) = some (c :: d, r) := by
          rw [labelsThenTop, if_pos hc, h]
        have htop (t : Text) (h : labelsThenTop t = none) : labelsThenTop (c :: t)
            = if c = '.' then (topLevel t).map fun x => (c :: x.1, x.2) else none := by
          rw [labelsThenTop, if_pos hc, h]
        rcases ih with h | ⟨d, r, hz, hlt⟩ | ⟨h, hend⟩
        · -- Nothing further on changes, so at most this character can be the last dot.
          cases hs : labelsThenTop s with
          | some x =>
              obtain ⟨d, r⟩ := x
              exact .inl (same_of_some (hrest _ _ _ hs) (hrest _ _ _ (h.eq_some hs)))
          | none =>
              rw [Same, Reaches, List.cons_append, htop _ hs, htop _ (h.eq_none hs)]
              by_cases hdot : c = '.'
              · rw [if_pos hdot, if_pos hdot]
                rcases local_topLevel s z with h' | ⟨d, r, hz, hlt⟩ | ⟨h', hend⟩
                · refine .inl ?_
                  rw [h', Option.map_map, Option.map_map]
                  rfl
                · exact .inr (.inl ⟨c :: d, r, by rw [hz]; rfl, Nat.succ_lt_succ hlt⟩)
                · exact .inr (.inr ⟨by rw [h']; rfl, hend⟩)
              · rw [if_neg hdot, if_neg hdot]
                exact .inl rfl
        · exact .inr (.inl ⟨c :: d, r, hrest _ _ _ hz, Nat.succ_lt_succ hlt⟩)
        · exact .inr (.inr ⟨hrest _ _ _ h, hend⟩)
      · have hnone (t : Text) : labelsThenTop (c :: t) = none := by
          rw [labelsThenTop, if_neg hc]
        exact .inl (same_of_none (hnone s) (hnone (s ++ z)))

theorem local_labelledDomain : Local labelledDomain := by
  intro s z
  cases s with
  | nil =>
      cases hz : labelledDomain z with
      | none => exact .inl (same_of_none rfl hz)
      | some x =>
          obtain ⟨a, r⟩ := x
          refine .inr (.inl ⟨a, r, hz, ?_⟩)
          cases z with
          | nil => simp [labelledDomain] at hz
          | cons c z =>
              rw [labelledDomain] at hz
              split at hz
              · obtain ⟨x, -, he⟩ := Option.map_eq_some_iff.1 hz
                rw [← (Prod.mk.inj he).1]
                simp
              · simp at hz
  | cons c s =>
      rw [Same, Reaches, List.cons_append, labelledDomain, labelledDomain]
      by_cases hc : isLabelChar c = true
      · rw [if_pos hc, if_pos hc]
        rcases local_labelsThenTop s z with h | ⟨d, r, hz, hlt⟩ | ⟨h, hend⟩
        · refine .inl ?_
          rw [h, Option.map_map, Option.map_map]
          rfl
        · exact .inr (.inl ⟨c :: d, r, by rw [hz]; rfl, Nat.succ_lt_succ hlt⟩)
        · exact .inr (.inr ⟨by rw [h]; rfl, hend⟩)
      · rw [if_neg hc, if_neg hc]
        exact .inl rfl

theorem local_domain : Local domain := local_labelledDomain.orElse local_topLevel

theorem stops_append {f : Char → Bool} {r : Text} (z : Text) (hr : r ≠ []) :
    Reader.Stops f (r ++ z) ↔ Reader.Stops f r := by
  obtain ⟨c, r, rfl⟩ := List.exists_cons_of_ne_nil hr
  rw [List.cons_append, Reader.stops_cons, Reader.stops_cons]

/-- A number with its dot is the same whatever follows the dot. -/
theorem fixed_dotted : Fixed (octet.seq (.literal ['.'])) := by
  intro a s z h
  obtain ⟨x, t, y, hx, hy, rfl⟩ := Reader.seq_eq_some_iff.1 h
  obtain ⟨rfl, rfl⟩ := Reader.literal_eq_some_iff.1 hy
  obtain ⟨-, hall, hne, hle, -⟩ := octet_eq_some_iff.1 hx
  have hread : octet (x ++ ('.' :: z)) = some (x, '.' :: z) :=
    octet_eq_some_iff.2 ⟨rfl, hall, hne, hle, fun _ => Reader.stops_cons.2 (by decide)⟩
  rw [List.append_assoc]
  exact Reader.seq_eq_some_iff.2 ⟨x, _, ['.'], hread, Reader.literal_append _ _, rfl⟩

theorem steady_octet : Steady octet := by
  intro s z
  cases hz : octet (s ++ z) with
  | none =>
      refine .inl (same_of_none ?_ hz)
      cases hs : octet s with
      | none => rfl
      | some x =>
          -- The digits that are read of `s` alone are there with `z` as well.
          obtain ⟨ht, hall, hne, -, -⟩ := octet_eq_some_iff.1 hs
          obtain ⟨c, a, ha⟩ := List.exists_cons_of_ne_nil hne
          have hc : c.isDigit = true := hall c (ha ▸ List.mem_cons_self)
          rw [ht, ha] at hz
          simp [octet, hc] at hz
  | some x =>
      obtain ⟨a, r⟩ := x
      by_cases hlt : s.length < a.length
      · exact .inr ⟨a, r, hz, hlt⟩
      · obtain ⟨ht, hall, hne, hle, hstop⟩ := octet_eq_some_iff.1 hz
        obtain ⟨r', rfl, rfl⟩ := Reader.exists_rest ht (Nat.le_of_not_lt hlt)
        refine .inl (same_of_some (octet_eq_some_iff.2 ⟨rfl, hall, hne, hle, fun h => ?_⟩) hz)
        by_cases hr : r' = []
        · rw [hr]
          exact Reader.stops_nil
        · exact (stops_append z hr).1 (hstop h)

theorem local_ip : Local ip := by
  have hdot : Reader.Lossless (.literal ['.']) := Reader.lossless_literal _
  have hl : (octet.seq (.literal ['.'])).Lossless := lossless_octet.seq hdot
  exact fixed_dotted.seq_local hl (fixed_dotted.seq_local hl
    (fixed_dotted.seq_local hl steady_octet.local))

theorem local_host : Local host := local_domain.orElse local_ip

/-- A run that a character which is none of it closes is the same whatever follows. -/
theorem fixed_run1_literal {f : Char → Bool} {c : Char} (hc : f c = false) :
    Fixed (Reader.seq (.run1 f) (.literal [c])) := by
  intro a s z h
  obtain ⟨x, t, y, hx, hy, rfl⟩ := Reader.seq_eq_some_iff.1 h
  obtain ⟨rfl, rfl⟩ := Reader.literal_eq_some_iff.1 hy
  obtain ⟨-, hne, hall, -⟩ := Reader.run1_eq_some_iff.1 hx
  have hread : Reader.run1 f (x ++ (c :: z)) = some (x, c :: z) :=
    Reader.run1_eq_some_iff.2 ⟨rfl, hne, hall, Reader.stops_cons.2 hc⟩
  rw [List.append_assoc]
  exact Reader.seq_eq_some_iff.2 ⟨x, _, [c], hread, Reader.literal_append _ _, rfl⟩

theorem fixed_userInfo : Fixed userInfo := fixed_run1_literal (by decide)

theorem local_authority : Local authority :=
  (fixed_userInfo.seq_local lossless_userInfo local_host).orElse local_host

theorem local_site : Local site :=
  ((Reader.fixed_literal _).seq_local (Reader.lossless_literal _) local_authority).orElse
    local_authority

/-! ### Paths and queries -/

theorem fixed_group : Fixed group :=
  (Reader.fixed_literal _).seq (fixed_run1_literal (by decide))
    ((Reader.lossless_run1 _).seq (Reader.lossless_literal _))

theorem group_append {t g r : Text} (z : Text) (h : group t = some (g, r)) :
    group (t ++ z) = some (g, r ++ z) := by
  obtain rfl := lossless_group _ _ _ h
  rw [List.append_assoc]
  exact fixed_group g r _ h

/-- Where there is no group yet, one can only end in what follows. -/
theorem reaches_of_group {t z g r : Text} (h : group t = none)
    (hz : group (t ++ z) = some (g, r)) : t.length < g.length := by
  rcases fixed_group.steady lossless_group t z with hsame | ⟨g', r', hz', hlt⟩
  · rw [hsame.eq_none h] at hz
    simp at hz
  · rw [hz] at hz'
    obtain ⟨rfl, -⟩ := Prod.mk.inj (Option.some.inj hz')
    exact hlt

theorem stretch_cons {c : Char} (hc : isPathChar c = true) (t : Text) :
    stretch (c :: t) = match stretch t with
      | some (s, r) => some (c :: s, r)
      | none => if isPathEnd c then some ([c], t) else none := by
  rw [stretch]
  exact if_pos hc

theorem stretch_of_group {c : Char} {t g r : Text} (hc : ¬ isPathChar c = true)
    (h : group (c :: t) = some (g, r)) :
    stretch (c :: t) = (stretch r).map fun x => (g ++ x.1, x.2) := by
  rw [stretch, if_neg hc]
  split
  · rename_i g' r' h'
    rw [h, Option.some.injEq, Prod.mk.injEq] at h'
    rw [h'.1, h'.2]
  · rename_i h'
    rw [h] at h'
    simp at h'

theorem stretch_of_no_group {c : Char} {t : Text} (hc : ¬ isPathChar c = true)
    (h : group (c :: t) = none) : stretch (c :: t) = none := by
  rw [stretch, if_neg hc]
  split
  · rename_i g' r' h'
    rw [h] at h'
    simp at h'
  · rfl

theorem ne_nil_of_stretch {t a r : Text} (h : stretch t = some (a, r)) : a ≠ [] := by
  obtain ⟨x, y, rfl, -, hy⟩ := reads_seq_iff.1 (sound_stretch _ _ _ h)
  obtain ⟨x', y, rfl, -, hy⟩ := reads_seq_iff.1 hy
  obtain ⟨c, rfl, -⟩ := reads_one_iff.1 hy
  simp

/-- A reader that takes characters of a class up to the last one of another class: more text behind
only makes what it takes longer. -/
theorem steady_cons {p : Reader} {c : Char} {s z : Text} {last : Bool}
    (hcons : ∀ t, p (c :: t) = match p t with
      | some (a, r) => some (c :: a, r)
      | none => if last then some ([c], t) else none)
    (ih : Same p s z ∨ Reaches p s z) : Same p (c :: s) z ∨ Reaches p (c :: s) z := by
  rcases ih with h | ⟨a, r, hz, hlt⟩
  · refine .inl ?_
    cases hs : p s with
    | some x =>
        obtain ⟨a, r⟩ := x
        have hz := h.eq_some hs
        exact same_of_some (a := c :: a) (r := r) (by rw [hcons, hs])
          (by rw [List.cons_append, hcons, hz])
    | none =>
        rw [Same, List.cons_append, hcons, hcons, hs, h.eq_none hs]
        cases last <;> rfl
  · refine .inr ⟨c :: a, r, ?_, Nat.succ_lt_succ hlt⟩
    rw [List.cons_append, hcons, hz]

theorem steady_stretch : Steady stretch := by
  intro s
  fun_induction stretch s with
  | case1 =>
      intro z
      cases hz : stretch z with
      | none => exact .inl (same_of_none (by rw [stretch]) hz)
      | some x =>
          exact .inr ⟨x.1, x.2, hz, List.length_pos_iff.2 (ne_nil_of_stretch hz)⟩
  | case2 c rest hc s r hs ih =>
      intro z
      exact steady_cons (stretch_cons hc) (ih z)
  | case3 c rest hc hs he ih =>
      intro z
      exact steady_cons (stretch_cons hc) (ih z)
  | case4 c rest hc hs he ih =>
      intro z
      exact steady_cons (stretch_cons hc) (ih z)
  | case5 c rest hc g r hg _ ih =>
      -- The group is there with `z` as well, and what is read behind it is steady.
      intro z
      have hgroup : group (c :: (rest ++ z)) = some (g, r ++ z) := group_append z hg
      rw [Same, Reaches, List.cons_append, stretch_of_group hc hgroup, stretch_of_group hc hg]
      rcases ih z with h | ⟨a, r', hz, hlt⟩
      · refine .inl ?_
        rw [h, Option.map_map, Option.map_map]
        rfl
      · refine .inr ⟨g ++ a, r', by rw [hz]; rfl, ?_⟩
        rw [lossless_group _ _ _ hg, List.length_append, List.length_append]
        omega
  | case6 c rest hc hg =>
      -- A group that is found only with `z` ends in `z`.
      intro z
      have hnone : stretch (c :: rest) = none := stretch_of_no_group hc hg
      cases hz : group (c :: (rest ++ z)) with
      | none => exact .inl (same_of_none hnone (stretch_of_no_group hc hz))
      | some x =>
          obtain ⟨g, r⟩ := x
          have hlt := reaches_of_group (t := c :: rest) hg hz
          have hread := stretch_of_group hc hz
          cases hr : stretch r with
          | none =>
              rw [hr] at hread
              exact .inl (same_of_none hnone hread)
          | some x =>
              rw [hr] at hread
              refine .inr ⟨g ++ x.1, x.2, hread, ?_⟩
              rw [List.length_append]
              omega

theorem groups_of_group {t g r : Text} (h : group t = some (g, r)) :
    groups t = (g ++ (groups r).1, (groups r).2) := by
  rw [groups]
  split
  · rename_i g' r' h'
    rw [h, Option.some.injEq, Prod.mk.injEq] at h'
    rw [h'.1, h'.2]
  · rename_i h'
    rw [h] at h'
    simp at h'

theorem groups_of_no_group {t : Text} (h : group t = none) : groups t = ([], t) := by
  rw [groups]
  split
  · rename_i h'
    rw [h] at h'
    simp at h'
  · rfl

theorem steady_groups : Steady fun t => some (groups t) := by
  intro s
  fun_induction groups s with
  | case1 t g r hg _ ih =>
      intro z
      rw [Same, Reaches, groups_of_group hg, groups_of_group (group_append z hg)]
      rcases ih z with h | ⟨a, r', hz, hlt⟩
      · have hboth : groups (r ++ z) = ((groups r).1, (groups r).2 ++ z) := Option.some.inj h
        refine .inl ?_
        rw [hboth]
        rfl
      · have hboth : groups (r ++ z) = (a, r') := Option.some.inj hz
        refine .inr ⟨g ++ a, r', by rw [hboth], ?_⟩
        rw [lossless_group _ _ _ hg, List.length_append, List.length_append]
        omega
  | case2 t hg =>
      intro z
      cases hz : group (t ++ z) with
      | none =>
          refine .inl (same_of_some (congrArg some (groups_of_no_group hg)) ?_)
          exact congrArg some (groups_of_no_group hz)
      | some x =>
          obtain ⟨g, r⟩ := x
          refine .inr ⟨_, _, congrArg some (groups_of_group hz), ?_⟩
          have := reaches_of_group hg hz
          rw [List.length_append]
          omega

theorem steady_queryBody : Steady queryBody := by
  intro s
  induction s with
  | nil =>
      intro z
      cases hz : queryBody z with
      | none => exact .inl (same_of_none rfl hz)
      | some x =>
          obtain ⟨a, r⟩ := x
          refine .inr ⟨a, r, hz, List.length_pos_iff.2 ?_⟩
          obtain ⟨x, y, rfl, -, hy⟩ := reads_seq_iff.1 (sound_queryBody _ _ _ hz)
          obtain ⟨c, rfl, -⟩ := reads_one_iff.1 hy
          simp
  | cons c rest ih =>
      intro z
      by_cases hc : isQueryChar c = true
      · exact steady_cons (fun t => by rw [queryBody]; exact if_pos hc) (ih z)
      · have hnone (t : Text) : queryBody (c :: t) = none := by rw [queryBody, if_neg hc]
        exact .inl (same_of_none (hnone _) (hnone _))

theorem total_paths : Total paths := (Reader.total_optional _).seq fun _ => rfl

theorem steady_paths : Steady paths :=
  steady_stretch.optional.seq lossless_stretch.optional steady_groups fun _ => rfl

theorem steady_query : Steady query :=
  (Reader.fixed_literal _).seq_steady (Reader.lossless_literal _) steady_queryBody

/-- More text behind can only make longer what follows a host. -/
theorem steady_trail : Steady trail := by
  have hslash : Steady (Reader.optional (.literal ['/'])) :=
    ((Reader.fixed_literal _).steady (Reader.lossless_literal _)).optional
  exact hslash.seq (Reader.lossless_literal _).optional
    (steady_paths.seq lossless_paths steady_query.optional (Reader.total_optional _))
    (total_paths.seq (Reader.total_optional _))

/-! ### URLs -/

theorem local_head (g : Grammar) : Local g.head := by
  refine Reader.local_first fun p hp => ?_
  obtain ⟨q, -, rfl⟩ := List.mem_map.1 hp
  exact (Reader.fixed_literal _).seq_local (Reader.lossless_literal _) local_site

theorem total_trail : Total trail :=
  (Reader.total_optional _).seq (total_paths.seq (Reader.total_optional _))

theorem local_url (g : Grammar) : Local g.url :=
  (local_head g).seq_steady g.lossless_head steady_trail total_trail lossless_trail

/-- Reads a URL with its leader. -/
def Grammar.led (g : Grammar) : Reader := Reader.seq (.literal g.leader) g.url

/-- Whether a URL with its leader is read, and which, does not depend on the text further on. -/
theorem local_led (g : Grammar) : Local g.led :=
  (Reader.fixed_literal _).seq_local (Reader.lossless_literal _) (local_url g)

end BareUrl.Url
