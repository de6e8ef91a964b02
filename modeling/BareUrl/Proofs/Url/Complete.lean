import BareUrl.Proofs.Url.Sound

/-!
# `BareUrl.Proofs.Url.Complete`: what looks like a URL is read

The readers never go back, and yet miss nothing. Two notions say how that can be:

* `Exact p e`: where `e` reads a piece, `p` reads that very piece. It holds of the parts that are
  determined by the text, such as user information, which ends in the only `@` it can hold.
* `Complete p e`: where `e` reads some piece, `p` reads some piece. It is enough of a part with
  nothing required behind it.

An exact part in front of a complete one makes a complete sequence (`Exact.seq_complete`). A URL
is an exact protocol, exact slashes and user information, a complete host, and a trail that may be
anything: `complete_url`.
-/

set_option autoImplicit false

namespace BareUrl.Url

open Expression

/-- Where the expression reads a piece, the reader reads that piece. -/
def Exact (p : Reader) (e : Expression) : Prop :=
  ∀ a r, e.Reads a r → p (a ++ r) = some (a, r)

/-- Where the expression reads a piece, the reader reads some piece. -/
def Complete (p : Reader) (e : Expression) : Prop :=
  ∀ a r, e.Reads a r → (p (a ++ r)).isSome

/-! ### Combinations -/

theorem exact_literal (w : Text) : Exact (.literal w) (.word w) := by
  intro a r h
  rw [reads_word_iff.1 h]
  exact Reader.literal_append w r

theorem Exact.seq {p q : Reader} {e f : Expression} (hp : Exact p e) (hq : Exact q f) :
    Exact (p.seq q) (.seq e f) := by
  intro a r h
  obtain ⟨x, y, rfl, hx, hy⟩ := reads_seq_iff.1 h
  rw [List.append_assoc]
  exact Reader.seq_eq_some_iff.2 ⟨x, y ++ r, y, hp _ _ hx, hq _ _ hy, rfl⟩

theorem Exact.group {p : Reader} {e : Expression} (mark : String) (hp : Exact p e) :
    Exact p (.group mark e) := fun a r h => hp a r (reads_group_iff.1 h)

/-- Behind an exact part it is enough that something can be read. -/
theorem Exact.seq_complete {p q : Reader} {e f : Expression} (hp : Exact p e)
    (hq : Complete q f) : Complete (p.seq q) (.seq e f) := by
  intro a r h
  obtain ⟨x, y, rfl, hx, hy⟩ := reads_seq_iff.1 h
  rw [List.append_assoc]
  exact Reader.isSome_seq (hp _ _ hx) (hq _ _ hy)

theorem Complete.orElse {p q : Reader} {e f : Expression} (hp : Complete p e)
    (hq : Complete q f) : Complete (p.orElse q) (.alt e f) := by
  intro a r h
  rw [Reader.isSome_orElse]
  exact (reads_alt_iff.1 h).imp (hp a r) (hq a r)

theorem Complete.group {p : Reader} {e : Expression} (mark : String) (hp : Complete p e) :
    Complete p (.group mark e) := fun a r h => hp a r (reads_group_iff.1 h)

/-- An optional exact part in front is read as one of two cases. -/
theorem Complete.optional_seq {p q : Reader} {e f : Expression} (hp : Exact p e)
    (hq : Complete q f) : Complete ((p.seq q).orElse q) (.seq e.optional f) := by
  intro a r h
  obtain ⟨x, y, rfl, hx, hy⟩ := reads_seq_iff.1 h
  rw [Reader.isSome_orElse]
  rcases reads_optional_iff.1 hx with rfl | hx
  · exact .inr (hq _ _ hy)
  · exact .inl (hp.seq_complete hq _ _ (.seq hx hy))

/-! ### Hosts -/

theorem complete_topLevel :
    Complete topLevel (.seq (.times 2 (some 64) letter) .wordEnd) := by
  intro a r h
  obtain ⟨name, s, rfl, hname, hs⟩ := reads_seq_iff.1 h
  obtain ⟨rfl, hend⟩ := reads_wordEnd_iff.1 hs
  obtain ⟨hall, hmin, hmax⟩ := reads_times_one_iff.1 hname
  rw [List.append_nil]
  exact Option.isSome_iff_exists.2
    ⟨_, topLevel_eq_some_iff.2 ⟨rfl, hall, hmin, hmax 64 rfl, hend⟩⟩

/-- However long the labels are, the reader gets to a dot that a top-level name follows. -/
theorem isSome_labelsThenTop {l t : Text} (hl : ∀ c ∈ l, isLabelChar c = true)
    (ht : (topLevel t).isSome) : (labelsThenTop (l ++ '.' :: t)).isSome := by
  induction l with
  | nil =>
      have hdot : isLabelChar '.' = true := by decide
      obtain ⟨x, hx⟩ := Option.isSome_iff_exists.1 ht
      rw [List.nil_append, labelsThenTop, if_pos hdot]
      split
      · rfl
      · rw [if_pos rfl, hx]
        rfl
  | cons c l ih =>
      obtain ⟨hc, hl⟩ := List.forall_mem_cons.1 hl
      obtain ⟨x, hx⟩ := Option.isSome_iff_exists.1 (ih hl)
      rw [List.cons_append, labelsThenTop, if_pos hc, hx]
      rfl

theorem complete_domain : Complete domain Expression.domain := by
  intro a r h
  obtain ⟨labels, name, rfl, hlabels, hname⟩ := reads_seq_iff.1 h
  have htop : (topLevel (name ++ r)).isSome := complete_topLevel _ _ hname
  rw [domain, Reader.isSome_orElse]
  rcases reads_optional_iff.1 hlabels with rfl | hlabels
  · exact .inr htop
  · -- The reader may go on to a later dot than the expression does, but it gets to this one.
    obtain ⟨l, dot, rfl, hl, hdot⟩ := reads_seq_iff.1 (reads_plain_iff.1 hlabels)
    obtain ⟨hall, hne, -⟩ := reads_times_one_iff.1 hl
    obtain ⟨c, l, rfl⟩ := List.exists_cons_of_ne_nil (List.length_pos_iff.1 hne)
    obtain ⟨hc, hall⟩ := List.forall_mem_cons.1 hall
    have hthen := isSome_labelsThenTop hall htop
    rw [reads_word_iff.1 hdot]
    refine .inl ?_
    simp only [List.cons_append, List.append_assoc, List.nil_append, labelledDomain]
    rw [if_pos hc, Option.isSome_map]
    exact hthen

theorem exact_dotted :
    Exact (octet.seq (.literal ['.'])) (plain (.seq Expression.octet (.word ['.']))) := by
  intro a r h
  obtain ⟨x, y, rfl, hx, hy⟩ := reads_seq_iff.1 (reads_plain_iff.1 h)
  rw [reads_word_iff.1 hy] at hx ⊢
  obtain ⟨hall, hmin, hmax⟩ := reads_times_one_iff.1 hx
  have hread : octet (x ++ ('.' :: r)) = some (x, '.' :: r) :=
    octet_eq_some_iff.2 ⟨rfl, hall, List.length_pos_iff.1 hmin, hmax 3 rfl, fun _ =>
      Reader.stops_cons.2 (by decide)⟩
  rw [List.append_assoc]
  exact Reader.seq_eq_some_iff.2 ⟨x, ['.'] ++ r, ['.'], hread, Reader.literal_append _ _, rfl⟩

theorem complete_octet : Complete octet Expression.octet := by
  intro a r h
  obtain ⟨hall, hmin, -⟩ := reads_times_one_iff.1 h
  obtain ⟨c, a, rfl⟩ := List.exists_cons_of_ne_nil (List.length_pos_iff.1 hmin)
  have hc : c.isDigit = true := hall c List.mem_cons_self
  simp [octet, hc]

theorem complete_ip : Complete ip Expression.ip := by
  intro a r h
  exact exact_dotted.seq_complete (exact_dotted.seq_complete
    (exact_dotted.seq_complete complete_octet)) a r (reads_ip_iff.1 h)

theorem complete_host : Complete host (plain (.alt Expression.domain Expression.ip)) :=
  (complete_domain.orElse complete_ip).group "?:"

/-- User information ends in the only `@` that it can hold. -/
theorem exact_userInfo : Exact userInfo Expression.userInfo := by
  intro a r h
  obtain ⟨x, y, rfl, hx, hy⟩ := reads_seq_iff.1 h
  rw [reads_word_iff.1 hy]
  obtain ⟨hall, hne, -⟩ := reads_times_one_iff.1 hx
  have hat : Reader.Stops isUserChar ('@' :: r) := Reader.stops_cons.2 (by decide)
  have hrun : Reader.run1 isUserChar (x ++ ('@' :: r)) = some (x, '@' :: r) :=
    Reader.run1_eq_some_iff.2 ⟨rfl, List.length_pos_iff.1 hne, hall, hat⟩
  rw [List.append_assoc]
  exact Reader.seq_eq_some_iff.2 ⟨x, _, ['@'], hrun, Reader.literal_append ['@'] r, rfl⟩

theorem complete_authority : Complete authority Expression.authority :=
  .optional_seq (exact_userInfo.group "?:") complete_host

theorem complete_site : Complete site location :=
  .optional_seq ((exact_literal _).group "?:") complete_authority

/-! ### URLs -/

theorem isSome_head {g : Grammar} {p : Protocol} {a r : Text} (hp : p ∈ g.protocols)
    (h : Reads (front p) a r) : (g.head (a ++ r)).isSome := by
  have hname : Exact (.literal (p.name ++ [':'])) (.seq (.word p.name) (.word [':'])) := by
    intro x s hx
    obtain ⟨y, z, rfl, hy, hz⟩ := reads_seq_iff.1 hx
    rw [reads_word_iff.1 hy, reads_word_iff.1 hz]
    exact Reader.literal_append _ _
  exact Reader.isSome_first (List.mem_map_of_mem hp) (hname.seq_complete complete_site a r h)

/-- Where a URL of the grammar stands, one is read. -/
theorem complete_url (g : Grammar) : Complete g.url g.urlExpression := by
  intro u r h
  obtain ⟨p, hp, h⟩ := reads_urlExpression_iff.1 h
  obtain ⟨x, y, rfl, hx, -⟩ := reads_seq_iff.1 h
  obtain ⟨⟨a, s⟩, ha⟩ := Option.isSome_iff_exists.1 (isSome_head hp hx)
  -- The trail may be empty, so it is read whatever is left behind the host.
  have htrail : (trail s).isSome := rfl
  rw [List.append_assoc]
  exact Reader.isSome_seq ha htrail

end BareUrl.Url
