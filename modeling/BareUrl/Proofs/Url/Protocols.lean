import BareUrl.Proofs.Url.Before

/-!
# `BareUrl.Proofs.Url.Protocols`: the protocols of a grammar are a set

Protocols are tried in order, and the name of one may be the start of another, as `http` is of
`https`. But a name is read with the colon behind it, and no name holds a colon, so at most one
protocol can be read at a place (`Protocol.eq_of_append_colon`). Neither the order of the protocols
nor how often one is listed matters then to what is read (`head_of_same_protocols`), nor to what is
found (`find_of_same_protocols`).

`make_eq_ok_iff` says which grammar is made of a list of protocols, and when.
-/

set_option autoImplicit false

namespace BareUrl.Url

/-! ### One protocol at a place -/

theorem colon_not_mem {name : Text} (h : isProtocolName name = true) : ':' ∉ name := by
  cases name with
  | nil => exact List.not_mem_nil
  | cons c rest =>
      rw [isProtocolName, Bool.and_eq_true, List.all_eq_true] at h
      intro hmem
      rcases List.mem_cons.1 hmem with rfl | hmem
      · exact absurd h.1 (by decide)
      · exact absurd (h.2 ':' hmem) (by decide)

theorem Protocol.eq_of_name {p q : Protocol} (h : p.name = q.name) : p = q := by
  obtain ⟨name, _⟩ := p
  obtain rfl : name = q.name := h
  rfl

theorem Protocol.name_mem_map {p : Protocol} {ps : List Protocol} :
    p.name ∈ ps.map Protocol.name ↔ p ∈ ps := by
  constructor
  · intro h
    obtain ⟨q, hq, hname⟩ := List.mem_map.1 h
    exact Protocol.eq_of_name hname ▸ hq
  · exact List.mem_map_of_mem

/-- The name of a protocol is all in front of the first colon. -/
theorem Protocol.takeWhile_append_colon (p : Protocol) (a : Text) :
    (p.name ++ ':' :: a).takeWhile (· != ':') = p.name := by
  refine Reader.takeWhile_eq (fun c hc => ?_) (Reader.stops_cons.2 rfl)
  rw [bne_iff_ne]
  rintro rfl
  exact colon_not_mem p.valid hc

theorem Protocol.eq_of_append_colon {p q : Protocol} {a b : Text}
    (h : p.name ++ ':' :: a = q.name ++ ':' :: b) : p = q := by
  refine eq_of_name ?_
  rw [← p.takeWhile_append_colon a, h, q.takeWhile_append_colon b]

/-- Reads the protocol and the site behind it. -/
def Protocol.site (p : Protocol) : Reader := Reader.seq (.literal (p.name ++ [':'])) Url.site

/-- Two protocols cannot be read at one place. -/
theorem Protocol.eq_of_site {p q : Protocol} {t : Text} {x y : Text × Text}
    (hx : p.site t = some x) (hy : q.site t = some y) : p = q := by
  obtain ⟨_, s, _, hp, -, -⟩ := Reader.seq_eq_some_iff.1 hx
  obtain ⟨_, s', _, hq, -, -⟩ := Reader.seq_eq_some_iff.1 hy
  obtain ⟨-, hp⟩ := Reader.literal_eq_some_iff.1 hp
  obtain ⟨-, hq⟩ := Reader.literal_eq_some_iff.1 hq
  rw [hp, List.append_assoc, List.append_assoc] at hq
  exact eq_of_append_colon hq

namespace Grammar

variable {g g' : Grammar}

/-- Which protocol is read does not depend on those that are tried before it. -/
theorem head_eq_some_iff {t : Text} {x : Text × Text} :
    g.head t = some x ↔ ∃ p ∈ g.protocols, p.site t = some x := by
  have hfirst : g.head t = some x ↔ ∃ q ∈ g.protocols.map Protocol.site, q t = some x := by
    -- Readers of two protocols that both read something are one reader.
    refine Reader.first_eq_some_iff fun q hq q' hq' y z hy hz => ?_
    obtain ⟨p, -, rfl⟩ := List.mem_map.1 hq
    obtain ⟨p', -, rfl⟩ := List.mem_map.1 hq'
    obtain rfl := Protocol.eq_of_site hy hz
    exact Option.some.inj (hy.symm.trans hz)
  rw [hfirst]
  constructor
  · rintro ⟨q, hq, h⟩
    obtain ⟨p, hp, rfl⟩ := List.mem_map.1 hq
    exact ⟨p, hp, h⟩
  · rintro ⟨p, hp, h⟩
    exact ⟨p.site, List.mem_map_of_mem hp, h⟩

theorem head_of_same_protocols (h : ∀ p, p ∈ g'.protocols ↔ p ∈ g.protocols) :
    g'.head = g.head := by
  funext t
  refine Option.ext fun x => ?_
  rw [head_eq_some_iff, head_eq_some_iff]
  exact exists_congr fun p => and_congr_left' (h p)

/-- Grammars that differ in the order of their protocols, or in how often these are listed, cut
every text alike. -/
theorem find_of_same_protocols (hleader : g'.leader = g.leader)
    (h : ∀ p, p ∈ g'.protocols ↔ p ∈ g.protocols) (t : Text) : g'.find t = g.find t := by
  have hled : g'.led = g.led := by
    rw [led, led, url, url, hleader, head_of_same_protocols h]
  have hstarts (y : Text) : g'.Starts y ↔ g.Starts y := by
    rw [starts_iff_led, starts_iff_led, hled]
  -- A URL is found at the same places, and read with the same rest behind it.
  induction t using find_induct g with
  | silent t hclear hfind =>
      rw [hfind]
      exact Recogniser.run_leftmost_of_silent
        (silent_iff.2 fun x y ht hy => hclear x y ht ((hstarts y).1 hy))
  | url gap f rest hm hurl hclear hfind ih =>
      have hread : g'.led (f.matched ++ rest) = some (f.matched, rest) := by
        rw [hled]
        exact led_eq_some hm hurl
      have hclear' : g'.ClearBefore gap (f.matched ++ rest) :=
        fun x y hgap hy hs => hclear x y hgap hy ((hstarts _).1 hs)
      rw [find_of_led (by rw [hleader, hm]) hread hclear', hfind, ih]

end Grammar

/-! ### Grammars from lists -/

theorem checkProtocols_eq_ok_iff {names : List Text} {ps : List Protocol} :
    checkProtocols names = .ok ps ↔ ps.map Protocol.name = names := by
  induction names generalizing ps with
  | nil =>
      rw [List.map_eq_nil_iff, checkProtocols, Except.ok.injEq]
      exact eq_comm
  | cons name rest ih =>
      rw [checkProtocols]
      constructor
      · intro h
        split at h
        · split at h
          · rename_i hrest
            rw [← Except.ok.inj h, List.map_cons, ih.1 hrest]
          · exact absurd h (by simp)
        · exact absurd h (by simp)
      · intro h
        obtain ⟨p, qs, rfl, rfl, hrest⟩ := List.map_eq_cons_iff.1 h
        rw [dif_pos p.valid, ih.2 hrest]

theorem exists_protocols {names : List Text} (h : ∀ name ∈ names, isProtocolName name = true) :
    ∃ ps : List Protocol, ps.map Protocol.name = names :=
  ⟨names.pmap Protocol.mk h, by rw [List.map_pmap, List.pmap_eq_map, List.map_id']⟩

/-- A grammar is made of a leader and of names that all are names of protocols. There is at least
one, as a grammar has protocols. -/
theorem Grammar.make_eq_ok_iff {names : List Text} {leader : Text} {g : Grammar} :
    Grammar.make names leader = .ok g ↔
      g.leader = leader ∧ g.protocols.map Protocol.name = names := by
  rw [Grammar.make]
  constructor
  · intro h
    split at h
    · exact absurd h (by simp)
    · split at h
      · exact absurd h (by simp)
      · exact absurd h (by simp)
      · rename_i p ps hcheck
        rw [← Except.ok.inj h]
        exact ⟨rfl, checkProtocols_eq_ok_iff.1 hcheck⟩
  · rintro ⟨rfl, rfl⟩
    obtain ⟨leader, protocols, hinhabited⟩ := g
    rw [if_neg (by simpa using hinhabited), checkProtocols_eq_ok_iff.2 rfl]
    cases protocols with
    | nil => exact absurd rfl hinhabited
    | cons p ps => rfl

end BareUrl.Url
