import BareUrl.Proofs.Converter.Layout
import BareUrl.Proofs.Markup.Names
import BareUrl.Proofs.Url.Protocols

/-!
# `BareUrl.Proofs.Converter.Lists`: the lists of the settings are sets

The settings hold two lists, the protocols and the excluded elements. A converter learns of the
first where URLs stand and of the second which tags open an excluded element, and both are the same
whatever the order of a list and however often it names something (`walk_of_same_parts`). So
settings that differ in these ways only, and in the case of the elements, make converters that find
and convert alike: `convert_same_lists`.

Names that are repeated do count where the length of all names is limited, so the other list of
elements may be too long to make a converter at all.
-/

set_option autoImplicit false

namespace BareUrl.Converter

open Markup (Exclusion)

/-! ### Converters from settings -/

theorem make_eq_ok_iff {s : Settings} {c : Converter} :
    make s = .ok c ↔
      c.grammar.leader = s.leader ∧ c.grammar.protocols.map Url.Protocol.name = s.protocols ∧
        c.exclusion.names.map Markup.TagName.name = s.excluded ∧
        Exclusion.totalSize s.excluded ≤ Exclusion.sizeLimit := by
  rw [make]
  constructor
  · intro h
    split at h
    · exact absurd h (by simp)
    · rename_i grammar hgrammar
      split at h
      · exact absurd h (by simp)
      · rename_i exclusion hexclusion
        obtain rfl := Except.ok.inj h
        obtain ⟨hleader, hprotocols⟩ := Url.Grammar.make_eq_ok_iff.1 hgrammar
        exact ⟨hleader, hprotocols, Exclusion.make_eq_ok_iff.1 hexclusion⟩
  · rintro ⟨hleader, hprotocols, hexclusion⟩
    rw [Url.Grammar.make_eq_ok_iff.2 ⟨hleader, hprotocols⟩,
      Exclusion.make_eq_ok_iff.2 hexclusion]

/-- Names that are valid in one list are valid in any other list of the same names. -/
theorem make_of_same_names {s s' : Settings} {c : Converter} (h : make s = .ok c)
    (hprotocols : ∀ name, name ∈ s'.protocols ↔ name ∈ s.protocols)
    (hexcluded : ∀ name, name ∈ s'.excluded.map Text.asciiLower ↔
      name ∈ s.excluded.map Text.asciiLower)
    (hsize : Exclusion.totalSize s'.excluded ≤ Exclusion.sizeLimit) :
    ∃ c', make s' = .ok c' := by
  obtain ⟨-, hnames, htags, -⟩ := make_eq_ok_iff.1 h
  have hprotocol : ∀ name ∈ s'.protocols, Url.isProtocolName name = true := by
    intro name hmem
    rw [hprotocols, ← hnames] at hmem
    obtain ⟨p, -, rfl⟩ := List.mem_map.1 hmem
    exact p.valid
  have htag : ∀ name ∈ s'.excluded, Markup.isTagName name = true := by
    -- Only a name in another case is in the first list, and it is valid.
    intro name hmem
    have hlower := (hexcluded _).1 (List.mem_map_of_mem hmem)
    rw [← htags, List.map_map] at hlower
    obtain ⟨n, -, hn⟩ := List.mem_map.1 hlower
    rw [← Markup.isTagName_asciiLower, ← hn, Function.comp_apply, Markup.isTagName_asciiLower]
    exact n.valid
  obtain ⟨ps, hps⟩ := Url.exists_protocols hprotocol
  obtain ⟨ns, hns⟩ := Exclusion.exists_tagNames htag
  have hne : ps ≠ [] := by
    rintro rfl
    obtain ⟨p, rest, hcons⟩ := List.exists_cons_of_ne_nil c.grammar.inhabited
    have hmem : p.name ∈ s'.protocols := by
      rw [hprotocols, ← hnames, hcons]
      exact List.mem_cons_self
    rw [← hps] at hmem
    exact List.not_mem_nil hmem
  exact ⟨⟨⟨s'.leader, ps, hne⟩, ⟨ns⟩⟩, make_eq_ok_iff.2 ⟨rfl, hps, hns, hsize⟩⟩

/-! ### Converters that find alike -/

section SameParts

variable {c c' : Converter}

/-- A walk depends on what the grammar finds in texts and on what is excluded, and on nothing else
of a converter. -/
theorem walk_of_same_parts (hfind : ∀ t, c'.grammar.find t = c.grammar.find t)
    (hexcludes : c'.exclusion.excludes = c.exclusion.excludes) (mode : Markup.Mode)
    (chunks : List Markup.Chunk) : c'.walk mode chunks = c.walk mode chunks := by
  induction chunks generalizing mode with
  | nil =>
      rw [walk, walk]
  | cons chunk rest ih =>
      cases chunk with
      | tag t =>
          rw [walk, walk, ih, Markup.Mode.after_of_same_excludes hexcludes,
            Markup.Mode.notes_of_same_excludes hexcludes]
      | text t =>
          cases mode with
          | scanning => rw [walk, walk, ih, hfind]
          | excluded name => rw [walk, walk, ih]

theorem scan_of_same_parts (hfind : ∀ t, c'.grammar.find t = c.grammar.find t)
    (hexcludes : c'.exclusion.excludes = c.exclusion.excludes) (masked : Text) :
    c'.scan masked = c.scan masked :=
  walk_of_same_parts hfind hexcludes .scanning (Markup.chunks masked)

end SameParts

/-! ### Settings that differ in their lists -/

/-- Converters of settings that differ only in the order of the protocols and of the excluded
elements, in how often these are listed, and in the ASCII case of the elements. They find the same
URLs in a text and convert it alike, whoever is asked: with the same result, the same notes, the
same state left behind and the same URLs asked about. The second one is there unless the names of
the elements, with those repeated, are too long. -/
theorem convert_same_lists {s s' : Settings} {c : Converter} (h : make s = .ok c)
    (hleader : s'.leader = s.leader)
    (hprotocols : ∀ name, name ∈ s'.protocols ↔ name ∈ s.protocols)
    (hexcluded : ∀ name, name ∈ s'.excluded.map Text.asciiLower ↔
      name ∈ s.excluded.map Text.asciiLower)
    (hsize : Exclusion.totalSize s'.excluded ≤ Exclusion.sizeLimit) :
    ∃ c', make s' = .ok c' ∧ ∀ t, c'.find t = c.find t ∧
      ∀ (σ : Type) (r : Resolver σ) (state : σ),
        c'.convert r t state = c.convert r t state ∧
        (c'.convert r.recorded t (.empty state)).state.asked
          = (c.convert r.recorded t (.empty state)).state.asked := by
  obtain ⟨c', h'⟩ := make_of_same_names h hprotocols hexcluded hsize
  obtain ⟨hl, hps, hns, -⟩ := make_eq_ok_iff.1 h
  obtain ⟨hl', hps', hns', -⟩ := make_eq_ok_iff.1 h'
  have hfind (t : Text) : c'.grammar.find t = c.grammar.find t := by
    refine Url.Grammar.find_of_same_protocols (by rw [hl', hl, hleader]) (fun p => ?_) t
    have hname := hprotocols p.name
    rwa [← hps', ← hps, Url.Protocol.name_mem_map, Url.Protocol.name_mem_map] at hname
  have hexcludes : c'.exclusion.excludes = c.exclusion.excludes := by
    refine Exclusion.excludes_of_same_names fun name => ?_
    rw [hns', hns]
    exact hexcluded name
  have hconvert {σ : Type} (r : Resolver σ) (t : Text) (state : σ) :
      c'.convert r t state = c.convert r t state := by
    simp only [convert, scan_of_same_parts hfind hexcludes]
  refine ⟨c', h', fun t => ⟨?_, fun σ r state => ⟨hconvert r t state, ?_⟩⟩⟩
  · rw [find, find, scan_of_same_parts hfind hexcludes]
  · rw [hconvert]

/-- Lists in which one name is the start of another, in another order and with names repeated. -/
theorem convert_same_lists_of_starts :
    let s : Settings :=
      ⟨['_'], ["http".toList, "https".toList], ["a".toList, "abbr".toList]⟩
    let s' : Settings :=
      ⟨['_'], ["https".toList, "http".toList, "https".toList],
        ["ABBR".toList, "a".toList, "A".toList]⟩
    (∀ name, name ∈ s'.protocols ↔ name ∈ s.protocols) ∧
      (∀ name, name ∈ s'.excluded.map Text.asciiLower ↔
        name ∈ s.excluded.map Text.asciiLower) ∧
      ∃ c c', make s = .ok c ∧ make s' = .ok c' ∧ ∀ t, c'.find t = c.find t ∧
        ∀ (r : Resolver Unit), c'.convert r t () = c.convert r t () := by
  intro s s'
  have hprotocols : ∀ name, name ∈ s'.protocols ↔ name ∈ s.protocols := by
    intro name
    simp only [s, s', List.mem_cons, List.not_mem_nil, or_false]
    grind
  have hlower : s.excluded.map Text.asciiLower = s.excluded := by decide
  have hlower' : s'.excluded.map Text.asciiLower = ["abbr".toList, "a".toList, "a".toList] := by
    decide
  have hexcluded : ∀ name, name ∈ s'.excluded.map Text.asciiLower ↔
      name ∈ s.excluded.map Text.asciiLower := by
    intro name
    rw [hlower, hlower']
    simp only [s, List.mem_cons, List.not_mem_nil, or_false, or_self]
    exact or_comm
  obtain ⟨c, hc⟩ : ∃ c, make s = .ok c :=
    ⟨⟨⟨['_'], [⟨"http".toList, by decide⟩, ⟨"https".toList, by decide⟩], by simp⟩,
      ⟨[⟨"a".toList, by decide⟩, ⟨"abbr".toList, by decide⟩]⟩⟩, rfl⟩
  have hleader : s'.leader = s.leader := rfl
  obtain ⟨c', hc', hsame⟩ := convert_same_lists hc hleader hprotocols hexcluded (by decide)
  exact ⟨hprotocols, hexcluded, c, c', hc, hc', fun t =>
    ⟨(hsame t).1, fun r => ((hsame t).2 Unit r ()).1⟩⟩

end BareUrl.Converter
