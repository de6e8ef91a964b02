import BareUrl.Config.File
import BareUrl.Proofs.Config.HeaderLine
import BareUrl.Proofs.Exchange.Header
import BareUrl.Proofs.Traced
import Mathlib.Data.List.Nodup
import Mathlib.Data.List.Forall2

/-!
# `BareUrl.Proofs.Config.Headers`: which headers are sent

Headers come from a table of the settings file and from the command line. A table has no order, and
neither has the result, so more than one list may come out of a merge (`Config.Merges`).

* `merges_chosen_first`: every name is there once, in lower case. The command line comes before the
  file, and none of its headers is ever the reason why the list cannot be sent.
* `merges_perm_iff`: the result is the same for every order exactly if the file gives one value to
  each name that is not on the command line. It need not: the keys of a table are different, but
  names that differ in case are the same name (`merges_apart`).
-/

set_option autoImplicit false

namespace BareUrl

open Exchange (Header HeaderFault Headers)

namespace Config

variable {pairs file chosen : List (Text × Text)} {name value : Text}

/-! ### The last value of a name -/

/-- The value that is given to a name last. Names are compared without case. -/
def lastValue (pairs : List (Text × Text)) (name : Text) : Option Text :=
  (pairs.reverse.find? fun h => Text.asciiLower h.1 == name).map Prod.snd

theorem lastValue_append (as bs : List (Text × Text)) (name : Text) :
    lastValue (as ++ bs) name = (lastValue bs name).or (lastValue as name) := by
  rw [lastValue, List.reverse_append, List.find?_append, Option.map_or]
  rfl

theorem lastValue_cons (h : Text × Text) (hs : List (Text × Text)) (name : Text) :
    lastValue (h :: hs) name
      = (lastValue hs name).or (if Text.asciiLower h.1 = name then some h.2 else none) := by
  have hone : lastValue [h] name = if Text.asciiLower h.1 = name then some h.2 else none := by
    by_cases heq : Text.asciiLower h.1 = name <;> simp [lastValue, heq]
  rw [← List.singleton_append, lastValue_append, hone]

theorem exists_of_lastValue (h : lastValue pairs name = some value) :
    ∃ g ∈ pairs, Text.asciiLower g.1 = name ∧ g.2 = value := by
  obtain ⟨g, hg, hvalue⟩ := Option.map_eq_some_iff.1 h
  have hname := List.find?_some hg
  exact ⟨g, List.mem_reverse.1 (List.mem_of_find?_eq_some hg), beq_iff_eq.1 hname, hvalue⟩

theorem lastValue_eq_none_iff :
    lastValue pairs name = none ↔ ∀ g ∈ pairs, Text.asciiLower g.1 ≠ name := by
  rw [lastValue, Option.map_eq_none_iff, List.find?_eq_none]
  simp only [List.mem_reverse, beq_iff_eq, ne_eq]

theorem lastValue_isSome {g : Text × Text} (hg : g ∈ pairs) :
    ∃ v, lastValue pairs (Text.asciiLower g.1) = some v := by
  refine Option.ne_none_iff_exists'.1 fun hnone => ?_
  exact lastValue_eq_none_iff.1 hnone g hg rfl

/-! ### Merging -/

theorem mem_putHeader_iff (pairs : List (Text × Text)) (name value : Text) (h : Text × Text) :
    h ∈ putHeader pairs name value
      ↔ if h.1 = name then h = (name, value) else h ∈ pairs := by
  rw [putHeader]
  split
  · rename_i hany
    obtain ⟨p, hp, hname⟩ := List.any_eq_true.1 hany
    rw [List.mem_map]
    constructor
    · rintro ⟨q, hq, rfl⟩
      by_cases hqn : q.1 = name <;> simp [hqn, hq]
    · split
      · rintro rfl
        exact ⟨p, hp, if_pos hname⟩
      · rename_i hne
        exact fun hmem => ⟨h, hmem, if_neg (by simpa using hne)⟩
  · rename_i hany
    have hnew : ∀ p ∈ pairs, p.1 ≠ name := fun p hp heq =>
      hany (List.any_eq_true.2 ⟨p, hp, beq_iff_eq.2 heq⟩)
    rw [List.mem_append, List.mem_singleton]
    split
    · rename_i heq
      exact or_iff_right fun hmem => hnew h hmem heq
    · rename_i hne
      exact or_iff_left fun heq => hne (congrArg Prod.fst heq)

theorem nodup_putHeader (hnames : (pairs.map Prod.fst).Nodup) (name value : Text) :
    ((putHeader pairs name value).map Prod.fst).Nodup := by
  rw [putHeader]
  split
  · have hsame : (pairs.map fun p => if p.1 == name then (name, value) else p).map Prod.fst
        = pairs.map Prod.fst := by
      rw [List.map_map]
      refine List.map_congr_left fun p _ => ?_
      by_cases hp : p.1 = name <;> simp [hp]
    rwa [hsame]
  · rename_i hany
    have hnew : ∀ p ∈ pairs, p.1 ≠ name := fun p hp heq =>
      hany (List.any_eq_true.2 ⟨p, hp, beq_iff_eq.2 heq⟩)
    rw [List.map_append]
    refine List.nodup_append.2 ⟨hnames, List.nodup_singleton name, ?_⟩
    intro a ha b hb
    obtain ⟨p, hp, rfl⟩ := List.mem_map.1 ha
    rw [List.mem_singleton.1 hb]
    exact hnew p hp

theorem mem_foldl_putHeader_iff (hs pairs : List (Text × Text)) (name value : Text) :
    (name, value) ∈ hs.foldl (fun pairs h => putHeader pairs (Text.asciiLower h.1) h.2) pairs
      ↔ lastValue hs name = some value ∨ lastValue hs name = none ∧ (name, value) ∈ pairs := by
  -- For all `pairs`: what is put last hides what was there.
  induction hs generalizing pairs with
  | nil => simp [lastValue]
  | cons h hs ih =>
      rw [List.foldl_cons, ih, mem_putHeader_iff, lastValue_cons]
      by_cases heq : Text.asciiLower h.1 = name
      · cases lastValue hs name <;> simp [heq, eq_comm]
      · have hne : name ≠ Text.asciiLower h.1 := fun h => heq h.symm
        cases lastValue hs name <;> simp [heq, hne]

/-- What comes out of a merge gives each name its last value. -/
theorem mem_mergeHeaders_iff :
    (name, value) ∈ mergeHeaders file chosen ↔ lastValue (file ++ chosen) name = some value := by
  rw [mergeHeaders, mem_foldl_putHeader_iff]
  simp

theorem nodup_mergeHeaders (file chosen : List (Text × Text)) :
    ((mergeHeaders file chosen).map Prod.fst).Nodup := by
  have hall : ∀ hs pairs : List (Text × Text), (pairs.map Prod.fst).Nodup →
      ((hs.foldl (fun pairs h => putHeader pairs (Text.asciiLower h.1) h.2) pairs).map
        Prod.fst).Nodup := by
    intro hs
    induction hs with
    | nil => exact fun _ h => h
    | cons h hs ih => exact fun pairs hpairs => ih _ (nodup_putHeader hpairs _ _)
  exact hall _ [] List.nodup_nil

/-! ### What may come out -/

/-- The headers may come out of merging a command line and a file. The file's table, and the one
that they are collected in, may be gone through in any order. -/
def Merges (chosen file : Config) (headers : List (Text × Text)) : Prop :=
  ∃ table, table.Perm file.headers ∧
    headers.Perm (chosen.merge { file with headers := table }).headers

section

variable {chosen file : Config} {headers : List (Text × Text)}

theorem Merges.nodup (h : Merges chosen file headers) : (headers.map Prod.fst).Nodup := by
  obtain ⟨table, -, hperm⟩ := h
  exact (hperm.map Prod.fst).nodup_iff.2 (nodup_mergeHeaders table chosen.headers)

/-- A name has its last value on the command line, or, if it is not there, one that the file gives
it. -/
theorem Merges.exists_of_mem (h : Merges chosen file headers) (hmem : (name, value) ∈ headers) :
    lastValue chosen.headers name = some value ∨
      lastValue chosen.headers name = none ∧
        ∃ g ∈ file.headers, Text.asciiLower g.1 = name ∧ g.2 = value := by
  obtain ⟨table, htable, hperm⟩ := h
  have hlast := mem_mergeHeaders_iff.1 (hperm.mem_iff.1 hmem)
  rw [lastValue_append] at hlast
  cases hchosen : lastValue chosen.headers name with
  | some v =>
      rw [hchosen] at hlast
      exact .inl hlast
  | none =>
      rw [hchosen, Option.none_or] at hlast
      obtain ⟨g, hg, hvalue⟩ := exists_of_lastValue hlast
      exact .inr ⟨rfl, g, htable.mem_iff.1 hg, hvalue⟩

/-- No name gets lost. -/
theorem Merges.mem_of_mem (h : Merges chosen file headers) {g : Text × Text}
    (hg : g ∈ file.headers ++ chosen.headers) : Text.asciiLower g.1 ∈ headers.map Prod.fst := by
  obtain ⟨table, htable, hperm⟩ := h
  obtain ⟨v, hv⟩ := lastValue_isSome ((htable.append_right chosen.headers).mem_iff.2 hg)
  exact List.mem_map_of_mem (hperm.mem_iff.2 (mem_mergeHeaders_iff.2 hv))

theorem Merges.lower (h : Merges chosen file headers) {g : Text × Text} (hg : g ∈ headers) :
    Text.asciiLower g.1 = g.1 := by
  have hname : ∀ pairs : List (Text × Text), ∀ v, lastValue pairs g.1 = some v →
      Text.asciiLower g.1 = g.1 := by
    intro pairs v hv
    obtain ⟨g', -, hlower, -⟩ := exists_of_lastValue hv
    rw [← hlower, Text.asciiLower_asciiLower]
  rcases h.exists_of_mem hg with hchosen | ⟨-, g', -, hlower, -⟩
  · exact hname _ _ hchosen
  · rw [← hlower, Text.asciiLower_asciiLower]

/-! ### What can be sent -/

/-- A header that is read in a line is one also behind a merge. -/
theorem fault?_of_read {line : Text} {g : Text × Text} (h : HeaderLine.read line = .ok g) :
    Header.fault? (Text.asciiLower g.1, g.2) = none := by
  rw [HeaderLine.read] at h
  cases hcut : Text.cut [':'] line with
  | none => simp only [hcut, reduceCtorEq] at h
  | some parts =>
      simp only [hcut] at h
      split at h
      · rename_i hname
        split at h
        · rename_i hvalue
          split at h
          · obtain rfl := Except.ok.inj h
            refine Header.fault?_eq_none_iff.2 ⟨?_, hvalue⟩
            rwa [Header.isName_asciiLower, Header.isName_asciiLower]
          · cases h
        · cases h
      · cases h

/-- The headers of lines that can all be read. -/
theorem fault?_of_lines {lines : List Text} (h : lines.mapM HeaderLine.read = .ok pairs) :
    ∀ g ∈ pairs, Header.fault? (Text.asciiLower g.1, g.2) = none := by
  intro g hg
  obtain ⟨line, -, hline⟩ := Traced.exists_of_mapM h hg
  exact fault?_of_read hline

/-- What comes out of merging the headers of a command line, of which each line can be read, and
those of a file. Each name is there once, in lower case, and no name is there that is not in either;
its value is the last one that the command line gives it, or, if that gives it none, one of those
that the file gives it. If the list cannot be sent, that is because of a header of the file that is
not on the command line; otherwise its entries are what is sent. -/
theorem merges_chosen_first {chosen file : Config} {lines : List Text}
    {headers : List (Text × Text)}
    (hlines : lines.mapM HeaderLine.read = .ok chosen.headers)
    (hmerge : Merges chosen file headers) :
    (headers.map Prod.fst).Nodup ∧ (∀ h ∈ headers, Text.asciiLower h.1 = h.1) ∧
    (∀ h ∈ file.headers ++ chosen.headers, Text.asciiLower h.1 ∈ headers.map Prod.fst) ∧
    (∀ name value, (name, value) ∈ headers →
      lastValue chosen.headers name = some value ∨
        lastValue chosen.headers name = none ∧
          ∃ h ∈ file.headers, Text.asciiLower h.1 = name ∧ h.2 = value) ∧
    (∀ fault, Headers.ofPairs headers = .error fault →
      ∃ h ∈ file.headers, lastValue chosen.headers (Text.asciiLower h.1) = none ∧
        (Text.asciiLower h.1, h.2) ∈ headers ∧
        Header.fault? (Text.asciiLower h.1, h.2) = some fault) ∧
    ∀ map, Headers.ofPairs headers = .ok map →
      map = headers.map fun h => ⟨h.1, h.2⟩ := by
  refine ⟨hmerge.nodup, fun h hh => hmerge.lower hh, fun h hh => hmerge.mem_of_mem hh,
    fun name value hmem => hmerge.exists_of_mem hmem, ?_, ?_⟩
  · intro fault hfault
    obtain ⟨⟨name, value⟩, hmem, hg⟩ := Headers.exists_of_ofPairs_error hfault
    rcases hmerge.exists_of_mem hmem with hlast | ⟨hnone, h, hh, rfl, rfl⟩
    · -- What the command line gives has been read, so it is no reason to fail.
      obtain ⟨g, hg', rfl, rfl⟩ := exists_of_lastValue hlast
      rw [fault?_of_lines hlines g hg'] at hg
      cases hg
    · exact ⟨h, hh, hnone, hmem, hg⟩
  · intro map hmap
    have hlower : headers.map (fun h => Text.asciiLower h.1) = headers.map Prod.fst :=
      List.map_congr_left fun h hh => hmerge.lower hh
    rw [Headers.ofPairs_eq (Headers.valid_of_ofPairs hmap) (hlower ▸ hmerge.nodup)] at hmap
    rw [← Except.ok.inj hmap]
    exact List.map_congr_left fun h hh => congrArg (Header.mk · h.2) (hmerge.lower hh)

/-- A name that is given twice on the command line and once in the file, and an entry of the file
that is no header. -/
theorem merges_chosen_first_repeated :
    let lines := ["X-Key: one".toList, "x-key:two ".toList]
    let chosen : Config := { usual with
      headers := [("x-key".toList, "one".toList), ("x-key".toList, "two".toList)] }
    let file : Config := { usual with
      headers := [("X-KEY".toList, "three".toList), ("X B".toList, "four".toList)] }
    let headers := [("x b".toList, "four".toList), ("x-key".toList, "two".toList)]
    lines.mapM HeaderLine.read = .ok chosen.headers ∧ Merges chosen file headers ∧
      Headers.ofPairs headers = .error (.badName "x b".toList) ∧
      (headers.map Prod.fst).Nodup ∧
      ∃ h ∈ file.headers, lastValue chosen.headers (Text.asciiLower h.1) = none ∧
        Header.fault? (Text.asciiLower h.1, h.2) = some (.badName "x b".toList) := by
  intro lines chosen file headers
  have hruns : lines.mapM HeaderLine.read = .ok chosen.headers ∧
      headers.Perm (chosen.merge file).headers ∧
      Headers.ofPairs headers = .error (.badName "x b".toList) := by decide +kernel
  obtain ⟨hlines, hperm, hfault⟩ := hruns
  have hmerge : Merges chosen file headers := ⟨file.headers, .refl _, hperm⟩
  obtain ⟨hnodup, -, -, -, hfails, -⟩ := merges_chosen_first hlines hmerge
  obtain ⟨h, hh, hnone, -, hg⟩ := hfails _ hfault
  exact ⟨hlines, hmerge, hfault, hnodup, h, hh, hnone, hg⟩

/-! ### Whether the order matters -/

/-- Each value that the file gives to a name may be the one that is sent, if the command line gives
it none. -/
theorem exists_merges {chosen file : Config} {g : Text × Text} (hg : g ∈ file.headers)
    (hnone : lastValue chosen.headers (Text.asciiLower g.1) = none) :
    ∃ headers, Merges chosen file headers ∧ (Text.asciiLower g.1, g.2) ∈ headers := by
  obtain ⟨before, after, hfile⟩ := List.append_of_mem hg
  -- The order in which this entry is the last one.
  have hperm : (before ++ after ++ [g]).Perm file.headers := by
    rw [hfile, List.append_assoc]
    exact List.perm_append_comm.append_left before
  have hlast : lastValue (before ++ after ++ [g] ++ chosen.headers) (Text.asciiLower g.1)
      = some g.2 := by
    rw [lastValue_append, hnone, lastValue_append, lastValue_cons, if_pos rfl]
    rfl
  exact ⟨_, ⟨before ++ after ++ [g], hperm, .refl _⟩, mem_mergeHeaders_iff.2 hlast⟩

/-- Merging gives the same headers for every order of the tables exactly if the file gives one value
to each name, except for names on the command line. -/
theorem merges_perm_iff (chosen file : Config) :
    (∀ headers headers', Merges chosen file headers → Merges chosen file headers' →
        headers.Perm headers') ↔
      ∀ g ∈ file.headers, ∀ h ∈ file.headers, Text.asciiLower g.1 = Text.asciiLower h.1 →
        g.2 ≠ h.2 → ∃ c ∈ chosen.headers, Text.asciiLower c.1 = Text.asciiLower g.1 := by
  constructor
  · intro hsame g hg h hh hname hne
    by_contra hno
    have hnone : lastValue chosen.headers (Text.asciiLower g.1) = none :=
      lastValue_eq_none_iff.2 fun c hc hlower => hno ⟨c, hc, hlower⟩
    obtain ⟨headers, hmerge, hmem⟩ := exists_merges hg hnone
    obtain ⟨headers', hmerge', hmem'⟩ := exists_merges hh (hname ▸ hnone)
    -- Both entries would have to be there, but a name is there once.
    have hboth := (hsame headers headers' hmerge hmerge').mem_iff.1 hmem
    rw [← hname] at hmem'
    exact hne (Prod.mk.inj (List.inj_on_of_nodup_map hmerge'.nodup hboth hmem' rfl)).2
  · intro hone headers headers' hmerge hmerge'
    have hsub : ∀ hs hs', Merges chosen file hs → Merges chosen file hs' →
        ∀ p ∈ hs, p ∈ hs' := by
      rintro hs hs' hm hm' ⟨name, value⟩ hp
      -- The name is in the other list as well, and has the same value there.
      have hname : name ∈ hs'.map Prod.fst := by
        rcases hm.exists_of_mem hp with hlast | ⟨-, g, hg, rfl, -⟩
        · obtain ⟨c, hc, rfl, -⟩ := exists_of_lastValue hlast
          exact hm'.mem_of_mem (List.mem_append_right _ hc)
        · exact hm'.mem_of_mem (List.mem_append_left _ hg)
      obtain ⟨⟨name', value'⟩, hp', hname'⟩ := List.mem_map.1 hname
      obtain rfl : name' = name := hname'
      rcases hm.exists_of_mem hp with hlast | ⟨hnone, g, hg, hgname, rfl⟩
      · rcases hm'.exists_of_mem hp' with hlast' | ⟨hnone', -⟩
        · rwa [Option.some.inj (hlast.symm.trans hlast')]
        · exact absurd (hlast.symm.trans hnone') (Option.some_ne_none _)
      · rcases hm'.exists_of_mem hp' with hlast' | ⟨-, g', hg', hgname', rfl⟩
        · exact absurd (hlast'.symm.trans hnone) (Option.some_ne_none _)
        · by_contra hne
          obtain ⟨c, hc, hcname⟩ := hone g hg g' hg' (hgname.trans hgname'.symm)
            fun hvalue => hne (hvalue ▸ hp')
          exact lastValue_eq_none_iff.1 hnone c hc (hcname.trans hgname)
    refine (List.perm_ext_iff_of_nodup hmerge.nodup.of_map hmerge'.nodup.of_map).2 fun p => ?_
    exact ⟨hsub headers headers' hmerge hmerge' p, hsub headers' headers hmerge' hmerge p⟩

/-- Two spellings of a name with different values, and the command line gives the name as well. -/
theorem merges_perm_given :
    let chosen : Config := { usual with headers := [("x-a".toList, ['3'])] }
    let file : Config := { usual with headers := [("X-A".toList, ['1']), ("x-a".toList, ['2'])] }
    Merges chosen file [("x-a".toList, ['3'])] ∧
      ∀ headers, Merges chosen file headers → headers.Perm [("x-a".toList, ['3'])] := by
  intro chosen file
  have hruns : [("x-a".toList, ['3'])].Perm (chosen.merge file).headers ∧
      file.headers.map (fun g => Text.asciiLower g.1) = ["x-a".toList, "x-a".toList] ∧
      Text.asciiLower "x-a".toList = "x-a".toList := by decide +kernel
  obtain ⟨hperm, hfile, hchosen⟩ := hruns
  have hmerge : Merges chosen file [("x-a".toList, ['3'])] := ⟨file.headers, .refl _, hperm⟩
  refine ⟨hmerge, fun headers hheaders => ?_⟩
  refine (merges_perm_iff chosen file).2 (fun g hg h hh _ _ => ?_) headers _ hheaders hmerge
  have hname : Text.asciiLower g.1 = "x-a".toList := by
    have hmem := List.mem_map_of_mem (f := fun g : Text × Text => Text.asciiLower g.1) hg
    rw [hfile] at hmem
    exact (List.mem_pair.1 hmem).elim id id
  exact ⟨("x-a".toList, ['3']), List.mem_singleton.2 rfl, hchosen.trans hname.symm⟩

/-- Two spellings of a name are two keys of a table, so either value may be the one that is sent. -/
theorem merges_apart :
    let file : Config := { usual with headers := [("X-A".toList, ['1']), ("x-a".toList, ['2'])] }
    ofBytes (Text.Utf8.encode "[header]\nX-A = \"1\"\nx-a = \"2\"".toList) = .ok file ∧
      (file.headers.map Prod.fst).Nodup ∧
      Merges usual file [("x-a".toList, ['1'])] ∧ Merges usual file [("x-a".toList, ['2'])] := by
  intro file
  have hruns : ofBytes (Text.Utf8.encode "[header]\nX-A = \"1\"\nx-a = \"2\"".toList) = .ok file ∧
      (file.headers.map Prod.fst).Nodup ∧
      [("x-a".toList, ['1'])].Perm (usual.merge { file with
        headers := file.headers.reverse }).headers ∧
      [("x-a".toList, ['2'])].Perm (usual.merge file).headers := by decide +kernel
  obtain ⟨hbytes, hkeys, hfirst, hsecond⟩ := hruns
  exact ⟨hbytes, hkeys, ⟨_, List.reverse_perm _, hfirst⟩, ⟨_, .refl _, hsecond⟩⟩

end

end Config

end BareUrl
