import BareUrl.Exchange.Header
import BareUrl.Proofs.Text.Case
import Mathlib.Data.List.Nodup

/-!
# `BareUrl.Proofs.Exchange.Header`: what headers hold

Headers are put in one after another, and each takes the place of the one with its name. So a name
has the value that is given to it last (`get?_foldl_insert`).

Pairs of texts become headers by `Headers.ofPairs`, which stops at the first pair that is none
(`exists_of_ofPairs_error`). Pairs with different names in lower case become headers as they are
(`ofPairs_eq`).
-/

set_option autoImplicit false

namespace BareUrl.Exchange

namespace Header

/-- The header that a pair of texts is, with its name in lower case. -/
def ofPair (h : Text × Text) : Header := ⟨Text.asciiLower h.1, h.2⟩

/-- What is wrong with a pair of texts that should be a header, if anything is. -/
def fault? (h : Text × Text) : Option HeaderFault :=
  if isName h.1 then if isValue h.2 then none else some (.badValue h.2)
  else some (.badName h.1)

theorem fault?_eq_none_iff {h : Text × Text} :
    fault? h = none ↔ isName h.1 = true ∧ isValue h.2 = true := by
  rw [fault?]
  split
  · rename_i hname
    split
    · rename_i hvalue
      exact iff_of_true rfl ⟨hname, hvalue⟩
    · rename_i hvalue
      exact iff_of_false (Option.some_ne_none _) fun h => hvalue h.2
  · rename_i hname
    exact iff_of_false (Option.some_ne_none _) fun h => hname h.1

theorem isNameChar_toLower (c : Char) : isNameChar c.toLower = isNameChar c := by
  rcases Text.toLower_cases c with ⟨hlow, hhigh, -⟩ | heq
  · have halpha : c.isAlpha = true := Text.isAlpha_iff.2 (.inl ⟨hlow, hhigh⟩)
    have hlower : c.toLower.isAlpha = true := by rw [Text.isAlpha_toLower, halpha]
    rw [isNameChar, isNameChar, Char.isAlphanum, Char.isAlphanum, halpha, hlower]
    rfl
  · rw [heq]

/-- Letters may be small or capital in a name. -/
theorem isName_asciiLower (t : Text) : isName (Text.asciiLower t) = isName t := by
  have hempty : decide (Text.asciiLower t ≠ []) = decide (t ≠ []) := by
    cases t <;> rfl
  have hchars : (Text.asciiLower t).all isNameChar = t.all isNameChar := by
    rw [Text.asciiLower, List.all_map]
    exact congrArg t.all (funext isNameChar_toLower)
  rw [isName, isName, hempty, hchars, Text.asciiLower, List.length_map]

end Header

namespace Headers

variable {hs : Headers} {h : Header} {name : Text}

/-! ### One header -/

theorem get?_cons (g : Header) (hs : Headers) (name : Text) :
    get? (g :: hs) name = if g.name = name then some g.value else hs.get? name := by
  by_cases heq : g.name = name <;> simp [get?, heq]

theorem get?_append (gs hs : Headers) (name : Text) :
    get? (gs ++ hs) name = (gs.get? name).or (hs.get? name) := by
  rw [get?, List.find?_append, Option.map_or]
  rfl

/-- Without the headers of one name, the other names have the values that they had. -/
theorem get?_filter_ne (hs : Headers) (taken name : Text) :
    get? (hs.filter fun g => g.name != taken) name
      = if taken = name then none else hs.get? name := by
  induction hs with
  | nil => exact (ite_self none).symm
  | cons g hs ih =>
      rw [get?_cons]
      by_cases htaken : g.name = taken
      · rw [List.filter_cons_of_neg (by simpa using htaken), ih, htaken]
        split <;> rfl
      · rw [List.filter_cons_of_pos (by simpa using htaken), get?_cons, ih]
        split
        · rename_i heq
          rw [if_neg fun h => htaken (heq.trans h.symm)]
        · rfl

theorem get?_insert (hs : Headers) (h : Header) (name : Text) :
    (hs.insert h).get? name = if h.name = name then some h.value else hs.get? name := by
  rw [insert, get?_append, get?_filter_ne, get?_cons]
  split
  · rfl
  · exact Option.or_none

/-- A header whose name is new comes behind the others. -/
theorem insert_of_not_mem (h : Header) (hnew : h.name ∉ hs.map Header.name) :
    hs.insert h = hs ++ [h] := by
  rw [insert, List.filter_eq_self.2]
  intro g hg
  exact bne_iff_ne.2 fun heq => hnew (heq ▸ List.mem_map_of_mem hg)

theorem exists_of_get? {value : Text} (hfound : hs.get? name = some value) :
    ∃ g ∈ hs, g.name = name ∧ g.value = value := by
  obtain ⟨g, hg, hvalue⟩ := Option.map_eq_some_iff.1 hfound
  have hname := List.find?_some hg
  exact ⟨g, List.mem_of_find?_eq_some hg, beq_iff_eq.1 hname, hvalue⟩

/-- Where names are different, each header is found by its name. -/
theorem get?_of_mem (hnames : (hs.map Header.name).Nodup) (hmem : h ∈ hs) :
    hs.get? h.name = some h.value := by
  induction hs with
  | nil => exact absurd hmem List.not_mem_nil
  | cons g hs ih =>
      obtain ⟨hnew, hnames⟩ := List.nodup_cons.1 hnames
      rw [get?_cons]
      rcases List.mem_cons.1 hmem with rfl | hmem
      · exact if_pos rfl
      · have hne : g.name ≠ h.name := fun heq => hnew (heq ▸ List.mem_map_of_mem hmem)
        rw [if_neg hne, ih hnames hmem]

/-! ### Several headers -/

/-- A name has the value that is given to it last. -/
theorem get?_foldl_insert (gs hs : Headers) (name : Text) :
    (gs.foldl insert hs).get? name = (get? gs.reverse name).or (hs.get? name) := by
  -- For all `hs`, since each header that is put in joins them.
  induction gs generalizing hs with
  | nil => rfl
  | cons g gs ih =>
      rw [List.foldl_cons, ih, get?_insert, List.reverse_cons, get?_append, Option.or_assoc,
        get?_cons]
      congr 1
      split <;> rfl

/-- Headers with new and different names come behind the others. -/
theorem foldl_insert_of_nodup {gs : List Header}
    (h : (hs.map Header.name ++ gs.map Header.name).Nodup) : gs.foldl insert hs = hs ++ gs := by
  induction gs generalizing hs with
  | nil => exact (List.append_nil hs).symm
  | cons g gs ih =>
      have hnew : g.name ∉ hs.map Header.name := fun hmem =>
        (List.nodup_append.1 h).2.2 _ hmem _ List.mem_cons_self rfl
      have hrest : ((hs ++ [g]).map Header.name ++ gs.map Header.name).Nodup := by
        simpa using h
      rw [List.foldl_cons, insert_of_not_mem g hnew, ih hrest, List.append_assoc]
      rfl

/-! ### Pairs of texts -/

variable {pairs : List (Text × Text)}

theorem insertPairs_cons_of_valid {g : Text × Text} (hg : Header.fault? g = none) :
    hs.insertPairs (g :: pairs) = (hs.insert (Header.ofPair g)).insertPairs pairs := by
  obtain ⟨hname, hvalue⟩ := Header.fault?_eq_none_iff.1 hg
  simp only [insertPairs, hname, hvalue, if_true, Header.ofPair]

theorem insertPairs_cons_of_fault {g : Text × Text} {fault : HeaderFault}
    (hg : Header.fault? g = some fault) : hs.insertPairs (g :: pairs) = .error fault := by
  rw [Header.fault?] at hg
  rw [insertPairs]
  split at hg
  · rename_i hname
    rw [if_pos hname]
    split at hg
    · cases hg
    · rename_i hvalue
      rw [if_neg hvalue, Option.some.inj hg]
  · rename_i hname
    rw [if_neg hname, Option.some.inj hg]

/-- Pairs that all are headers are put in one after another. -/
theorem insertPairs_of_valid (hvalid : ∀ g ∈ pairs, Header.fault? g = none) (hs : Headers) :
    hs.insertPairs pairs = .ok ((pairs.map Header.ofPair).foldl insert hs) := by
  induction pairs generalizing hs with
  | nil => rfl
  | cons g pairs ih =>
      rw [insertPairs_cons_of_valid (hvalid g List.mem_cons_self),
        ih fun g' hg' => hvalid g' (List.mem_cons_of_mem _ hg')]
      rfl

/-- Where pairs are no headers, the fault is that of the first pair that is none. -/
theorem exists_of_insertPairs_error {fault : HeaderFault}
    (h : hs.insertPairs pairs = .error fault) :
    ∃ before g after, pairs = before ++ g :: after ∧
      (∀ g' ∈ before, Header.fault? g' = none) ∧ Header.fault? g = some fault := by
  induction pairs generalizing hs with
  | nil => cases h
  | cons g pairs ih =>
      cases hg : Header.fault? g with
      | none =>
          rw [insertPairs_cons_of_valid hg] at h
          obtain ⟨before, g', after, rfl, hbefore, hg'⟩ := ih h
          exact ⟨g :: before, g', after, rfl, List.forall_mem_cons.2 ⟨hg, hbefore⟩, hg'⟩
      | some fault' =>
          rw [insertPairs_cons_of_fault hg] at h
          exact ⟨[], g, pairs, rfl, fun _ h => absurd h List.not_mem_nil, hg.trans
            (congrArg some (Except.error.inj h))⟩

theorem exists_of_ofPairs_error {fault : HeaderFault} (h : ofPairs pairs = .error fault) :
    ∃ g ∈ pairs, Header.fault? g = some fault := by
  obtain ⟨before, g, after, rfl, -, hg⟩ := exists_of_insertPairs_error h
  exact ⟨g, List.mem_append_right _ List.mem_cons_self, hg⟩

theorem valid_of_ofPairs {map : Headers} (h : ofPairs pairs = .ok map) :
    ∀ g ∈ pairs, Header.fault? g = none := by
  -- On the pairs: one that is no header would have been the end.
  rw [ofPairs] at h
  generalize ([] : Headers) = hs at h
  induction pairs generalizing hs with
  | nil => exact fun g hg => absurd hg List.not_mem_nil
  | cons g pairs ih =>
      cases hg : Header.fault? g with
      | none =>
          rw [insertPairs_cons_of_valid hg] at h
          exact List.forall_mem_cons.2 ⟨hg, ih _ h⟩
      | some fault =>
          rw [insertPairs_cons_of_fault hg] at h
          cases h

/-- Pairs with different names become headers as they are, with their names in lower case. -/
theorem ofPairs_eq (hvalid : ∀ g ∈ pairs, Header.fault? g = none)
    (hnames : (pairs.map fun g => Text.asciiLower g.1).Nodup) :
    ofPairs pairs = .ok (pairs.map Header.ofPair) := by
  have hall : ((pairs.map Header.ofPair).map Header.name).Nodup := by
    rw [List.map_map]
    exact hnames
  rw [ofPairs, insertPairs_of_valid hvalid, ← List.nil_append (pairs.map Header.ofPair)]
  exact congrArg Except.ok (foldl_insert_of_nodup hall)

end Headers

end BareUrl.Exchange
