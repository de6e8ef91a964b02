import BareUrl.Proofs.Markup.Reference
import BareUrl.Proofs.Text.Cut
import BareUrl.Proofs.Text.Scan
import BareUrl.Proofs.Text.Utf8

/-!
# `BareUrl.Proofs.Markup.Tokenizer`: references by the rules of HTML

What the rules of HTML make of a complete reference. A number is one character, whatever it is. A
name that is listed is what is listed for it, and that is one character or two. A name that is not
listed stays, or a known beginning of it is resolved; as that is not all of it, and the semicolon
stays as well, there are more than two characters in either case. So the number of characters tells
names from beginnings of names: `resolve_eq_meaning`.
-/

set_option autoImplicit false

namespace BareUrl.Markup

namespace Reference

variable {name cs : Text}

/-! ### What is listed -/

/-- Every name stands for one character or two. -/
theorem sizes_capitalNames (c : Char) :
    (capitalNames c).all (fun e => e.2.length == 1 || e.2.length == 2) = true := by
  fun_cases capitalNames c <;> rfl

set_option maxRecDepth 2000 in
theorem sizes_smallNames (c : Char) :
    (smallNames c).all (fun e => e.2.length == 1 || e.2.length == 2) = true := by
  fun_cases smallNames c <;> rfl

theorem length_of_lookup (h : lookup name = some cs) : cs.length = 1 ∨ cs.length = 2 := by
  cases name with
  | nil => cases h
  | cons c rest =>
      obtain ⟨codes, hcodes, rfl⟩ := Option.map_eq_some_iff.1 h
      obtain ⟨before, after, hentries, -⟩ := List.lookup_eq_some_iff.1 hcodes
      have hsizes : (if c.isUpper then capitalNames c else smallNames c).all
          (fun e => e.2.length == 1 || e.2.length == 2) = true := by
        split
        · exact sizes_capitalNames c
        · exact sizes_smallNames c
      rw [hentries] at hsizes
      have hentry := List.all_eq_true.1 hsizes (String.ofList (c :: rest), codes)
        (List.mem_append_right before List.mem_cons_self)
      simpa using hentry

/-- A name that is known without a semicolon is listed, and there is none in it. -/
theorem of_mem_unclosedNames (h : name ∈ unclosedNames) :
    (lookup name).isSome = true ∧ ';' ∉ name := by
  have hall : unclosedNames.all (fun name => (lookup name).isSome && !name.elem ';') = true := by
    decide +kernel
  have hname := List.all_eq_true.1 hall name h
  simpa using hname

end Reference

namespace Tokenizer

open Reference (character lookup unclosedNames)

variable {t cs known listed : Text} {n : Nat}

/-! ### From one reference to the next -/

theorem here_of_ne {c : Char} (hc : c ≠ '&') (t : Text) : here (c :: t) = none := by
  rw [here]
  exact fun _ ht => hc (List.cons.inj ht).1

theorem here_amp (t : Text) : (here ('&' :: t)).isSome = (resolved t).isSome := by
  show (Option.map _ (resolved t)).isSome = _
  rw [Option.isSome_map]

/-- Nothing is resolved where there is no `&`. -/
theorem silentBefore_of_not_mem (h : '&' ∉ t) (u : Text) : here.SilentBefore t u := by
  rintro x y rfl hy
  cases y with
  | nil => exact absurd rfl hy
  | cons c y =>
      rw [List.cons_append, here_of_ne fun hc => h (by simp [hc])]
      exact Bool.noConfusion

theorem characters_of_not_mem (h : '&' ∉ t) : characters t = t := by
  rw [characters, Recogniser.run_leftmost_of_silent
    (Recogniser.silent_iff.2 (silentBefore_of_not_mem h [])), Cut.render_leaf]

/-- Where nothing is resolved the `&` stays. -/
theorem characters_of_not_resolved (h : resolved t = none) (ht : '&' ∉ t) :
    characters ('&' :: t) = '&' :: t := by
  have hsilent : here.Silent ('&' :: t) := by
    refine Recogniser.silent_iff.2
      (Recogniser.silentBefore_cons.2 ⟨?_, silentBefore_of_not_mem ht []⟩)
    rw [List.append_nil, here_amp, h]
    exact Bool.noConfusion
  rw [characters, Recogniser.run_leftmost_of_silent hsilent, Cut.render_leaf]

/-- Behind what is resolved the tokenizer goes on. -/
theorem characters_of_resolved (h : resolved t = some (cs, n)) :
    characters ('&' :: t) = cs ++ characters (t.drop n) := by
  obtain ⟨hlt, hhere⟩ : ∃ hlt, here ('&' :: t) = some ⟨cs, t.drop n, hlt⟩ := by
    refine ⟨?_, ?_⟩
    · rw [List.length_drop, List.length_cons]
      omega
    · show Option.map _ (resolved t) = _
      rw [h]
      rfl
  have hrun := Recogniser.run_leftmost_of_here hhere Recogniser.silentBefore_nil
  rw [List.nil_append] at hrun
  rw [characters, hrun, Cut.render_cons]
  rfl

/-- Where all of the text is resolved nothing else becomes of it. -/
theorem characters_of_all_resolved (h : resolved t = some (cs, n)) (hn : t.length ≤ n) :
    characters ('&' :: t) = cs := by
  rw [characters_of_resolved h, List.drop_eq_nil_of_le hn, characters_of_not_mem List.not_mem_nil,
    List.append_nil]

/-! ### Complete references -/

/-- A number that is closed is one character, and the semicolon goes with it. -/
theorem number_closed {isDigit : Char → Bool} {digits : Text} (base : Nat) (hne : digits ≠ [])
    (hdigits : digits.all isDigit = true) (hclose : isDigit ';' = false) :
    number base isDigit (digits ++ [';'])
      = some ([character (Text.Digits.number base digits)], digits.length + 1) := by
  have hall := List.all_eq_true.1 hdigits
  have hstops : Reader.Stops isDigit [';'] := Reader.stops_cons.2 hclose
  rw [number, Reader.takeWhile_eq hall hstops, Reader.dropWhile_eq hall hstops]
  simp [hne]

theorem characters_decimal {digits : Text} (h : (Reference.decimal digits).Valid) :
    characters (Reference.decimal digits).written
      = [character (Text.Digits.number 10 digits)] := by
  obtain ⟨hne, hdigits⟩ := h
  have hnumber := number_closed 10 hne hdigits (by decide)
  obtain ⟨d, ds, rfl⟩ := List.exists_cons_of_ne_nil hne
  have hd : d.isDigit = true := List.all_eq_true.1 hdigits d List.mem_cons_self
  have hresolved : resolved ('#' :: d :: (ds ++ [';']))
      = some ([character (Text.Digits.number 10 (d :: ds))], (d :: ds).length + 2) := by
    rw [resolved]
    · show Option.map _ (number 10 Char.isDigit (d :: ds ++ [';'])) = _
      rw [hnumber]
      rfl
    -- A digit is not taken for the mark of a hexadecimal number.
    · exact fun _ => Text.cons_ne_cons hd (by decide)
    · exact fun _ => Text.cons_ne_cons hd (by decide)
  exact characters_of_all_resolved hresolved (by simp [Reference.body])

theorem characters_hexadecimal {mark : Char} {digits : Text}
    (h : (Reference.hexadecimal mark digits).Valid) :
    characters (Reference.hexadecimal mark digits).written
      = [character (Text.Digits.number 16 digits)] := by
  obtain ⟨hmark, hne, hdigits⟩ := h
  have hnumber := number_closed 16 hne hdigits (by decide)
  have hresolved : resolved ('#' :: mark :: (digits ++ [';']))
      = some ([character (Text.Digits.number 16 digits)], digits.length + 3) := by
    rcases hmark with rfl | rfl
    · rw [resolved, hnumber]
      rfl
    · rw [resolved, hnumber]
      rfl
  exact characters_of_all_resolved hresolved (by simp [Reference.body])

/-- The rules for names apply to a name. -/
theorem resolved_named (h : (Reference.named known).Valid) :
    resolved (known ++ [';']) = name (known ++ [';']) := by
  obtain ⟨hhead, -⟩ := h
  cases known with
  | nil => exact absurd hhead (by simp)
  | cons c rest =>
      have hc : c.isAlpha = true := hhead
      show resolved (c :: (rest ++ [';'])) = _
      rw [resolved]
      · rfl
      · exact fun _ => Text.cons_ne_cons hc (by decide)
      · exact fun _ => Text.cons_ne_cons hc (by decide)
      · exact fun _ => Text.cons_ne_cons hc (by decide)

theorem not_mem_named (h : (Reference.named known).Valid) : '&' ∉ known ++ [';'] :=
  List.not_mem_append (Reference.not_mem_body h).1 (by decide)

theorem name_closed (h : (Reference.named known).Valid) :
    name (known ++ [';']) = match lookup known with
      | some cs => some (cs, known.length + 1)
      | none =>
        match (unclosedNames.filter (·.isPrefixOf (known ++ [';']))).maxOn? List.length with
        | some start => (lookup start).map (·, start.length)
        | none => none := by
  have hall := List.all_eq_true.1 h.2
  have hstops : Reader.Stops Char.isAlphanum [';'] := Reader.stops_cons.2 (by decide)
  rw [name, Reader.takeWhile_eq hall hstops, Reader.dropWhile_eq hall hstops]
  rfl

/-- A listed name is what is listed for it. -/
theorem characters_listed (h : (Reference.named known).Valid) (hlisted : lookup known = some cs) :
    characters (Reference.named known).written = cs := by
  have hresolved : resolved (known ++ [';']) = some (cs, known.length + 1) := by
    rw [resolved_named h, name_closed h, hlisted]
  exact characters_of_all_resolved hresolved (by simp [Reference.body])

/-- Of a name that is not listed, a known beginning is resolved, or nothing. -/
theorem name_unlisted (h : (Reference.named known).Valid) (hunlisted : lookup known = none) :
    name (known ++ [';']) = none ∨
      ∃ cs n, name (known ++ [';']) = some (cs, n) ∧ 0 < cs.length ∧ n < known.length := by
  rw [name_closed h, hunlisted]
  cases hstart : (unclosedNames.filter (·.isPrefixOf (known ++ [';']))).maxOn? List.length with
  | none => exact .inl rfl
  | some start =>
      obtain ⟨hmem, hprefix⟩ := List.mem_filter.1 (List.maxOn?_mem hstart)
      obtain ⟨hlisted, hclose⟩ := Reference.of_mem_unclosedNames hmem
      obtain ⟨cs, hcs⟩ := Option.isSome_iff_exists.1 hlisted
      have hpos : 0 < cs.length := by
        rcases Reference.length_of_lookup hcs with hlength | hlength <;> omega
      -- It is not all of the name, which would be listed then.
      have hlt : start.length < known.length := by
        rcases List.prefix_concat_iff.1 (List.isPrefixOf_iff_prefix.1 hprefix) with rfl | hstart
        · exact absurd (by simp) hclose
        · refine Nat.lt_of_le_of_ne hstart.length_le fun hlength => ?_
          rw [hstart.eq_of_length hlength, hunlisted] at hcs
          cases hcs
      exact .inr ⟨cs, start.length, by simp [hcs], hpos, hlt⟩

/-- What becomes of a name that is not listed is longer than anything that is listed. -/
theorem two_lt_length_characters (h : (Reference.named known).Valid)
    (hunlisted : lookup known = none) :
    2 < (characters (Reference.named known).written).length := by
  have hmem := not_mem_named h
  have hpos : 0 < known.length := by
    cases known with
    | nil => exact absurd h.1 (by simp)
    | cons c rest => exact Nat.succ_pos _
  show 2 < (characters ('&' :: (known ++ [';']))).length
  rcases name_unlisted h hunlisted with hname | ⟨cs, n, hname, hcs, hn⟩
  · rw [characters_of_not_resolved ((resolved_named h).trans hname) hmem]
    simp
    omega
  · have hdrop : '&' ∉ (known ++ [';']).drop n := fun hd => hmem (List.mem_of_mem_drop hd)
    rw [characters_of_resolved ((resolved_named h).trans hname), characters_of_not_mem hdrop]
    simp
    omega

/-- The tokenizer makes of complete references what the rules of HTML make of them. -/
def FollowsStandard (tokenizer : Tokenizer) : Prop :=
  ∀ r : Reference, r.Valid → tokenizer r.written = standard r.written

theorem followsStandard_standard : standard.FollowsStandard := fun _ _ => rfl

end Tokenizer

namespace Reference

/-- What a reference means. A name that stands for nothing means itself, as it is written. -/
def meaning (r : Reference) : Text :=
  match r with
  | .decimal digits => [character (Text.Digits.number 10 digits)]
  | .hexadecimal _ digits => [character (Text.Digits.number 16 digits)]
  | .named name => (lookup name).getD r.written

/-- Names are told from beginnings of names by the number of characters that become of them. -/
theorem resolve_eq_meaning {tokenizer : Tokenizer} (h : tokenizer.FollowsStandard) {r : Reference}
    (hr : r.Valid) : r.resolve tokenizer = r.meaning := by
  have hresolve : r.resolve tokenizer
      = if r.isNumber || (Tokenizer.characters r.written).length ≤ 2
        then Tokenizer.characters r.written else r.written := by
    rw [resolve, h r hr, Tokenizer.standard, Text.Utf8.decode?_encode]
  rw [hresolve]
  cases r with
  | decimal digits => exact Tokenizer.characters_decimal hr
  | hexadecimal mark digits => exact Tokenizer.characters_hexadecimal hr
  | named name =>
      cases hlookup : lookup name with
      | some cs =>
          have hlength : cs.length ≤ 2 := by
            rcases length_of_lookup hlookup with hlength | hlength <;> omega
          rw [Tokenizer.characters_listed hr hlookup, if_pos (by simp [hlength]), meaning, hlookup]
          rfl
      | none =>
          have hlength := Tokenizer.two_lt_length_characters hr hlookup
          rw [if_neg (by simp [isNumber, hlength]), meaning, hlookup]
          rfl

end Reference

end BareUrl.Markup
