import BareUrl.Proofs.Markup.Tokenizer

/-!
# `BareUrl.Proofs.Markup.Decoding`: a text with its references decoded

A complete reference starts with the only `&` in it and ends with the only `;`. So two of them never
overlap, and a text can be decoded in parts wherever no reference reaches from one part into the
next (`Seamless`, `decodeBy_append`): in front of any `&`, behind any `;`, and behind a name that is
not closed. A text without complete references stays as it is (`decodeBy_of_no_reference`).

`decodeBy_exact` puts this together. It holds for any tokenizer that makes of complete references
what the rules of HTML make of them.
-/

set_option autoImplicit false

namespace BareUrl.Markup

open Reference (character lookup westernCharacter)

variable {tokenizer : Tokenizer} {r : Reference} {a b t x y : Text}

/-! ### Where references start and end -/

theorem Reference.isSome_here_iff :
    (Reference.here t).isSome ↔ ∃ (r : Reference) (y : Text), r.Valid ∧ t = r.written ++ y := by
  rw [Option.isSome_iff_exists]
  constructor
  · rintro ⟨s, hs⟩
    exact ⟨s.token, s.rest, Reference.here_eq_some_iff.1 ⟨s.shorter, hs⟩⟩
  · rintro ⟨r, y, h⟩
    obtain ⟨_, hs⟩ := Reference.here_eq_some_iff.2 h
    exact ⟨_, hs⟩

/-- No complete reference reaches from the end of the first text into the second. -/
def Seamless (a b : Text) : Prop :=
  ∀ (r : Reference) (p q : Text), r.Valid → r.written = p ++ q → p <:+ a → q <+: b →
    p = [] ∨ q = []

theorem Seamless.of_append (h : Seamless (x ++ a) b) : Seamless a b :=
  fun r p q hr hpq hp hq => h r p q hr hpq (hp.trans (List.suffix_append x a)) hq

/-- No reference starts in a text without `&`. -/
theorem seamless_of_not_mem (h : '&' ∉ a) (b : Text) : Seamless a b := by
  intro r p q _ hpq hp _
  rcases p with _ | ⟨c, p⟩
  · exact .inl rfl
  · obtain rfl : '&' = c := (List.cons.inj hpq).1
    exact absurd (hp.subset List.mem_cons_self) h

/-- An `&` starts a reference or is in none. -/
theorem seamless_amp (a b : Text) : Seamless a ('&' :: b) := by
  intro r p q hr hpq _ hq
  rcases p with _ | ⟨c, p⟩
  · exact .inl rfl
  rcases q with _ | ⟨d, q⟩
  · exact .inr rfl
  obtain ⟨rfl, -⟩ := List.cons_prefix_cons.1 hq
  have hbody : r.body ++ [';'] = p ++ '&' :: q := (List.cons.inj hpq).2
  have hmem : '&' ∈ r.body ++ [';'] := by
    rw [hbody]
    exact List.mem_append_right p List.mem_cons_self
  rcases List.mem_append.1 hmem with hmem | hmem
  · exact absurd hmem (Reference.not_mem_body hr).1
  · exact absurd hmem (by decide)

/-- A `;` ends a reference or is in none. -/
theorem seamless_semicolon (a b : Text) : Seamless (a ++ [';']) b := by
  intro r p q hr hpq hp _
  rcases List.eq_nil_or_concat p with rfl | ⟨p, c, rfl⟩
  · exact .inl rfl
  rcases List.eq_nil_or_concat q with rfl | ⟨q, d, rfl⟩
  · exact .inr rfl
  obtain ⟨x, hx⟩ := hp
  rw [List.concat_eq_append, ← List.append_assoc] at hx
  obtain ⟨-, hc⟩ := List.append_inj' hx rfl
  obtain rfl : c = ';' := (List.cons.inj hc).1
  have hwritten : ('&' :: r.body) ++ [';'] = (p ++ [';'] ++ q) ++ [d] := by
    simpa [Reference.written] using hpq
  obtain ⟨hbody, -⟩ := List.append_inj' hwritten rfl
  have hmem : ';' ∈ '&' :: r.body := by simp [hbody]
  exact absurd (List.mem_of_ne_of_mem (by decide) hmem) (Reference.not_mem_body hr).2

/-- A name ends in front of the first character that is neither a letter nor a digit. If that is no
`;`, the name belongs to no complete reference. -/
theorem seamless_unclosed {name : Text} (hne : name ≠ []) (hname : name.all Char.isAlphanum = true)
    (hb : b.head?.any (fun c => c.isAlphanum || c == ';') = false) : Seamless ('&' :: name) b := by
  intro r p q hr hpq hp hq
  rcases q with _ | ⟨d, q⟩
  · exact .inr rfl
  rcases p with _ | ⟨c, p⟩
  · exact .inl rfl
  exfalso
  obtain ⟨k, rfl⟩ := hq
  have hd : d.isAlphanum = false ∧ d ≠ ';' := by simpa using hb
  have hall := List.all_eq_true.1 hname
  obtain ⟨rfl, hbody⟩ := List.cons.inj hpq
  -- The reference starts with the `&` in front of the name.
  obtain rfl : p = name := by
    rcases List.suffix_cons_iff.1 hp with hp | hp
    · exact (List.cons.inj hp).2
    · exact absurd (hall '&' (hp.subset List.mem_cons_self)) (by decide)
  obtain ⟨e, name, rfl⟩ := List.exists_cons_of_ne_nil hne
  cases r with
  | decimal digits =>
      obtain ⟨rfl, -⟩ := List.cons.inj hbody
      exact absurd (hall '#' List.mem_cons_self) (by decide)
  | hexadecimal mark digits =>
      obtain ⟨rfl, -⟩ := List.cons.inj hbody
      exact absurd (hall '#' List.mem_cons_self) (by decide)
  | named known =>
      have hbody : known ++ [';'] = e :: name ++ d :: q := hbody
      have hmem : d ∈ known ++ [';'] := by
        rw [hbody]
        exact List.mem_append_right _ List.mem_cons_self
      rcases List.mem_append.1 hmem with hmem | hmem
      · exact absurd (List.all_eq_true.1 hr.2 d hmem) (by simp [hd.1])
      · exact hd.2 (List.mem_singleton.1 hmem)

/-! ### Decoding in parts -/

/-- What starts in no part of a text starts nowhere in it, whatever follows without a seam. -/
theorem Seamless.silentBefore (h : Seamless (a ++ t) b)
    (ha : Reference.here.SilentBefore a t) : Reference.here.SilentBefore a (t ++ b) := by
  rintro x y rfl hy hhere
  obtain ⟨r, k, hr, hk⟩ := Reference.isSome_here_iff.1 hhere
  have hlonger {m : Text} (hm : y ++ t = r.written ++ m) : False :=
    ha x y rfl hy (Reference.isSome_here_iff.2 ⟨r, m, hr, hm⟩)
  rw [← List.append_assoc] at hk
  rcases List.append_eq_append_iff.1 hk with ⟨q, hq, hb⟩ | ⟨m, hm, -⟩
  · -- The reference starts in the first text, so it does not reach into the second.
    have hp : y ++ t <:+ x ++ y ++ t := by
      rw [List.append_assoc]
      exact List.suffix_append x (y ++ t)
    rcases h r (y ++ t) q hr hq hp (hb ▸ List.prefix_append q k) with hnil | rfl
    · exact hy (List.append_eq_nil_iff.1 hnil).1
    · refine hlonger (m := []) ?_
      rw [hq, List.append_nil, List.append_nil]
  · exact hlonger hm

/-- Where no reference reaches from one text into the next, each has its own. -/
theorem references_append (h : Seamless a b) :
    references (a ++ b) = (references a).append (references b) := by
  induction a using Recogniser.leftmost_induct Reference.here with
  | silent a ha =>
      have hgap : Reference.here.SilentBefore a b := by
        have hseam : Seamless (a ++ []) b := by rwa [List.append_nil]
        exact hseam.silentBefore (Recogniser.silent_iff.1 ha)
      rw [references, references, Recogniser.run_leftmost_append hgap,
        Recogniser.run_leftmost_of_silent ha, Cut.leaf_append]
      rfl
  | token gap t s hs hgap ih =>
      obtain ⟨hr, ht⟩ := Reference.here_eq_some_iff.1 ⟨s.shorter, hs⟩
      obtain ⟨_, hs'⟩ := Reference.here_eq_some_iff.2
        (show s.token.Valid ∧ t ++ b = s.token.written ++ (s.rest ++ b) from
          ⟨hr, (congrArg (· ++ b) ht).trans (List.append_assoc ..)⟩)
      have hrest : Seamless s.rest b := by
        refine Seamless.of_append (x := gap ++ s.token.written) ?_
        rwa [List.append_assoc, ← ht]
      rw [references, references, List.append_assoc,
        Recogniser.run_leftmost_of_here hs' (h.silentBefore hgap),
        Recogniser.run_leftmost_of_here hs hgap, Cut.cons_append]
      exact congrArg (Cut.cons gap s.token) (ih hrest)

theorem decodeBy_append (h : Seamless a b) :
    decodeBy tokenizer (a ++ b) = decodeBy tokenizer a ++ decodeBy tokenizer b := by
  rw [decodeBy, references_append h, Cut.render_append]
  rfl

/-- A text without complete references stays as it is. -/
theorem decodeBy_of_no_reference (h : ∀ r : Reference, r.Valid → ¬ r.written <:+: t) :
    decodeBy tokenizer t = t := by
  have hsilent : Reference.here.Silent t := by
    rintro x y rfl - hhere
    obtain ⟨r, k, hr, rfl⟩ := Reference.isSome_here_iff.1 hhere
    exact h r hr ⟨x, k, by simp⟩
  rw [decodeBy, references, Recogniser.run_leftmost_of_silent hsilent, Cut.render_leaf]

theorem decodeBy_of_not_mem (h : '&' ∉ t ∨ ';' ∉ t) : decodeBy tokenizer t = t := by
  refine decodeBy_of_no_reference fun r _ hr => ?_
  rcases h with h | h
  · exact h (hr.subset (by simp [Reference.written]))
  · exact h (hr.subset (by simp [Reference.written]))

@[simp]
theorem decodeBy_nil : decodeBy tokenizer [] = [] := decodeBy_of_not_mem (.inl List.not_mem_nil)

theorem decodeBy_written (hr : r.Valid) : decodeBy tokenizer r.written = r.resolve tokenizer := by
  obtain ⟨_, hs⟩ := Reference.here_eq_some_iff.2
    (show r.Valid ∧ r.written = r.written ++ [] from ⟨hr, (List.append_nil _).symm⟩)
  have hrun := Recogniser.run_leftmost_of_here hs Recogniser.silentBefore_nil
  have hnil : Reference.here.Silent [] := Recogniser.silent_iff.2 Recogniser.silentBefore_nil
  rw [List.nil_append, Recogniser.run_leftmost_of_silent hnil] at hrun
  rw [decodeBy, references, hrun, Cut.render_cons, Cut.render_leaf, List.append_nil]
  rfl

/-- A complete reference is decoded on its own, and so is what is on its two sides. -/
theorem decodeBy_reference (hr : r.Valid) (a b : Text) :
    decodeBy tokenizer (a ++ r.written ++ b)
      = decodeBy tokenizer a ++ r.resolve tokenizer ++ decodeBy tokenizer b := by
  have hsemicolon : Seamless (a ++ r.written) b := by
    have hsplit : a ++ r.written = a ++ '&' :: r.body ++ [';'] := by simp [Reference.written]
    rw [hsplit]
    exact seamless_semicolon _ b
  have hamp : Seamless a r.written := seamless_amp a (r.body ++ [';'])
  rw [decodeBy_append hsemicolon, decodeBy_append hamp, decodeBy_written hr]

/-! ### What is decoded -/

theorem westernCharacter_of_outside {n : Nat} (h : ¬ (0x80 ≤ n ∧ n ≤ 0x9F)) :
    westernCharacter n = n := by
  fun_cases westernCharacter n
  case case28 => rfl
  all_goals exact absurd (by decide) h

/-- Which character has a number. -/
theorem character_eq (n : Nat) :
    character n
      = if n = 0 ∨ (0xD800 ≤ n ∧ n ≤ 0xDFFF) ∨ 0x10FFFF < n then '\ufffd'
        else if 0x80 ≤ n ∧ n ≤ 0x9F then Char.ofNat (westernCharacter n)
        else Char.ofNat n := by
  have hvalid : (n ≠ 0 ∧ n.isValidChar)
      ↔ ¬ (n = 0 ∨ (0xD800 ≤ n ∧ n ≤ 0xDFFF) ∨ 0x10FFFF < n) := by
    rw [Nat.isValidChar]
    omega
  rw [character]
  by_cases h : n = 0 ∨ (0xD800 ≤ n ∧ n ≤ 0xDFFF) ∨ 0x10FFFF < n
  · rw [if_pos h, if_neg fun hn => hvalid.1 hn h]
  · rw [if_neg h, if_pos (hvalid.2 h)]
    by_cases hwestern : 0x80 ≤ n ∧ n ≤ 0x9F
    · rw [if_pos hwestern]
    · rw [if_neg hwestern, westernCharacter_of_outside hwestern]

/-- Complete references are decoded by what is listed, each on its own, and nothing else changes.

A name that is not listed is kept, whatever known name it begins with, and a number of any length is
one character. A name that is not closed is kept, also where it is listed. -/
theorem decodeBy_exact (h : tokenizer.FollowsStandard) :
    (∀ t, (∀ r : Reference, r.Valid → ¬ r.written <:+: t) → decodeBy tokenizer t = t) ∧
    (∀ a b name, (Reference.named name).Valid →
      decodeBy tokenizer (a ++ ('&' :: name ++ [';']) ++ b)
        = decodeBy tokenizer a ++ (lookup name).getD ('&' :: name ++ [';'])
          ++ decodeBy tokenizer b) ∧
    (∀ a b digits, (Reference.decimal digits).Valid →
      decodeBy tokenizer (a ++ ('&' :: '#' :: digits ++ [';']) ++ b)
        = decodeBy tokenizer a ++ [character (Text.Digits.number 10 digits)]
          ++ decodeBy tokenizer b) ∧
    (∀ a b mark digits, (Reference.hexadecimal mark digits).Valid →
      decodeBy tokenizer (a ++ ('&' :: '#' :: mark :: digits ++ [';']) ++ b)
        = decodeBy tokenizer a ++ [character (Text.Digits.number 16 digits)]
          ++ decodeBy tokenizer b) ∧
    (∀ a b name, name ≠ [] → name.all Char.isAlphanum = true →
      b.head?.any (fun c => c.isAlphanum || c == ';') = false →
      decodeBy tokenizer (a ++ ('&' :: name) ++ b)
        = decodeBy tokenizer a ++ ('&' :: name) ++ decodeBy tokenizer b) ∧
    (∀ n, character n
      = if n = 0 ∨ (0xD800 ≤ n ∧ n ≤ 0xDFFF) ∨ 0x10FFFF < n then '\ufffd'
        else if 0x80 ≤ n ∧ n ≤ 0x9F then Char.ofNat (westernCharacter n)
        else Char.ofNat n) := by
  have hdecode {r : Reference} (hr : r.Valid) (a b : Text) :
      decodeBy tokenizer (a ++ r.written ++ b)
        = decodeBy tokenizer a ++ r.meaning ++ decodeBy tokenizer b := by
    rw [decodeBy_reference hr, Reference.resolve_eq_meaning h hr]
  refine ⟨fun t => decodeBy_of_no_reference, fun a b name hr => hdecode hr a b,
    fun a b digits hr => hdecode hr a b, fun a b mark digits hr => hdecode hr a b, ?_,
    character_eq⟩
  intro a b name hne hname hb
  have hsemicolon : ';' ∉ '&' :: name := by
    intro hmem
    rcases List.mem_cons.1 hmem with hmem | hmem
    · exact absurd hmem (by decide)
    · exact absurd (List.all_eq_true.1 hname ';' hmem) (by decide)
  have hamp : Seamless a ('&' :: name ++ b) := seamless_amp a (name ++ b)
  rw [List.append_assoc, decodeBy_append hamp,
    decodeBy_append (seamless_unclosed hne hname hb), decodeBy_of_not_mem (.inr hsemicolon),
    List.append_assoc]

/-- `&notit;` begins with a known name, and `&copy` is one, but neither is decoded. -/
theorem decodeBy_exact_beginning :
    Tokenizer.standard.FollowsStandard ∧ (Reference.named "notit".toList).Valid ∧
      lookup "notit".toList = none ∧ (lookup "not".toList).isSome = true ∧
      decode "&amp;&notit;&copy=2".toList = "&&notit;&copy=2".toList := by
  have hexact := decodeBy_exact Tokenizer.followsStandard_standard
  have hcopy : decode "&copy=2".toList = "&copy=2".toList :=
    decodeBy_of_not_mem (.inr (by decide))
  have hlisted : lookup "amp".toList = some ['&'] := by decide +kernel
  have hunlisted : lookup "notit".toList = none := by decide +kernel
  refine ⟨Tokenizer.followsStandard_standard, by decide, hunlisted, by decide +kernel, ?_⟩
  calc decode "&amp;&notit;&copy=2".toList
      = decode [] ++ (lookup "amp".toList).getD "&amp;".toList
          ++ decode "&notit;&copy=2".toList :=
        hexact.2.1 [] "&notit;&copy=2".toList "amp".toList (by decide)
    _ = '&' :: decode "&notit;&copy=2".toList := by rw [hlisted, decode, decodeBy_nil]; rfl
    _ = '&' :: (decode [] ++ (lookup "notit".toList).getD "&notit;".toList
          ++ decode "&copy=2".toList) :=
        congrArg ('&' :: ·) (hexact.2.1 [] "&copy=2".toList "notit".toList (by decide))
    _ = "&&notit;&copy=2".toList := by
        rw [hunlisted, hcopy, decode, decodeBy_nil]
        rfl

end BareUrl.Markup
