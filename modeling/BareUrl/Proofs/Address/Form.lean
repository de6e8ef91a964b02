import BareUrl.Address.Form
import BareUrl.Proofs.Text.Case
import BareUrl.Proofs.Text.Decimal
import BareUrl.Proofs.Text.Search
import BareUrl.Proofs.Text.Utf8
import Mathlib.Data.List.Basic
import Mathlib.Data.List.TakeWhile

/-!
# `BareUrl.Proofs.Address.Form`: pairs that are written can be read

A name or value is written with letters, digits, a few signs, plus signs and escapes
(`class_of_mem_encodeText`), so neither can end its pair nor the query. `decode_encode` says that
the pairs of a query that is written are found again, and `decode_addPairs` that pairs which are
added to a query leave those before them as they are, whatever that query is.
-/

set_option autoImplicit false

namespace BareUrl.Address

/-! ### Escapes -/

namespace Percent

theorem isAlphanum_digit {d : Nat} (h : d < 16) : (Text.Digits.digit d).isAlphanum = true := by
  have hall : ∀ d < 16, (Text.Digits.digit d).isAlphanum = true := by decide
  exact hall d h

/-- Escapes are percent signs and digits. -/
theorem class_of_mem_escapeChar {c d : Char} (h : d ∈ escapeChar c) :
    d = '%' ∨ d.isAlphanum = true := by
  obtain ⟨b, -, hd⟩ := List.mem_flatMap.1 h
  have hb : b.toNat < 256 := b.toNat_lt
  rw [escapeByte, List.mem_cons, List.mem_pair] at hd
  rcases hd with rfl | rfl | rfl
  · exact .inl rfl
  · exact .inr (isAlphanum_digit (by omega))
  · exact .inr (isAlphanum_digit (by omega))

theorem unescape_escapeByte (b : UInt8) (rest : Text) :
    unescape (escapeByte b ++ rest) = b :: unescape rest := by
  have hb : b.toNat < 256 := b.toNat_lt
  have hvalue : 16 * (b.toNat / 16) + b.toNat % 16 = b.toNat := by omega
  show unescape ('%' :: Text.Digits.digit (b.toNat / 16) :: Text.Digits.digit (b.toNat % 16) ::
    rest) = _
  rw [unescape, Text.Digits.value_digit (by omega), Text.Digits.value_digit (by omega)]
  simp only [hvalue, UInt8.ofNat_toNat]

/-- The escapes of a character stand for its bytes. -/
theorem unescape_escapeChar (c : Char) (rest : Text) :
    unescape (escapeChar c ++ rest) = String.utf8EncodeChar c ++ unescape rest := by
  rw [escapeChar]
  induction String.utf8EncodeChar c with
  | nil => rfl
  | cons b bytes ih =>
      rw [List.flatMap_cons, List.append_assoc, unescape_escapeByte, ih, List.cons_append]

/-- A character that is no percent sign stands for its own bytes. -/
theorem unescape_cons {c : Char} (h : c ≠ '%') (rest : Text) :
    unescape (c :: rest) = String.utf8EncodeChar c ++ unescape rest := by
  rw [unescape]
  intro a b t hc
  exact absurd hc h

end Percent

namespace Form

/-! ### Names and values -/

/-- A text that is written holds no character with a meaning in a query. -/
theorem class_of_mem_encodeText {t : Text} {c : Char} (h : c ∈ encodeText t) :
    c = '+' ∨ c = '%' ∨ isPlain c = true := by
  obtain ⟨d, -, hc⟩ := List.mem_flatMap.1 h
  split at hc
  · rename_i hplain
    exact .inr (.inr (List.mem_singleton.1 hc ▸ hplain))
  · split at hc
    · exact .inl (List.mem_singleton.1 hc)
    · refine .inr ((Percent.class_of_mem_escapeChar hc).imp_right fun halnum => ?_)
      rw [isPlain, halnum]
      rfl

/-- The characters that end a name, a value, a query, or the word that it stands in. -/
def marks : List Char := "=&#? ".toList

theorem not_mem_encodeText {d : Char} (hd : d ∈ marks) (t : Text) : d ∉ encodeText t := by
  intro h
  have hall : (marks.all fun d => d != '+' && (d != '%' && !isPlain d)) = true := by decide
  have hmark := List.all_eq_true.1 hall d hd
  rw [Bool.and_eq_true, Bool.and_eq_true, bne_iff_ne, bne_iff_ne, Bool.not_eq_true'] at hmark
  rcases class_of_mem_encodeText h with hplus | hpercent | hplain
  · exact hmark.1 hplus
  · exact hmark.2.1 hpercent
  · exact Bool.noConfusion (hplain.symm.trans hmark.2.2)

/-- What a character is written as stands for its bytes, once plus signs are read as blanks. -/
theorem unescape_encodeChar (c : Char) (rest : Text) :
    Percent.unescape ((if isPlain c then [c] else if c = ' ' then ['+'] else
        Percent.escapeChar c).map (fun c => if c = '+' then ' ' else c) ++ rest)
      = String.utf8EncodeChar c ++ Percent.unescape rest := by
  split
  · rename_i hplain
    have hplus : c ≠ '+' := fun h => absurd (h ▸ hplain) (by decide)
    have hpercent : c ≠ '%' := fun h => absurd (h ▸ hplain) (by decide)
    rw [List.map_singleton, if_neg hplus, List.singleton_append, Percent.unescape_cons hpercent]
  · split
    · rename_i hblank
      rw [hblank, List.map_singleton, if_pos rfl, List.singleton_append,
        Percent.unescape_cons (by decide)]
    · -- An escape holds no plus sign.
      have hsame : (Percent.escapeChar c).map (fun c => if c = '+' then ' ' else c)
          = Percent.escapeChar c := by
        refine (List.map_congr_left fun d hd => if_neg ?_).trans (List.map_id _)
        rintro rfl
        exact absurd (Percent.class_of_mem_escapeChar hd) (by decide)
      rw [hsame, Percent.unescape_escapeChar]

theorem unescape_encodeText (t : Text) :
    Percent.unescape ((encodeText t).map fun c => if c = '+' then ' ' else c)
      = Text.Utf8.encode t := by
  induction t with
  | nil =>
      show Percent.unescape [] = []
      rw [Percent.unescape]
  | cons c t ih =>
      have hbytes : Text.Utf8.encode (c :: t) = String.utf8EncodeChar c ++ Text.Utf8.encode t :=
        List.flatMap_cons
      rw [encodeText, List.flatMap_cons, List.map_append, unescape_encodeChar, hbytes, ← ih]
      rfl

theorem decodeText_encodeText (t : Text) : decodeText (encodeText t) = t := by
  rw [decodeText, unescape_encodeText, Text.Utf8.decodeLossy_encode]

/-! ### Pairs -/

theorem not_mem_encodePair {d : Char} (hd : d ∈ marks) (hequals : d ≠ '=') (pair : Text × Text) :
    d ∉ encodePair pair := by
  rw [encodePair, List.mem_append, List.mem_cons]
  rintro (h | h | h)
  · exact not_mem_encodeText hd _ h
  · exact hequals h
  · exact not_mem_encodeText hd _ h

theorem not_mem_encode {d : Char} (hd : d ∈ marks) (hequals : d ≠ '=') (hand : d ≠ '&')
    (pairs : List (Text × Text)) : d ∉ encode pairs := by
  induction pairs with
  | nil => exact List.not_mem_nil
  | cons pair pairs ih =>
      cases pairs with
      | nil => exact not_mem_encodePair hd hequals pair
      | cons next pairs =>
          intro h
          rcases List.mem_append.1 h with h | h
          · rcases List.mem_append.1 h with h | h
            · exact not_mem_encodePair hd hequals pair h
            · exact hand (List.mem_singleton.1 h)
          · exact ih h

/-- A text that does not hold the mark is what stands before it. -/
theorem cutAt_append {mark : Char} {before : Text} (h : mark ∉ before) (after : Text) :
    cutAt mark (before ++ mark :: after) = (before, some after) := by
  have hbefore : ∀ c ∈ before, decide (c ≠ mark) = true := fun c hc =>
    decide_eq_true fun heq => h (heq ▸ hc)
  rw [cutAt, List.takeWhile_append_of_pos hbefore, List.dropWhile_append_of_pos hbefore,
    List.takeWhile_cons_of_neg (by simp), List.dropWhile_cons_of_neg (by simp), List.append_nil]
  rfl

theorem cutAt_of_not_mem {mark : Char} {t : Text} (h : mark ∉ t) : cutAt mark t = (t, none) := by
  have ht : ∀ c ∈ t, decide (c ≠ mark) = true := fun c hc => decide_eq_true fun heq => h (heq ▸ hc)
  rw [cutAt, List.takeWhile_eq_self_iff.2 ht, List.dropWhile_eq_nil_iff.2 ht]
  rfl

theorem decodePair_encodePair (pair : Text × Text) : decodePair (encodePair pair) = pair := by
  rw [decodePair, encodePair, cutAt_append (not_mem_encodeText (by decide) pair.1)]
  exact Prod.ext (decodeText_encodeText pair.1) (decodeText_encodeText pair.2)

/-! ### Queries -/

/-- The pairs of a query are those in front of an ampersand and those behind it. -/
theorem decode_append (query rest : Text) :
    decode (query ++ '&' :: rest) = decode query ++ decode rest := by
  rw [decode, Text.splitOn_append_sep, List.filter_append, List.map_append]
  rfl

theorem decode_encode (pairs : List (Text × Text)) : decode (encode pairs) = pairs := by
  cases pairs with
  | nil => rfl
  | cons pair pairs =>
      have hpieces : Text.splitOn '&' (encode (pair :: pairs)) = (pair :: pairs).map encodePair :=
        Text.splitOn_joinWith (List.cons_ne_nil _ _) (List.forall_mem_map.2 fun p _ =>
          not_mem_encodePair (by decide) (by decide) p)
      -- Reading drops empty pieces, but a pair that is written has its equals sign.
      have hne : ∀ piece ∈ (pair :: pairs).map encodePair, decide (piece ≠ []) = true :=
        List.forall_mem_map.2 fun p _ => decide_eq_true (by simp [encodePair])
      rw [decode, hpieces, List.filter_eq_self.2 hne, List.map_map]
      exact (List.map_congr_left fun p _ => decodePair_encodePair p).trans (List.map_id _)

/-- Pairs that are added come behind those that a query has. -/
theorem decode_addPairs (a : Address) (pairs : List (Text × Text)) :
    decode ((a.addPairs pairs).query.getD []) = decode (a.query.getD []) ++ pairs := by
  rw [addPairs]
  cases a.query with
  | none => exact decode_encode pairs
  | some query =>
      cases query with
      | nil => exact decode_encode pairs
      | cons c query =>
          show decode (c :: query ++ '&' :: encode pairs) = decode (c :: query) ++ pairs
          rw [decode_append, decode_encode]

end Form

end BareUrl.Address
