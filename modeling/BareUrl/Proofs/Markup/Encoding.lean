import BareUrl.Proofs.Markup.Decoding

/-!
# `BareUrl.Proofs.Markup.Encoding`: decoding takes one encoding back

Markup may write a text in many ways. An `&` has to be written as a reference, and any other
character can be, by its number in decimal or hexadecimal; a few numbers do not lead back to their
character and are no way to write it (`Writes`). Decoding takes every such encoding back, and
exactly once: of an encoding of `&lt;` it makes `&lt;`. See `decodeBy_one_pass`.
-/

set_option autoImplicit false

namespace BareUrl.Markup

open Reference (character)

variable {tokenizer : Tokenizer} {c : Char} {s e w : Text}

/-- A reference by the number of the character leads to the character. -/
def OwnNumber (c : Char) : Prop := c.toNat ≠ 0 ∧ ¬ (0x80 ≤ c.toNat ∧ c.toNat ≤ 0x9F)

instance (c : Char) : Decidable (OwnNumber c) :=
  inferInstanceAs (Decidable (c.toNat ≠ 0 ∧ ¬ (0x80 ≤ c.toNat ∧ c.toNat ≤ 0x9F)))

/-- The ways to write a character in an encoding. -/
inductive Writes : Char → Text → Prop where
  | literal {c : Char} (h : c ≠ '&') : Writes c [c]
  | ampersand : Writes '&' (Reference.named "amp".toList).written
  | decimal {c : Char} {digits : Text} (own : OwnNumber c)
      (valid : (Reference.decimal digits).Valid) (number : Text.Digits.number 10 digits = c.toNat) :
      Writes c (Reference.decimal digits).written
  | hexadecimal {c mark : Char} {digits : Text} (own : OwnNumber c)
      (valid : (Reference.hexadecimal mark digits).Valid)
      (number : Text.Digits.number 16 digits = c.toNat) :
      Writes c (Reference.hexadecimal mark digits).written

/-- The second text writes the characters of the first one after another, each in one of the ways
to write it. -/
inductive Encodes : Text → Text → Prop where
  | nil : Encodes [] []
  | cons {c : Char} {w s e : Text} (head : Writes c w) (tail : Encodes s e) :
      Encodes (c :: s) (w ++ e)

theorem character_toNat (h : OwnNumber c) : character c.toNat = c := by
  have hvalid : c.toNat < 0xD800 ∨ (0xDFFF < c.toNat ∧ c.toNat < 0x110000) := c.valid
  have hlisted : ¬ (c.toNat = 0 ∨ (0xD800 ≤ c.toNat ∧ c.toNat ≤ 0xDFFF) ∨ 0x10FFFF < c.toNat) := by
    have hzero := h.1
    omega
  rw [character_eq, if_neg hlisted, if_neg h.2, Char.ofNat_toNat]

/-- Decoding takes a character back at a time, and goes on behind what wrote it. -/
theorem Writes.decodeBy_eq (h : tokenizer.FollowsStandard) (hw : Writes c w) (e : Text) :
    decodeBy tokenizer (w ++ e) = c :: decodeBy tokenizer e := by
  have hdecode {r : Reference} (hr : r.Valid) (hmeaning : r.meaning = [c]) :
      decodeBy tokenizer (r.written ++ e) = c :: decodeBy tokenizer e := by
    calc decodeBy tokenizer (r.written ++ e)
        = decodeBy tokenizer [] ++ r.resolve tokenizer ++ decodeBy tokenizer e :=
          decodeBy_reference hr [] e
      _ = c :: decodeBy tokenizer e := by
          rw [decodeBy_nil, Reference.resolve_eq_meaning h hr, hmeaning]
          rfl
  cases hw with
  | literal hc =>
      have hmem : '&' ∉ [c] := fun hmem => hc (List.mem_singleton.1 hmem).symm
      rw [decodeBy_append (seamless_of_not_mem hmem e), decodeBy_of_not_mem (.inl hmem)]
      rfl
  | ampersand => exact hdecode (by decide) (by decide +kernel)
  | decimal own valid number =>
      refine hdecode valid ?_
      rw [Reference.meaning, number, character_toNat own]
  | hexadecimal own valid number =>
      refine hdecode valid ?_
      rw [Reference.meaning, number, character_toNat own]

theorem Encodes.decodeBy_eq (h : tokenizer.FollowsStandard) (he : Encodes s e) :
    decodeBy tokenizer e = s := by
  induction he with
  | nil => exact decodeBy_nil
  | cons head tail ih => rw [head.decodeBy_eq h, ih]

/-- Decoding is one pass over the text. What is decoded is never decoded again: two texts without
a reference across the seam are decoded apart from each other, and decoding takes one encoding back,
whatever the encoded text looks like. -/
theorem decodeBy_one_pass (h : tokenizer.FollowsStandard) :
    (∀ a b, Seamless a b →
      decodeBy tokenizer (a ++ b) = decodeBy tokenizer a ++ decodeBy tokenizer b) ∧
    ∀ s e, Encodes s e → decodeBy tokenizer e = s :=
  ⟨fun _ _ hseam => decodeBy_append hseam, fun _ _ he => he.decodeBy_eq h⟩

/-- `&amp;l&#x74;;` is an encoding of `&lt;`, and it is cut behind the first reference. -/
theorem decodeBy_one_pass_encoded :
    Tokenizer.standard.FollowsStandard ∧ Seamless "&amp;".toList "l&#x74;;".toList ∧
      Encodes "&lt;".toList "&amp;l&#x74;;".toList ∧
      decode "&amp;l&#x74;;".toList = "&lt;".toList ∧
      decode "&amp;".toList ++ decode "l&#x74;;".toList = "&lt;".toList := by
  have hpass := decodeBy_one_pass Tokenizer.followsStandard_standard
  have hseam : Seamless "&amp;".toList "l&#x74;;".toList := seamless_semicolon "&amp".toList _
  have hnumber : Writes 't' (Reference.hexadecimal 'x' "74".toList).written :=
    .hexadecimal (by decide) (by decide) (by decide)
  have hencodes : Encodes "&lt;".toList "&amp;l&#x74;;".toList :=
    .cons .ampersand <| .cons (.literal (by decide)) <| .cons hnumber <|
      .cons (.literal (by decide)) .nil
  have hdecode : decode "&amp;l&#x74;;".toList = "&lt;".toList := hpass.2 _ _ hencodes
  exact ⟨Tokenizer.followsStandard_standard, hseam, hencodes, hdecode,
    (hpass.1 _ _ hseam).symm.trans hdecode⟩

end BareUrl.Markup
