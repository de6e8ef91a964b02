import BareUrl.Text.Blank
import BareUrl.Text.Decimal

/-!
# `BareUrl.Proofs.Text.Decimal`: a number that is written can be read

`read_ofNat` is the round trip. The digits of a number are digits and nothing else, so white
space around them is found and taken off: `trim_blank_digits`.
-/

set_option autoImplicit false

namespace BareUrl.Text

theorem not_isBlank_of_isDigit {c : Char} (h : c.isDigit = true) : isBlank c = false := by
  have hc : 48 ≤ c.toNat ∧ c.toNat ≤ 57 := by
    simpa [Char.isDigit, UInt32.le_iff_toNat_le] using h
  simp only [isBlank, Bool.or_eq_false_iff, Bool.and_eq_false_iff, decide_eq_false_iff_not,
    beq_eq_false_iff_ne]
  omega

/-- White space around a text that neither starts nor ends with some is taken off. -/
theorem trim_blank_digits {ds : Text} (hne : ds ≠ []) (h : ∀ c ∈ ds, isBlank c = false) :
    trim (' ' :: ds ++ [' ']) = ds := by
  have hblank : isBlank ' ' = true := by decide
  have hstart : trimStart (' ' :: ds ++ [' ']) = ds ++ [' '] := by
    obtain ⟨c, ds, rfl⟩ := List.exists_cons_of_ne_nil hne
    simp [trimStart, hblank, h c List.mem_cons_self]
  have hend : trimEnd (ds ++ [' ']) = ds := by
    obtain ⟨ds, c, rfl⟩ := (List.eq_nil_or_concat ds).resolve_left hne
    simp [trimEnd, hblank, h c (by simp)]
  rw [trim, hstart, hend]

namespace Digits

/-- A hexadecimal digit that is written can be read. -/
theorem value_digit {d : Nat} (h : d < 16) : value? (digit d) = some d := by
  have hall : ∀ d < 16, value? (digit d) = some d := by decide
  exact hall d h

theorem value_digitChar {n : Nat} (h : n < 10) : value? n.digitChar = some n := by
  have : ∀ m < 10, value? m.digitChar = some m := by decide
  exact this n h

theorem number_append_singleton (base : Nat) (ds : Text) (c : Char) :
    number base (ds ++ [c]) = number base ds * base + (value? c).getD 0 := by
  simp [number]

theorem number_toDigits (n : Nat) : number 10 (Nat.toDigits 10 n) = n := by
  by_cases h : n < 10
  · simp [Nat.toDigits_of_lt_base h, number, value_digitChar h]
  · rw [Nat.toDigits_of_base_le (by decide) (Nat.le_of_not_lt h), number_append_singleton,
      number_toDigits (n / 10), value_digitChar (Nat.mod_lt n (by decide))]
    simp only [Option.getD_some]
    omega

end Digits

namespace Decimal

theorem ofNat_ne_nil (n : Nat) : ofNat n ≠ [] := by
  rw [ofNat, Nat.toDigits_eq_if (by decide)]
  split <;> simp

theorem isDigit_of_mem_ofNat {n : Nat} {c : Char} (h : c ∈ ofNat n) : c.isDigit = true :=
  Nat.isDigit_of_mem_toDigits (by decide) (by decide) h

/-- A number that is written in decimal is read as it was. -/
theorem read_ofNat (n : Nat) : read? (ofNat n) = some n := by
  have hplus : stripLead ['+'] (ofNat n) = none := by
    obtain ⟨c, ds, hds⟩ := List.exists_cons_of_ne_nil (ofNat_ne_nil n)
    have hc : c.isDigit = true := isDigit_of_mem_ofNat (hds ▸ List.mem_cons_self)
    have hne : '+' ≠ c := by
      rintro rfl
      exact absurd hc (by decide)
    simp [hds, stripLead, hne]
  have hall : (ofNat n).all Char.isDigit = true :=
    List.all_eq_true.2 fun _ => isDigit_of_mem_ofNat
  simp only [read?, hplus, Option.getD_none]
  rw [if_pos ⟨ofNat_ne_nil n, hall⟩, ofNat, Digits.number_toDigits]

end Decimal

end BareUrl.Text
