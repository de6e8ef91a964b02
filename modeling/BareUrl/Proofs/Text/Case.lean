import BareUrl.Text.Basic

/-!
# `BareUrl.Proofs.Text.Case`: the small form of a character

A capital of ASCII has its small form 32 places behind it, and every other character is its own
(`toLower_cases`). So a small form is a letter exactly if the character is (`isAlpha_toLower`), and
a character that is no letter is the small form of itself alone (`toLower_eq_iff`).
-/

set_option autoImplicit false

namespace BareUrl.Text

theorem isAlpha_iff {c : Char} : c.isAlpha = true ↔
    (65 ≤ c.toNat ∧ c.toNat ≤ 90) ∨ (97 ≤ c.toNat ∧ c.toNat ≤ 122) := by
  delta Char.isAlpha Char.isUpper Char.isLower
  simp [UInt32.le_iff_toNat_le]

theorem isDigit_iff {c : Char} : c.isDigit = true ↔ 48 ≤ c.toNat ∧ c.toNat ≤ 57 := by
  simp [Char.isDigit, UInt32.le_iff_toNat_le]

theorem toLower_cases (c : Char) :
    (65 ≤ c.toNat ∧ c.toNat ≤ 90 ∧ c.toLower.toNat = c.toNat + 32) ∨ c.toLower = c := by
  by_cases h : c.val ≥ 'A'.val ∧ c.val ≤ 'Z'.val
  · have hlow : 65 ≤ c.val.toNat := UInt32.le_iff_toNat_le.1 h.1
    have hhigh : c.val.toNat ≤ 90 := UInt32.le_iff_toNat_le.1 h.2
    have hval : c.toLower.val.toNat = (c.val.toNat + 32) % 2 ^ 32 := by
      delta Char.toLower
      rw [dif_pos h]
      rfl
    refine .inl ⟨hlow, hhigh, ?_⟩
    show c.toLower.val.toNat = c.val.toNat + 32
    omega
  · refine .inr ?_
    delta Char.toLower
    rw [dif_neg h]

theorem isAlpha_toLower (c : Char) : c.toLower.isAlpha = c.isAlpha := by
  rw [Bool.eq_iff_iff, isAlpha_iff, isAlpha_iff]
  rcases toLower_cases c with ⟨hlow, hhigh, heq⟩ | heq
  · omega
  · rw [heq]

theorem toLower_of_not_isAlpha {c : Char} (hc : c.isAlpha = false) : c.toLower = c := by
  rcases toLower_cases c with ⟨hlow, hhigh, -⟩ | heq
  · have halpha : c.isAlpha = true := isAlpha_iff.2 (.inl ⟨hlow, hhigh⟩)
    rw [halpha] at hc
    exact absurd hc Bool.noConfusion
  · exact heq

theorem toLower_eq_iff {c d : Char} (hd : d.isAlpha = false) : c.toLower = d ↔ c = d := by
  constructor
  · intro h
    have hc : c.isAlpha = false := by rw [← isAlpha_toLower, h, hd]
    rw [← h, toLower_of_not_isAlpha hc]
  · rintro rfl
    exact toLower_of_not_isAlpha hd

/-- A small form is its own. -/
theorem toLower_toLower (c : Char) : c.toLower.toLower = c.toLower := by
  rcases toLower_cases c with ⟨hlow, hhigh, heq⟩ | heq
  · rcases toLower_cases c.toLower with ⟨-, hhigh', -⟩ | heq'
    · omega
    · exact heq'
  · rw [heq]
    exact heq

theorem asciiLower_asciiLower (t : Text) : asciiLower (asciiLower t) = asciiLower t := by
  rw [asciiLower, asciiLower, List.map_map]
  exact List.map_congr_left fun c _ => toLower_toLower c

theorem asciiLower_append (s t : Text) : asciiLower (s ++ t) = asciiLower s ++ asciiLower t :=
  List.map_append

theorem asciiLower_cons (c : Char) (t : Text) :
    asciiLower (c :: t) = c.toLower :: asciiLower t := rfl

/-- Characters that are no letters stay where they are. -/
theorem mem_asciiLower_iff {t : Text} {d : Char} (hd : d.isAlpha = false) :
    d ∈ asciiLower t ↔ d ∈ t := by
  rw [asciiLower, List.mem_map]
  constructor
  · rintro ⟨c, hc, h⟩
    exact (toLower_eq_iff hd).1 h ▸ hc
  · exact fun h => ⟨d, h, toLower_of_not_isAlpha hd⟩

end BareUrl.Text
