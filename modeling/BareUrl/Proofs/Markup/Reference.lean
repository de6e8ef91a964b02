import BareUrl.Markup.Reference
import BareUrl.Proofs.Text.Case
import BareUrl.Proofs.Text.Reader

/-!
# `BareUrl.Proofs.Markup.Reference`: complete character references

A reference stands for a character by a number or by a name, and `Reference.Valid` says how each of
them is written. Its body ends in front of the first character that is no letter, digit or number
sign (`Reference.class_of_mem_body`), and so a `;` behind it is the only one that can close it. The
search for references at a place finds exactly those that are valid: `Reference.here_eq_some_iff`.
-/

set_option autoImplicit false

namespace BareUrl.Text

theorem isAlphanum_of_isDigit {c : Char} (h : c.isDigit = true) : c.isAlphanum = true := by
  rw [Char.isAlphanum, h, Bool.or_true]

theorem isAlphanum_of_isAlpha {c : Char} (h : c.isAlpha = true) : c.isAlphanum = true := by
  rw [Char.isAlphanum, h, Bool.true_or]

theorem isAlphanum_of_isHexadecimal {c : Char} (h : Digits.isHexadecimal c = true) :
    c.isAlphanum = true := by
  rw [Digits.isHexadecimal, Digits.value?] at h
  split at h
  · rename_i hdigit
    exact isAlphanum_of_isDigit hdigit
  · split at h
    · rename_i hsmall
      have hlow : 97 ≤ c.toNat := UInt32.le_iff_toNat_le.1 hsmall.1
      have hhigh : c.toNat ≤ 102 := UInt32.le_iff_toNat_le.1 hsmall.2
      exact isAlphanum_of_isAlpha (isAlpha_iff.2 (.inr ⟨hlow, by omega⟩))
    · split at h
      · rename_i hcapital
        have hlow : 65 ≤ c.toNat := UInt32.le_iff_toNat_le.1 hcapital.1
        have hhigh : c.toNat ≤ 70 := UInt32.le_iff_toNat_le.1 hcapital.2
        exact isAlphanum_of_isAlpha (isAlpha_iff.2 (.inl ⟨hlow, by omega⟩))
      · exact absurd h Bool.noConfusion

/-- Texts are different if one starts with a character of a class and the other with one that is
not in it. -/
theorem cons_ne_cons {f : Char → Bool} {c d : Char} {x y : Text} (hc : f c = true)
    (hd : f d = false) : c :: x ≠ d :: y := by
  intro h
  rw [(List.cons.inj h).1, hd] at hc
  exact Bool.noConfusion hc

end BareUrl.Text

namespace BareUrl.Markup.Reference

variable {r : Reference} {t y : Text}

/-- The reference is written as one: decimal digits, an `x` and hexadecimal digits, or a letter and
letters and digits. -/
def Valid : Reference → Prop
  | .decimal digits => digits ≠ [] ∧ digits.all Char.isDigit = true
  | .hexadecimal mark digits =>
    (mark = 'x' ∨ mark = 'X') ∧ digits ≠ [] ∧ digits.all Text.Digits.isHexadecimal = true
  | .named name => name.head?.any Char.isAlpha = true ∧ name.all Char.isAlphanum = true

instance : (r : Reference) → Decidable r.Valid
  | .decimal digits => inferInstanceAs (Decidable (digits ≠ [] ∧ digits.all Char.isDigit = true))
  | .hexadecimal mark digits =>
    inferInstanceAs (Decidable ((mark = 'x' ∨ mark = 'X') ∧ digits ≠ [] ∧
      digits.all Text.Digits.isHexadecimal = true))
  | .named name =>
    inferInstanceAs (Decidable (name.head?.any Char.isAlpha = true ∧
      name.all Char.isAlphanum = true))

/-- Between the `&` and the `;` there are letters, digits and the number sign. -/
theorem class_of_mem_body (h : r.Valid) {c : Char} (hc : c ∈ r.body) :
    c = '#' ∨ c.isAlphanum = true := by
  cases r with
  | decimal digits =>
      rcases List.mem_cons.1 hc with rfl | hc
      · exact .inl rfl
      · exact .inr (Text.isAlphanum_of_isDigit (List.all_eq_true.1 h.2 c hc))
  | hexadecimal mark digits =>
      obtain ⟨hmark, -, hdigits⟩ := h
      rcases List.mem_cons.1 hc with rfl | hc
      · exact .inl rfl
      · rcases List.mem_cons.1 hc with rfl | hc
        · rcases hmark with rfl | rfl
          · exact .inr (by decide)
          · exact .inr (by decide)
        · exact .inr (Text.isAlphanum_of_isHexadecimal (List.all_eq_true.1 hdigits c hc))
  | named name => exact .inr (List.all_eq_true.1 h.2 c hc)

/-- What starts and what closes a reference is not in its body. -/
theorem not_mem_body (h : r.Valid) : '&' ∉ r.body ∧ ';' ∉ r.body := by
  constructor
  · intro hmem
    rcases class_of_mem_body h hmem with hc | hc <;> exact absurd hc (by decide)
  · intro hmem
    rcases class_of_mem_body h hmem with hc | hc <;> exact absurd hc (by decide)

/-! ### Reading -/

theorem ofDigits_append {isDigit : Char → Bool} {make : Text → Reference} {digits : Text}
    (hne : digits ≠ []) (hdigits : digits.all isDigit = true) (hy : Reader.Stops isDigit y) :
    ofDigits isDigit make (digits ++ y) = some (make digits, y) := by
  have hall := List.all_eq_true.1 hdigits
  rw [ofDigits, Reader.takeWhile_eq hall hy, Reader.dropWhile_eq hall hy, if_neg hne]

theorem read_append (h : r.Valid) (y : Text) : read (r.body ++ ';' :: y) = some (r, ';' :: y) := by
  have hstops {f : Char → Bool} (hf : f ';' = false) : Reader.Stops f (';' :: y) :=
    Reader.stops_cons.2 hf
  cases r with
  | decimal digits =>
      obtain ⟨hne, hdigits⟩ := h
      obtain ⟨d, ds, rfl⟩ := List.exists_cons_of_ne_nil hne
      have hd : d.isDigit = true := List.all_eq_true.1 hdigits d List.mem_cons_self
      -- A digit is not taken for the mark of a hexadecimal number.
      show read ('#' :: d :: (ds ++ ';' :: y)) = _
      rw [read]
      · exact ofDigits_append hne hdigits (hstops (by decide))
      · exact fun _ => Text.cons_ne_cons hd (by decide)
      · exact fun _ => Text.cons_ne_cons hd (by decide)
  | hexadecimal mark digits =>
      obtain ⟨hmark, hne, hdigits⟩ := h
      rcases hmark with rfl | rfl
      · exact ofDigits_append hne hdigits (hstops (by decide))
      · exact ofDigits_append hne hdigits (hstops (by decide))
  | named name =>
      obtain ⟨hhead, hall⟩ := h
      cases name with
      | nil => exact absurd hhead (by simp)
      | cons c rest =>
          have hc : c.isAlpha = true := hhead
          have hrest : ∀ d ∈ rest, d.isAlphanum = true :=
            fun d hd => List.all_eq_true.1 hall d (List.mem_cons_of_mem c hd)
          show read (c :: (rest ++ ';' :: y)) = _
          rw [read]
          · rw [if_pos hc, Reader.takeWhile_eq hrest (hstops (by decide)),
              Reader.dropWhile_eq hrest (hstops (by decide))]
          · rintro rfl
            exact absurd hc (by decide)

theorem valid_of_ofDigits {isDigit : Char → Bool} {make : Text → Reference}
    (h : ofDigits isDigit make t = some (r, y)) :
    ∃ digits, r = make digits ∧ digits ≠ [] ∧ digits.all isDigit = true := by
  rw [ofDigits] at h
  split at h
  · exact absurd h (by simp)
  · rename_i hne
    obtain ⟨rfl, -⟩ := Prod.mk.inj (Option.some.inj h)
    exact ⟨_, rfl, hne, List.all_takeWhile⟩

theorem valid_of_read (h : read t = some (r, y)) : r.Valid := by
  rw [read.eq_def] at h
  split at h
  · exact absurd h (by simp)
  · split at h
    · obtain ⟨digits, rfl, hdigits⟩ := valid_of_ofDigits h
      exact ⟨.inl rfl, hdigits⟩
    · obtain ⟨digits, rfl, hdigits⟩ := valid_of_ofDigits h
      exact ⟨.inr rfl, hdigits⟩
    · obtain ⟨digits, rfl, hdigits⟩ := valid_of_ofDigits h
      exact hdigits
  · split at h
    · rename_i hc
      obtain ⟨rfl, -⟩ := Prod.mk.inj (Option.some.inj h)
      refine ⟨hc, ?_⟩
      rw [List.all_cons, Text.isAlphanum_of_isAlpha hc, List.all_takeWhile]
      rfl
    · exact absurd h (by simp)

/-- A reference stands at the start of a text exactly if a valid one is written there. -/
theorem here_eq_some_iff :
    (∃ hlt, here t = some ⟨r, y, hlt⟩) ↔ r.Valid ∧ t = r.written ++ y := by
  constructor
  · rintro ⟨hlt, h⟩
    rw [here.eq_def] at h
    split at h
    · exact absurd h (by simp)
    · split at h
      · rename_i hamp
        split at h
        · rename_i hread
          obtain ⟨rfl, rfl⟩ := Start.mk.inj (Option.some.inj h)
          refine ⟨valid_of_read hread, ?_⟩
          rw [hamp, read_eq_some hread, written]
          simp
        · exact absurd h (by simp)
      · exact absurd h (by simp)
  · rintro ⟨hr, rfl⟩
    have hread : read (r.body ++ [';'] ++ y) = some (r, ';' :: y) := by
      rw [List.append_assoc]
      exact read_append hr y
    have hlt : y.length < ('&' :: (r.body ++ [';'] ++ y)).length := by
      simp only [List.length_cons, List.length_append]
      omega
    refine ⟨hlt, ?_⟩
    show here ('&' :: (r.body ++ [';'] ++ y)) = _
    rw [here.eq_def]
    dsimp only
    rw [if_pos rfl]
    split
    · rename_i hread'
      obtain ⟨rfl, hrest⟩ := Prod.mk.inj (Option.some.inj (hread.symm.trans hread'))
      obtain ⟨-, rfl⟩ := List.cons.inj hrest
      rfl
    · rename_i hnone
      exact absurd hread (hnone r y)

end BareUrl.Markup.Reference
