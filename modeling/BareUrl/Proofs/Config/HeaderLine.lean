import BareUrl.Config.HeaderLine
import BareUrl.Proofs.Text.Case
import BareUrl.Proofs.Text.Search

/-!
# `BareUrl.Proofs.Config.HeaderLine`: a header that is written in one line can be read

The name of a header holds neither colons nor white space, so the first colon of a line is behind
it, and the blank behind that is no part of the value (`read_written`).
-/

set_option autoImplicit false

namespace BareUrl

/-- A text without white space has none at its ends. -/
theorem Text.trim_of_not_isBlank {t : Text} (h : ∀ c ∈ t, Text.isBlank c = false) :
    Text.trim t = t := by
  have hstart : ∀ t : Text, (∀ c ∈ t, Text.isBlank c = false) → t.dropWhile Text.isBlank = t := by
    intro t ht
    cases t with
    | nil => rfl
    | cons c t => rw [List.dropWhile_cons_of_neg (by rw [ht c List.mem_cons_self]; decide)]
  rw [Text.trim, Text.trimStart, hstart t h, Text.trimEnd,
    hstart t.reverse fun c hc => h c (List.mem_reverse.1 hc), List.reverse_reverse]

namespace Exchange.Header

/-- The characters of names are visible. -/
theorem range_of_isNameChar {c : Char} (h : isNameChar c = true) :
    0x21 ≤ c.toNat ∧ c.toNat ≤ 0x7E := by
  rw [isNameChar, Bool.or_eq_true, Char.isAlphanum, Bool.or_eq_true, Text.isAlpha_iff,
    Text.isDigit_iff] at h
  rcases h with (h | h) | h
  · omega
  · omega
  · have hall : "!#$%&'*+-.^_`|~".toList.all (fun d => 0x21 ≤ d.toNat ∧ d.toNat ≤ 0x7E) = true := by
      decide
    exact of_decide_eq_true (List.all_eq_true.1 hall c (List.elem_iff.1 h))

theorem not_isBlank_of_isNameChar {c : Char} (h : isNameChar c = true) :
    Text.isBlank c = false := by
  obtain ⟨hlow, hhigh⟩ := range_of_isNameChar h
  simp only [Text.isBlank, Bool.or_eq_false_iff, Bool.and_eq_false_iff, decide_eq_false_iff_not,
    beq_eq_false_iff_ne]
  omega

theorem isNameChar_of_isName {name : Text} (h : isName name = true) :
    ∀ c ∈ name, isNameChar c = true := by
  rw [isName, Bool.and_eq_true, Bool.and_eq_true] at h
  exact List.all_eq_true.1 h.1.2

end Exchange.Header

namespace HeaderLine

open Exchange (Header)

/-- A header is written as its name, a colon, a blank and its value. -/
def written (h : Text × Text) : Text := h.1 ++ ':' :: ' ' :: h.2

theorem read_written {h : Text × Text} (hname : Header.isName h.1 = true)
    (hvalue : Header.isValue h.2 = true) (hplain : Header.isPlain h.2 = true)
    (htrim : Text.trim h.2 = h.2) : read (written h) = .ok (Text.asciiLower h.1, h.2) := by
  have hchars := Header.isNameChar_of_isName hname
  have hcolon : ':' ∉ h.1 := fun hmem => absurd (hchars ':' hmem) (by decide)
  have hcut : Text.cut [':'] (written h) = some (h.1, ' ' :: h.2) :=
    Text.cut_singleton_eq_some_iff.2 ⟨rfl, hcolon⟩
  have hfront : Text.trim h.1 = h.1 :=
    Text.trim_of_not_isBlank fun c hc => Header.not_isBlank_of_isNameChar (hchars c hc)
  have hback : Text.trim (' ' :: h.2) = h.2 := htrim
  simp only [read, hcut, hfront, hback, hname, hvalue, hplain, if_true]

end HeaderLine

end BareUrl
