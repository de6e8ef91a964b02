import BareUrl.Proofs.Text.Case
import BareUrl.Text.Blank
import BareUrl.Text.Word
import BareUrl.Url.Alphabet

/-!
# `BareUrl.Proofs.Url.Alphabet`: what no part of a URL holds

Each part of a URL has its own class of characters. `isUrlChar` is one class for all of them: it
holds whatever any part holds (`class_of_not_isUrlChar`), so what it leaves out stands in no URL.

`isDelimiter` are the characters that markup and sentences put around a URL. They are few, which
makes it possible to go through them: none of them is a letter, mark or number of any script
(`not_isUrlChar_of_isDelimiter`), nor any other character of a word (`endsWord_delimiter`).
-/

set_option autoImplicit false

namespace BareUrl

/-- Control characters: those of ASCII, the one behind it, and those of the block that follows. -/
def Text.isControl (c : Char) : Bool := c.toNat < 0x20 || (0x7F ≤ c.toNat && c.toNat < 0xA0)

namespace Url

/-! ### The characters of all parts -/

/-- All punctuation that some part of a URL may hold. -/
def urlMarks : List Char := "!*';:=+,.$/%#[]-_~@&?()|".toList

/-- The characters that some part of a URL may hold. -/
def isUrlChar (c : Char) : Bool := isAlphanumeric c || urlMarks.contains c

theorem isLetter_of_isAlpha {c : Char} (h : c.isAlpha = true) : Text.isLetter c = true := by
  -- The letters of ASCII lie in its first half, where both classes are the same.
  have hcode : c.toNat < 0x80 := by
    have := Text.isAlpha_iff.1 h
    omega
  rw [Text.isLetter, if_pos hcode, h]

theorem isNumber_of_isDigit {c : Char} (h : c.isDigit = true) : Text.isNumber c = true := by
  have hcode : c.toNat < 0x80 := by
    have := Text.isDigit_iff.1 h
    omega
  rw [Text.isNumber, if_pos hcode, h]

/-- A character that no part of a URL may hold is in no class, is none of the characters that the
grammar writes out, and stands in no name of a protocol. -/
theorem class_of_not_isUrlChar {c : Char} (h : isUrlChar c = false) :
    isPathChar c = false ∧ isPathEnd c = false ∧ isQueryChar c = false ∧ isQueryEnd c = false ∧
      isLabelChar c = false ∧ isUserChar c = false ∧ Text.isLetter c = false ∧
      c.isDigit = false ∧ c.isAlpha = false ∧ c ∉ urlMarks := by
  rw [isUrlChar, Bool.or_eq_false_iff, isAlphanumeric, Bool.or_eq_false_iff,
    List.contains_eq_mem, decide_eq_false_iff_not] at h
  obtain ⟨⟨hletter, hnumber⟩, hmarks⟩ := h
  have halpha : c.isAlpha = false := by
    refine Bool.eq_false_iff.2 fun hc => ?_
    rw [isLetter_of_isAlpha hc] at hletter
    exact Bool.noConfusion hletter
  have hdigit : c.isDigit = false := by
    refine Bool.eq_false_iff.2 fun hc => ?_
    rw [isNumber_of_isDigit hc] at hnumber
    exact Bool.noConfusion hnumber
  -- The punctuation of each part is among that of all parts.
  have hnone (marks : List Char) (hsub : marks ⊆ urlMarks) :
      marks.contains c = false := by
    rw [List.contains_eq_mem, decide_eq_false_iff_not]
    exact fun hc => hmarks (hsub hc)
  have hpath := hnone pathMarks (by decide)
  have hpathEnd := hnone pathEndMarks (by decide)
  have hquery := hnone queryMarks (by decide)
  have hqueryEnd := hnone queryEndMarks (by decide)
  have hlabel := hnone labelMarks (by decide)
  have huser := hnone userMarks (by decide)
  refine ⟨?_, ?_, ?_, ?_, ?_, ?_, hletter, hdigit, halpha, hmarks⟩
  · rw [isPathChar, isAlphanumeric, hletter, hnumber, hpath]; rfl
  · rw [isPathEnd, isAlphanumeric, hletter, hnumber, hpathEnd]; rfl
  · rw [isQueryChar, isAsciiAlphanumeric, halpha, hdigit, hquery]; rfl
  · rw [isQueryEnd, isAsciiAlphanumeric, halpha, hdigit, hqueryEnd]; rfl
  · rw [isLabelChar, isAlphanumeric, hletter, hnumber, hlabel]; rfl
  · rw [isUserChar, isAlphanumeric, hletter, hnumber, huser]; rfl

/-! ### Delimiters -/

/-- Characters around a URL: angle brackets, the quotation mark, white space and control
characters. -/
def isDelimiter (c : Char) : Bool :=
  c == '<' || c == '>' || c == '"' || Text.isBlank c || Text.isControl c

/-- The code points of the delimiters. -/
def delimiterCodes : List Nat :=
  List.range 0x21 ++ [0x22, 0x3C, 0x3E] ++ List.range' 0x7F 34 ++ 0x1680 :: List.range' 0x2000 11 ++
    [0x2028, 0x2029, 0x202F, 0x205F, 0x3000]

theorem mem_delimiterCodes {c : Char} (h : isDelimiter c = true) : c.toNat ∈ delimiterCodes := by
  simp only [isDelimiter, Text.isControl, Text.isBlank, Bool.or_eq_true, Bool.and_eq_true,
    beq_iff_eq, decide_eq_true_eq] at h
  simp only [delimiterCodes, List.mem_append, List.mem_range, List.mem_range'_1, List.mem_cons,
    List.not_mem_nil, or_false]
  rcases h with (((rfl | rfl) | rfl) | hblank) | hcontrol
  · decide
  · decide
  · decide
  · omega
  · omega

/-- No delimiter stands in any part of a URL, and none continues a word. -/
theorem class_of_isDelimiter {c : Char} (h : isDelimiter c = true) :
    isUrlChar c = false ∧ Text.isWord c = false := by
  have hall : ∀ n ∈ delimiterCodes,
      isUrlChar (Char.ofNat n) = false ∧ Text.isWord (Char.ofNat n) = false := by decide +kernel
  rw [← Char.ofNat_toNat c]
  exact hall c.toNat (mem_delimiterCodes h)

theorem not_isUrlChar_of_isDelimiter {c : Char} (h : isDelimiter c = true) :
    isUrlChar c = false := (class_of_isDelimiter h).1

theorem isDelimiter_of_isBlank {c : Char} (h : Text.isBlank c = true) : isDelimiter c = true := by
  simp [isDelimiter, h]

/-- A word ends in front of a delimiter. -/
theorem endsWord_delimiter {d : Char} (hd : isDelimiter d = true) (t : Text) :
    Text.endsWord (d :: t) = true := by
  show (!Text.isWord d) = true
  rw [(class_of_isDelimiter hd).2]
  rfl

end Url

end BareUrl
