import BareUrl.Text.Basic

/-!
# `BareUrl.Text.Blank`: white space

White space is the Unicode property of that name: the ASCII blanks and line ends, the no-break
spaces, and the spaces and separators of general punctuation. It delimits the name of an element
in its tag and is trimmed off headers and mask tokens.
-/

set_option autoImplicit false

namespace BareUrl.Text

/-- White space. -/
def isBlank (c : Char) : Bool :=
  let n := c.toNat
  (9 ≤ n && n ≤ 13) || n == 0x20 || n == 0x85 || n == 0xA0 || n == 0x1680 ||
    (0x2000 ≤ n && n ≤ 0x200A) || n == 0x2028 || n == 0x2029 || n == 0x202F || n == 0x205F ||
    n == 0x3000

/-- The text without the white space at its start. -/
def trimStart (t : Text) : Text := t.dropWhile isBlank

/-- The text without the white space at its end. -/
def trimEnd (t : Text) : Text := (t.reverse.dropWhile isBlank).reverse

/-- The text without the white space at its two ends. -/
def trim (t : Text) : Text := trimEnd (trimStart t)

/-- What core calls white space is white space here too. -/
theorem isBlank_of_isWhitespace (c : Char) (h : c.isWhitespace = true) : isBlank c = true := by
  simp only [Char.isWhitespace, Bool.or_eq_true, decide_eq_true_eq] at h
  rcases h with ((h | h) | h) | h <;> subst h <;> decide

end BareUrl.Text
