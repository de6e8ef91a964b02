import BareUrl.Text.Letter

/-!
# `BareUrl.Text.Word`: characters of a word

A host name has to end where a word ends. A word is made of letters and marks, decimal digits,
letter numbers, connecting punctuation such as `_`, the two joiners, and the circled and squared
letters that count as alphabetic. Every letter is a word character by definition, which is what
makes a run of letters end exactly where the following character is no word character.
-/

set_option autoImplicit false

namespace BareUrl.Text

/-- The word characters beyond ASCII that are neither letters nor marks. -/
def joinersBeyondAscii : CharSet :=
  .node (.node (.node (.node (.node (.node (.node .empty 0x660 0x669 .empty) 0x6F0 0x6F9
  .empty) 0x7C0 0x7C9 (.node (.node .empty 0x966 0x96F .empty) 0x9E6 0x9EF .empty)) 0xA66 0xA6F
  (.node (.node (.node .empty 0xAE6 0xAEF .empty) 0xB66 0xB6F .empty) 0xBE6 0xBEF (.node (.node
  .empty 0xC66 0xC6F .empty) 0xCE6 0xCEF .empty))) 0xD66 0xD6F (.node (.node (.node (.node
  .empty 0xDE6 0xDEF .empty) 0xE50 0xE59 .empty) 0xED0 0xED9 (.node (.node .empty 0xF20 0xF29
  .empty) 0x1040 0x1049 .empty)) 0x1090 0x1099 (.node (.node (.node .empty 0x16EE 0x16F0
  .empty) 0x17E0 0x17E9 .empty) 0x1810 0x1819 (.node (.node .empty 0x1946 0x194F .empty) 0x19D0
  0x19D9 .empty)))) 0x1A80 0x1A89 (.node (.node (.node (.node (.node .empty 0x1A90 0x1A99
  .empty) 0x1B50 0x1B59 .empty) 0x1BB0 0x1BB9 (.node (.node .empty 0x1C40 0x1C49 .empty) 0x1C50
  0x1C59 .empty)) 0x200C 0x200D (.node (.node (.node .empty 0x203F 0x2040 .empty) 0x2054 0x2054
  .empty) 0x2160 0x2182 (.node (.node .empty 0x2185 0x2188 .empty) 0x24B6 0x24E9 .empty)))
  0x3007 0x3007 (.node (.node (.node (.node .empty 0x3021 0x3029 .empty) 0x3038 0x303A .empty)
  0xA620 0xA629 (.node (.node .empty 0xA6E6 0xA6EF .empty) 0xA8D0 0xA8D9 .empty)) 0xA900 0xA909
  (.node (.node (.node .empty 0xA9D0 0xA9D9 .empty) 0xA9F0 0xA9F9 .empty) 0xAA50 0xAA59 (.node
  (.node .empty 0xABF0 0xABF9 .empty) 0xFE33 0xFE34 .empty))))) 0xFE4D 0xFE4F (.node (.node
  (.node (.node (.node (.node .empty 0xFF10 0xFF19 .empty) 0xFF3F 0xFF3F .empty) 0x10140
  0x10174 (.node (.node .empty 0x10341 0x10341 .empty) 0x1034A 0x1034A .empty)) 0x103D1 0x103D5
  (.node (.node (.node .empty 0x104A0 0x104A9 .empty) 0x10D30 0x10D39 .empty) 0x10D40 0x10D49
  (.node (.node .empty 0x11066 0x1106F .empty) 0x110F0 0x110F9 .empty))) 0x11136 0x1113F (.node
  (.node (.node (.node .empty 0x111D0 0x111D9 .empty) 0x112F0 0x112F9 .empty) 0x11450 0x11459
  (.node (.node .empty 0x114D0 0x114D9 .empty) 0x11650 0x11659 .empty)) 0x116C0 0x116C9 (.node
  (.node (.node .empty 0x116D0 0x116E3 .empty) 0x11730 0x11739 .empty) 0x118E0 0x118E9 (.node
  (.node .empty 0x11950 0x11959 .empty) 0x11BF0 0x11BF9 .empty)))) 0x11C50 0x11C59 (.node
  (.node (.node (.node (.node .empty 0x11D50 0x11D59 .empty) 0x11DA0 0x11DA9 .empty) 0x11DE0
  0x11DE9 (.node (.node .empty 0x11F50 0x11F59 .empty) 0x12400 0x1246E .empty)) 0x16130 0x16139
  (.node (.node (.node .empty 0x16A60 0x16A69 .empty) 0x16AC0 0x16AC9 .empty) 0x16B50 0x16B59
  (.node (.node .empty 0x16D70 0x16D79 .empty) 0x16FF4 0x16FF6 .empty))) 0x1CCF0 0x1CCF9 (.node
  (.node (.node (.node .empty 0x1D7CE 0x1D7FF .empty) 0x1E140 0x1E149 .empty) 0x1E2F0 0x1E2F9
  (.node (.node .empty 0x1E4F0 0x1E4F9 .empty) 0x1E5F1 0x1E5FA .empty)) 0x1E950 0x1E959 (.node
  (.node (.node .empty 0x1F130 0x1F149 .empty) 0x1F150 0x1F169 .empty) 0x1F170 0x1F189 (.node
  .empty 0x1FBF0 0x1FBF9 .empty)))))

/-- Characters that continue a word. -/
def isWord (c : Char) : Bool :=
  isLetter c ||
    (if c.toNat < 0x80 then c.isDigit || c == '_' else joinersBeyondAscii.mem c.toNat)

/-- `true` if a word that ends right before the text really ends there. -/
def endsWord : Text → Bool
  | [] => true
  | c :: _ => !isWord c

theorem isWord_of_isLetter (c : Char) (h : isLetter c = true) : isWord c = true := by
  simp [isWord, h]

end BareUrl.Text
