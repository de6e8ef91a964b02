import BareUrl.Text.CharSet

/-!
# `BareUrl.Text.Number`: numeric characters

`isNumber` is the general category N of Unicode 17: decimal digits, letter numbers such as Roman
numerals, and other numerals such as superscripts and fractions.
-/

set_option autoImplicit false

namespace BareUrl.Text

/-- The numeric characters beyond ASCII. -/
def numbersBeyondAscii : CharSet :=
  .node (.node (.node (.node (.node (.node (.node (.node .empty 0xB2 0xB3 .empty) 0xB9 0xB9
  .empty) 0xBC 0xBE (.node .empty 0x660 0x669 .empty)) 0x6F0 0x6F9 (.node (.node (.node .empty
  0x7C0 0x7C9 .empty) 0x966 0x96F .empty) 0x9E6 0x9EF (.node .empty 0x9F4 0x9F9 .empty))) 0xA66
  0xA6F (.node (.node (.node (.node .empty 0xAE6 0xAEF .empty) 0xB66 0xB6F .empty) 0xB72 0xB77
  (.node .empty 0xBE6 0xBF2 .empty)) 0xC66 0xC6F (.node (.node .empty 0xC78 0xC7E .empty) 0xCE6
  0xCEF (.node .empty 0xD58 0xD5E .empty)))) 0xD66 0xD78 (.node (.node (.node (.node (.node
  .empty 0xDE6 0xDEF .empty) 0xE50 0xE59 .empty) 0xED0 0xED9 (.node .empty 0xF20 0xF33 .empty))
  0x1040 0x1049 (.node (.node .empty 0x1090 0x1099 .empty) 0x1369 0x137C (.node .empty 0x16EE
  0x16F0 .empty))) 0x17E0 0x17E9 (.node (.node (.node (.node .empty 0x17F0 0x17F9 .empty)
  0x1810 0x1819 .empty) 0x1946 0x194F (.node .empty 0x19D0 0x19DA .empty)) 0x1A80 0x1A89 (.node
  (.node .empty 0x1A90 0x1A99 .empty) 0x1B50 0x1B59 (.node .empty 0x1BB0 0x1BB9 .empty)))))
  0x1C40 0x1C49 (.node (.node (.node (.node (.node (.node .empty 0x1C50 0x1C59 .empty) 0x2070
  0x2070 .empty) 0x2074 0x2079 (.node .empty 0x2080 0x2089 .empty)) 0x2150 0x2182 (.node (.node
  .empty 0x2185 0x2189 .empty) 0x2460 0x249B (.node .empty 0x24EA 0x24FF .empty))) 0x2776
  0x2793 (.node (.node (.node (.node .empty 0x2CFD 0x2CFD .empty) 0x3007 0x3007 .empty) 0x3021
  0x3029 (.node .empty 0x3038 0x303A .empty)) 0x3192 0x3195 (.node (.node .empty 0x3220 0x3229
  .empty) 0x3248 0x324F (.node .empty 0x3251 0x325F .empty)))) 0x3280 0x3289 (.node (.node
  (.node (.node (.node .empty 0x32B1 0x32BF .empty) 0xA620 0xA629 .empty) 0xA6E6 0xA6EF (.node
  .empty 0xA830 0xA835 .empty)) 0xA8D0 0xA8D9 (.node (.node .empty 0xA900 0xA909 .empty) 0xA9D0
  0xA9D9 (.node .empty 0xA9F0 0xA9F9 .empty))) 0xAA50 0xAA59 (.node (.node (.node (.node .empty
  0xABF0 0xABF9 .empty) 0xFF10 0xFF19 .empty) 0x10107 0x10133 (.node .empty 0x10140 0x10178
  .empty)) 0x1018A 0x1018B (.node (.node .empty 0x102E1 0x102FB .empty) 0x10320 0x10323 (.node
  .empty 0x10341 0x10341 .empty)))))) 0x1034A 0x1034A (.node (.node (.node (.node (.node (.node
  (.node .empty 0x103D1 0x103D5 .empty) 0x104A0 0x104A9 .empty) 0x10858 0x1085F (.node .empty
  0x10879 0x1087F .empty)) 0x108A7 0x108AF (.node (.node (.node .empty 0x108FB 0x108FF .empty)
  0x10916 0x1091B .empty) 0x109BC 0x109BD (.node .empty 0x109C0 0x109CF .empty))) 0x109D2
  0x109FF (.node (.node (.node (.node .empty 0x10A40 0x10A48 .empty) 0x10A7D 0x10A7E .empty)
  0x10A9D 0x10A9F (.node .empty 0x10AEB 0x10AEF .empty)) 0x10B58 0x10B5F (.node (.node .empty
  0x10B78 0x10B7F .empty) 0x10BA9 0x10BAF (.node .empty 0x10CFA 0x10CFF .empty)))) 0x10D30
  0x10D39 (.node (.node (.node (.node (.node .empty 0x10D40 0x10D49 .empty) 0x10E60 0x10E7E
  .empty) 0x10F1D 0x10F26 (.node .empty 0x10F51 0x10F54 .empty)) 0x10FC5 0x10FCB (.node (.node
  .empty 0x11052 0x1106F .empty) 0x110F0 0x110F9 (.node .empty 0x11136 0x1113F .empty)))
  0x111D0 0x111D9 (.node (.node (.node (.node .empty 0x111E1 0x111F4 .empty) 0x112F0 0x112F9
  .empty) 0x11450 0x11459 (.node .empty 0x114D0 0x114D9 .empty)) 0x11650 0x11659 (.node (.node
  .empty 0x116C0 0x116C9 .empty) 0x116D0 0x116E3 (.node .empty 0x11730 0x1173B .empty)))))
  0x118E0 0x118F2 (.node (.node (.node (.node (.node (.node .empty 0x11950 0x11959 .empty)
  0x11BF0 0x11BF9 .empty) 0x11C50 0x11C6C (.node .empty 0x11D50 0x11D59 .empty)) 0x11DA0
  0x11DA9 (.node (.node .empty 0x11DE0 0x11DE9 .empty) 0x11F50 0x11F59 (.node .empty 0x11FC0
  0x11FD4 .empty))) 0x12400 0x1246E (.node (.node (.node (.node .empty 0x16130 0x16139 .empty)
  0x16A60 0x16A69 .empty) 0x16AC0 0x16AC9 (.node .empty 0x16B50 0x16B59 .empty)) 0x16B5B
  0x16B61 (.node (.node .empty 0x16D70 0x16D79 .empty) 0x16E80 0x16E96 (.node .empty 0x16FF4
  0x16FF6 .empty)))) 0x1CCF0 0x1CCF9 (.node (.node (.node (.node (.node .empty 0x1D2C0 0x1D2D3
  .empty) 0x1D2E0 0x1D2F3 .empty) 0x1D360 0x1D378 (.node .empty 0x1D7CE 0x1D7FF .empty))
  0x1E140 0x1E149 (.node (.node .empty 0x1E2F0 0x1E2F9 .empty) 0x1E4F0 0x1E4F9 (.node .empty
  0x1E5F1 0x1E5FA .empty))) 0x1E8C7 0x1E8CF (.node (.node (.node (.node .empty 0x1E950 0x1E959
  .empty) 0x1EC71 0x1ECAB .empty) 0x1ECAD 0x1ECAF (.node .empty 0x1ECB1 0x1ECB4 .empty))
  0x1ED01 0x1ED2D (.node (.node .empty 0x1ED2F 0x1ED3D .empty) 0x1F100 0x1F10C (.node .empty
  0x1FBF0 0x1FBF9 .empty))))))

/-- Numeric characters of every script. -/
def isNumber (c : Char) : Bool :=
  if c.toNat < 0x80 then c.isDigit else numbersBeyondAscii.mem c.toNat

end BareUrl.Text
