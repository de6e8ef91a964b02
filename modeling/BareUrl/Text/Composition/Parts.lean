import BareUrl.Text.CodeMap

/-!
# `BareUrl.Text.Composition.Parts`: characters and what they are composed of

Which letters with marks are written as a base letter and marks when they are taken apart, and
which base and mark make one character.
-/

set_option autoImplicit false

namespace BareUrl.Text.Composition

/-- The parts of a composed character. -/
def parts : Text.CodeMap (List Nat) :=
  .node (.node (.node (.node (.node (.node (.node (.node (.node (.node .empty 0xE0 [0x61, 0x300]
  .empty) 0xE1 [0x61, 0x301] .empty) 0xE2 [0x61, 0x302] (.node .empty 0xE3 [0x61, 0x303] .empty))
  0xE4 [0x61, 0x308] (.node (.node .empty 0xE5 [0x61, 0x30A] .empty) 0xE7 [0x63, 0x327] (.node
  .empty 0xE8 [0x65, 0x300] .empty))) 0xE9 [0x65, 0x301] (.node (.node (.node .empty 0xEA
  [0x65, 0x302] .empty) 0xEB [0x65, 0x308] (.node .empty 0xEC [0x69, 0x300] .empty)) 0xED
  [0x69, 0x301] (.node (.node .empty 0xEE [0x69, 0x302] .empty) 0xEF [0x69, 0x308] (.node .empty
  0xF1 [0x6E, 0x303] .empty)))) 0xF2 [0x6F, 0x300] (.node (.node (.node (.node (.node .empty 0xF3
  [0x6F, 0x301] .empty) 0xF4 [0x6F, 0x302] .empty) 0xF5 [0x6F, 0x303] (.node .empty 0xF6
  [0x6F, 0x308] .empty)) 0xF9 [0x75, 0x300] (.node (.node .empty 0xFA [0x75, 0x301] .empty) 0xFB
  [0x75, 0x302] (.node .empty 0xFC [0x75, 0x308] .empty))) 0xFD [0x79, 0x301] (.node (.node
  (.node .empty 0xFF [0x79, 0x308] .empty) 0x101 [0x61, 0x304] (.node .empty 0x103 [0x61, 0x306]
  .empty)) 0x105 [0x61, 0x328] (.node (.node .empty 0x107 [0x63, 0x301] .empty) 0x109
  [0x63, 0x302] (.node .empty 0x10B [0x63, 0x307] .empty))))) 0x10D [0x63, 0x30C] (.node (.node
  (.node (.node (.node (.node .empty 0x10F [0x64, 0x30C] .empty) 0x113 [0x65, 0x304] .empty)
  0x115 [0x65, 0x306] (.node .empty 0x117 [0x65, 0x307] .empty)) 0x119 [0x65, 0x328] (.node
  (.node .empty 0x11B [0x65, 0x30C] .empty) 0x11D [0x67, 0x302] (.node .empty 0x11F [0x67, 0x306]
  .empty))) 0x121 [0x67, 0x307] (.node (.node (.node .empty 0x123 [0x67, 0x327] .empty) 0x125
  [0x68, 0x302] (.node .empty 0x129 [0x69, 0x303] .empty)) 0x12B [0x69, 0x304] (.node (.node
  .empty 0x12D [0x69, 0x306] .empty) 0x12F [0x69, 0x328] (.node .empty 0x135 [0x6A, 0x302]
  .empty)))) 0x137 [0x6B, 0x327] (.node (.node (.node (.node (.node .empty 0x13A [0x6C, 0x301]
  .empty) 0x13C [0x6C, 0x327] .empty) 0x13E [0x6C, 0x30C] (.node .empty 0x144 [0x6E, 0x301]
  .empty)) 0x146 [0x6E, 0x327] (.node (.node .empty 0x148 [0x6E, 0x30C] .empty) 0x14D
  [0x6F, 0x304] (.node .empty 0x14F [0x6F, 0x306] .empty))) 0x151 [0x6F, 0x30B] (.node (.node
  (.node .empty 0x155 [0x72, 0x301] .empty) 0x157 [0x72, 0x327] (.node .empty 0x159 [0x72, 0x30C]
  .empty)) 0x15B [0x73, 0x301] (.node (.node .empty 0x15D [0x73, 0x302] .empty) 0x15F
  [0x73, 0x327] (.node .empty 0x161 [0x73, 0x30C] .empty)))))) 0x163 [0x74, 0x327] (.node (.node
  (.node (.node (.node (.node (.node .empty 0x165 [0x74, 0x30C] .empty) 0x169 [0x75, 0x303]
  .empty) 0x16B [0x75, 0x304] (.node .empty 0x16D [0x75, 0x306] .empty)) 0x16F [0x75, 0x30A]
  (.node (.node .empty 0x171 [0x75, 0x30B] .empty) 0x173 [0x75, 0x328] (.node .empty 0x175
  [0x77, 0x302] .empty))) 0x177 [0x79, 0x302] (.node (.node (.node .empty 0x17A [0x7A, 0x301]
  .empty) 0x17C [0x7A, 0x307] (.node .empty 0x17E [0x7A, 0x30C] .empty)) 0x1A1 [0x6F, 0x31B]
  (.node (.node .empty 0x1B0 [0x75, 0x31B] .empty) 0x1CE [0x61, 0x30C] (.node .empty 0x1D0
  [0x69, 0x30C] .empty)))) 0x1D2 [0x6F, 0x30C] (.node (.node (.node (.node (.node .empty 0x1D4
  [0x75, 0x30C] .empty) 0x1D6 [0x75, 0x308, 0x304] .empty) 0x1D8 [0x75, 0x308, 0x301] (.node
  .empty 0x1DA [0x75, 0x308, 0x30C] .empty)) 0x1DC [0x75, 0x308, 0x300] (.node (.node .empty
  0x1DF [0x61, 0x308, 0x304] .empty) 0x1E1 [0x61, 0x307, 0x304] (.node .empty 0x1E3 [0xE6, 0x304]
  .empty))) 0x1E7 [0x67, 0x30C] (.node (.node (.node .empty 0x1E9 [0x6B, 0x30C] .empty) 0x1EB
  [0x6F, 0x328] (.node .empty 0x1ED [0x6F, 0x328, 0x304] .empty)) 0x1EF [0x292, 0x30C] (.node
  (.node .empty 0x1F0 [0x6A, 0x30C] .empty) 0x1F5 [0x67, 0x301] (.node .empty 0x1F9 [0x6E, 0x300]
  .empty))))) 0x1FB [0x61, 0x30A, 0x301] (.node (.node (.node (.node (.node (.node .empty 0x1FD
  [0xE6, 0x301] .empty) 0x1FF [0xF8, 0x301] .empty) 0x201 [0x61, 0x30F] (.node .empty 0x203
  [0x61, 0x311] .empty)) 0x205 [0x65, 0x30F] (.node (.node .empty 0x207 [0x65, 0x311] .empty)
  0x209 [0x69, 0x30F] (.node .empty 0x20B [0x69, 0x311] .empty))) 0x20D [0x6F, 0x30F] (.node
  (.node (.node .empty 0x20F [0x6F, 0x311] .empty) 0x211 [0x72, 0x30F] (.node .empty 0x213
  [0x72, 0x311] .empty)) 0x215 [0x75, 0x30F] (.node (.node .empty 0x217 [0x75, 0x311] .empty)
  0x219 [0x73, 0x326] (.node .empty 0x21B [0x74, 0x326] .empty)))) 0x21F [0x68, 0x30C] (.node
  (.node (.node (.node (.node .empty 0x227 [0x61, 0x307] .empty) 0x229 [0x65, 0x327] .empty)
  0x22B [0x6F, 0x308, 0x304] (.node .empty 0x22D [0x6F, 0x303, 0x304] .empty)) 0x22F
  [0x6F, 0x307] (.node (.node .empty 0x231 [0x6F, 0x307, 0x304] .empty) 0x233 [0x79, 0x304]
  (.node .empty 0x390 [0x3B9, 0x308, 0x301] .empty))) 0x3AC [0x3B1, 0x301] (.node (.node (.node
  .empty 0x3AD [0x3B5, 0x301] .empty) 0x3AE [0x3B7, 0x301] (.node .empty 0x3AF [0x3B9, 0x301]
  .empty)) 0x3B0 [0x3C5, 0x308, 0x301] (.node (.node .empty 0x3CA [0x3B9, 0x308] .empty) 0x3CB
  [0x3C5, 0x308] (.node .empty 0x3CC [0x3BF, 0x301] .empty))))))) 0x3CD [0x3C5, 0x301] (.node
  (.node (.node (.node (.node (.node (.node (.node .empty 0x3CE [0x3C9, 0x301] .empty) 0x439
  [0x438, 0x306] .empty) 0x450 [0x435, 0x300] (.node .empty 0x451 [0x435, 0x308] .empty)) 0x453
  [0x433, 0x301] (.node (.node .empty 0x457 [0x456, 0x308] .empty) 0x45C [0x43A, 0x301] (.node
  .empty 0x45D [0x438, 0x300] .empty))) 0x45E [0x443, 0x306] (.node (.node (.node .empty 0x477
  [0x475, 0x30F] .empty) 0x4C2 [0x436, 0x306] (.node .empty 0x4D1 [0x430, 0x306] .empty)) 0x4D3
  [0x430, 0x308] (.node (.node .empty 0x4D7 [0x435, 0x306] .empty) 0x4DB [0x4D9, 0x308] (.node
  .empty 0x4DD [0x436, 0x308] .empty)))) 0x4DF [0x437, 0x308] (.node (.node (.node (.node (.node
  .empty 0x4E3 [0x438, 0x304] .empty) 0x4E5 [0x438, 0x308] .empty) 0x4E7 [0x43E, 0x308] (.node
  .empty 0x4EB [0x4E9, 0x308] .empty)) 0x4ED [0x44D, 0x308] (.node (.node .empty 0x4EF
  [0x443, 0x304] .empty) 0x4F1 [0x443, 0x308] (.node .empty 0x4F3 [0x443, 0x30B] .empty))) 0x4F5
  [0x447, 0x308] (.node (.node (.node .empty 0x4F9 [0x44B, 0x308] .empty) 0x622 [0x627, 0x653]
  (.node .empty 0x623 [0x627, 0x654] .empty)) 0x624 [0x648, 0x654] (.node (.node .empty 0x625
  [0x627, 0x655] .empty) 0x626 [0x64A, 0x654] (.node .empty 0x6C0 [0x6D5, 0x654] .empty)))))
  0x6C2 [0x6C1, 0x654] (.node (.node (.node (.node (.node (.node .empty 0x6D3 [0x6D2, 0x654]
  .empty) 0x929 [0x928, 0x93C] .empty) 0x931 [0x930, 0x93C] (.node .empty 0x934 [0x933, 0x93C]
  .empty)) 0x9CB [0x9C7, 0x9BE] (.node (.node .empty 0x9CC [0x9C7, 0x9D7] .empty) 0xB48
  [0xB47, 0xB56] (.node .empty 0xB4B [0xB47, 0xB3E] .empty))) 0xB4C [0xB47, 0xB57] (.node (.node
  (.node .empty 0xB94 [0xB92, 0xBD7] .empty) 0xBCA [0xBC6, 0xBBE] (.node .empty 0xBCB
  [0xBC7, 0xBBE] .empty)) 0xBCC [0xBC6, 0xBD7] (.node (.node .empty 0xC48 [0xC46, 0xC56] .empty)
  0xCC0 [0xCBF, 0xCD5] (.node .empty 0xCC7 [0xCC6, 0xCD5] .empty)))) 0xCC8 [0xCC6, 0xCD6] (.node
  (.node (.node (.node (.node .empty 0xCCA [0xCC6, 0xCC2] .empty) 0xCCB [0xCC6, 0xCC2, 0xCD5]
  .empty) 0xD4A [0xD46, 0xD3E] (.node .empty 0xD4B [0xD47, 0xD3E] .empty)) 0xD4C [0xD46, 0xD57]
  (.node (.node .empty 0xDDA [0xDD9, 0xDCA] .empty) 0xDDC [0xDD9, 0xDCF] (.node .empty 0xDDD
  [0xDD9, 0xDCF, 0xDCA] .empty))) 0xDDE [0xDD9, 0xDDF] (.node (.node (.node .empty 0x1026
  [0x1025, 0x102E] .empty) 0x1B06 [0x1B05, 0x1B35] (.node .empty 0x1B08 [0x1B07, 0x1B35] .empty))
  0x1B0A [0x1B09, 0x1B35] (.node (.node .empty 0x1B0C [0x1B0B, 0x1B35] .empty) 0x1B0E
  [0x1B0D, 0x1B35] (.node .empty 0x1B12 [0x1B11, 0x1B35] .empty)))))) 0x1B3B [0x1B3A, 0x1B35]
  (.node (.node (.node (.node (.node (.node (.node .empty 0x1B3D [0x1B3C, 0x1B35] .empty) 0x1B40
  [0x1B3E, 0x1B35] .empty) 0x1B41 [0x1B3F, 0x1B35] (.node .empty 0x1B43 [0x1B42, 0x1B35] .empty))
  0x1E01 [0x61, 0x325] (.node (.node .empty 0x1E03 [0x62, 0x307] .empty) 0x1E05 [0x62, 0x323]
  (.node .empty 0x1E07 [0x62, 0x331] .empty))) 0x1E09 [0x63, 0x327, 0x301] (.node (.node (.node
  .empty 0x1E0B [0x64, 0x307] .empty) 0x1E0D [0x64, 0x323] (.node .empty 0x1E0F [0x64, 0x331]
  .empty)) 0x1E11 [0x64, 0x327] (.node (.node .empty 0x1E13 [0x64, 0x32D] .empty) 0x1E15
  [0x65, 0x304, 0x300] (.node .empty 0x1E17 [0x65, 0x304, 0x301] .empty)))) 0x1E19 [0x65, 0x32D]
  (.node (.node (.node (.node (.node .empty 0x1E1B [0x65, 0x330] .empty) 0x1E1D
  [0x65, 0x327, 0x306] .empty) 0x1E1F [0x66, 0x307] (.node .empty 0x1E21 [0x67, 0x304] .empty))
  0x1E23 [0x68, 0x307] (.node (.node .empty 0x1E25 [0x68, 0x323] .empty) 0x1E27 [0x68, 0x308]
  (.node .empty 0x1E29 [0x68, 0x327] .empty))) 0x1E2B [0x68, 0x32E] (.node (.node (.node .empty
  0x1E2D [0x69, 0x330] .empty) 0x1E2F [0x69, 0x308, 0x301] (.node .empty 0x1E31 [0x6B, 0x301]
  .empty)) 0x1E33 [0x6B, 0x323] (.node (.node .empty 0x1E35 [0x6B, 0x331] .empty) 0x1E37
  [0x6C, 0x323] (.node .empty 0x1E39 [0x6C, 0x323, 0x304] .empty))))) 0x1E3B [0x6C, 0x331] (.node
  (.node (.node (.node (.node (.node .empty 0x1E3D [0x6C, 0x32D] .empty) 0x1E3F [0x6D, 0x301]
  .empty) 0x1E41 [0x6D, 0x307] (.node .empty 0x1E43 [0x6D, 0x323] .empty)) 0x1E45 [0x6E, 0x307]
  (.node (.node .empty 0x1E47 [0x6E, 0x323] .empty) 0x1E49 [0x6E, 0x331] (.node .empty 0x1E4B
  [0x6E, 0x32D] .empty))) 0x1E4D [0x6F, 0x303, 0x301] (.node (.node (.node .empty 0x1E4F
  [0x6F, 0x303, 0x308] .empty) 0x1E51 [0x6F, 0x304, 0x300] (.node .empty 0x1E53
  [0x6F, 0x304, 0x301] .empty)) 0x1E55 [0x70, 0x301] (.node (.node .empty 0x1E57 [0x70, 0x307]
  .empty) 0x1E59 [0x72, 0x307] (.node .empty 0x1E5B [0x72, 0x323] .empty)))) 0x1E5D
  [0x72, 0x323, 0x304] (.node (.node (.node (.node (.node .empty 0x1E5F [0x72, 0x331] .empty)
  0x1E61 [0x73, 0x307] .empty) 0x1E63 [0x73, 0x323] (.node .empty 0x1E65 [0x73, 0x301, 0x307]
  .empty)) 0x1E67 [0x73, 0x30C, 0x307] (.node (.node .empty 0x1E69 [0x73, 0x323, 0x307] .empty)
  0x1E6B [0x74, 0x307] (.node .empty 0x1E6D [0x74, 0x323] .empty))) 0x1E6F [0x74, 0x331] (.node
  (.node (.node .empty 0x1E71 [0x74, 0x32D] .empty) 0x1E73 [0x75, 0x324] (.node .empty 0x1E75
  [0x75, 0x330] .empty)) 0x1E77 [0x75, 0x32D] (.node (.node .empty 0x1E79 [0x75, 0x303, 0x301]
  .empty) 0x1E7B [0x75, 0x304, 0x308] (.node .empty 0x1E7D [0x76, 0x303] .empty)))))))) 0x1E7F
  [0x76, 0x323] (.node (.node (.node (.node (.node (.node (.node (.node (.node .empty 0x1E81
  [0x77, 0x300] .empty) 0x1E83 [0x77, 0x301] .empty) 0x1E85 [0x77, 0x308] (.node .empty 0x1E87
  [0x77, 0x307] .empty)) 0x1E89 [0x77, 0x323] (.node (.node .empty 0x1E8B [0x78, 0x307] .empty)
  0x1E8D [0x78, 0x308] (.node .empty 0x1E8F [0x79, 0x307] .empty))) 0x1E91 [0x7A, 0x302] (.node
  (.node (.node .empty 0x1E93 [0x7A, 0x323] .empty) 0x1E95 [0x7A, 0x331] (.node .empty 0x1E96
  [0x68, 0x331] .empty)) 0x1E97 [0x74, 0x308] (.node (.node .empty 0x1E98 [0x77, 0x30A] .empty)
  0x1E99 [0x79, 0x30A] (.node .empty 0x1EA1 [0x61, 0x323] .empty)))) 0x1EA3 [0x61, 0x309] (.node
  (.node (.node (.node (.node .empty 0x1EA5 [0x61, 0x302, 0x301] .empty) 0x1EA7
  [0x61, 0x302, 0x300] .empty) 0x1EA9 [0x61, 0x302, 0x309] (.node .empty 0x1EAB
  [0x61, 0x302, 0x303] .empty)) 0x1EAD [0x61, 0x323, 0x302] (.node (.node .empty 0x1EAF
  [0x61, 0x306, 0x301] .empty) 0x1EB1 [0x61, 0x306, 0x300] (.node .empty 0x1EB3
  [0x61, 0x306, 0x309] .empty))) 0x1EB5 [0x61, 0x306, 0x303] (.node (.node (.node .empty 0x1EB7
  [0x61, 0x323, 0x306] .empty) 0x1EB9 [0x65, 0x323] (.node .empty 0x1EBB [0x65, 0x309] .empty))
  0x1EBD [0x65, 0x303] (.node (.node .empty 0x1EBF [0x65, 0x302, 0x301] .empty) 0x1EC1
  [0x65, 0x302, 0x300] (.node .empty 0x1EC3 [0x65, 0x302, 0x309] .empty))))) 0x1EC5
  [0x65, 0x302, 0x303] (.node (.node (.node (.node (.node (.node .empty 0x1EC7
  [0x65, 0x323, 0x302] .empty) 0x1EC9 [0x69, 0x309] .empty) 0x1ECB [0x69, 0x323] (.node .empty
  0x1ECD [0x6F, 0x323] .empty)) 0x1ECF [0x6F, 0x309] (.node (.node .empty 0x1ED1
  [0x6F, 0x302, 0x301] .empty) 0x1ED3 [0x6F, 0x302, 0x300] (.node .empty 0x1ED5
  [0x6F, 0x302, 0x309] .empty))) 0x1ED7 [0x6F, 0x302, 0x303] (.node (.node (.node .empty 0x1ED9
  [0x6F, 0x323, 0x302] .empty) 0x1EDB [0x6F, 0x31B, 0x301] (.node .empty 0x1EDD
  [0x6F, 0x31B, 0x300] .empty)) 0x1EDF [0x6F, 0x31B, 0x309] (.node (.node .empty 0x1EE1
  [0x6F, 0x31B, 0x303] .empty) 0x1EE3 [0x6F, 0x31B, 0x323] (.node .empty 0x1EE5 [0x75, 0x323]
  .empty)))) 0x1EE7 [0x75, 0x309] (.node (.node (.node (.node (.node .empty 0x1EE9
  [0x75, 0x31B, 0x301] .empty) 0x1EEB [0x75, 0x31B, 0x300] .empty) 0x1EED [0x75, 0x31B, 0x309]
  (.node .empty 0x1EEF [0x75, 0x31B, 0x303] .empty)) 0x1EF1 [0x75, 0x31B, 0x323] (.node (.node
  .empty 0x1EF3 [0x79, 0x300] .empty) 0x1EF5 [0x79, 0x323] (.node .empty 0x1EF7 [0x79, 0x309]
  .empty))) 0x1EF9 [0x79, 0x303] (.node (.node (.node .empty 0x1F00 [0x3B1, 0x313] .empty) 0x1F01
  [0x3B1, 0x314] (.node .empty 0x1F02 [0x3B1, 0x313, 0x300] .empty)) 0x1F03 [0x3B1, 0x314, 0x300]
  (.node (.node .empty 0x1F04 [0x3B1, 0x313, 0x301] .empty) 0x1F05 [0x3B1, 0x314, 0x301] (.node
  .empty 0x1F06 [0x3B1, 0x313, 0x342] .empty)))))) 0x1F07 [0x3B1, 0x314, 0x342] (.node (.node
  (.node (.node (.node (.node (.node .empty 0x1F10 [0x3B5, 0x313] .empty) 0x1F11 [0x3B5, 0x314]
  .empty) 0x1F12 [0x3B5, 0x313, 0x300] (.node .empty 0x1F13 [0x3B5, 0x314, 0x300] .empty)) 0x1F14
  [0x3B5, 0x313, 0x301] (.node (.node .empty 0x1F15 [0x3B5, 0x314, 0x301] .empty) 0x1F20
  [0x3B7, 0x313] (.node .empty 0x1F21 [0x3B7, 0x314] .empty))) 0x1F22 [0x3B7, 0x313, 0x300]
  (.node (.node (.node .empty 0x1F23 [0x3B7, 0x314, 0x300] .empty) 0x1F24 [0x3B7, 0x313, 0x301]
  (.node .empty 0x1F25 [0x3B7, 0x314, 0x301] .empty)) 0x1F26 [0x3B7, 0x313, 0x342] (.node (.node
  .empty 0x1F27 [0x3B7, 0x314, 0x342] .empty) 0x1F30 [0x3B9, 0x313] (.node .empty 0x1F31
  [0x3B9, 0x314] .empty)))) 0x1F32 [0x3B9, 0x313, 0x300] (.node (.node (.node (.node (.node
  .empty 0x1F33 [0x3B9, 0x314, 0x300] .empty) 0x1F34 [0x3B9, 0x313, 0x301] .empty) 0x1F35
  [0x3B9, 0x314, 0x301] (.node .empty 0x1F36 [0x3B9, 0x313, 0x342] .empty)) 0x1F37
  [0x3B9, 0x314, 0x342] (.node (.node .empty 0x1F40 [0x3BF, 0x313] .empty) 0x1F41 [0x3BF, 0x314]
  (.node .empty 0x1F42 [0x3BF, 0x313, 0x300] .empty))) 0x1F43 [0x3BF, 0x314, 0x300] (.node (.node
  (.node .empty 0x1F44 [0x3BF, 0x313, 0x301] .empty) 0x1F45 [0x3BF, 0x314, 0x301] (.node .empty
  0x1F50 [0x3C5, 0x313] .empty)) 0x1F51 [0x3C5, 0x314] (.node (.node .empty 0x1F52
  [0x3C5, 0x313, 0x300] .empty) 0x1F53 [0x3C5, 0x314, 0x300] (.node .empty 0x1F54
  [0x3C5, 0x313, 0x301] .empty))))) 0x1F55 [0x3C5, 0x314, 0x301] (.node (.node (.node (.node
  (.node (.node .empty 0x1F56 [0x3C5, 0x313, 0x342] .empty) 0x1F57 [0x3C5, 0x314, 0x342] .empty)
  0x1F60 [0x3C9, 0x313] (.node .empty 0x1F61 [0x3C9, 0x314] .empty)) 0x1F62 [0x3C9, 0x313, 0x300]
  (.node (.node .empty 0x1F63 [0x3C9, 0x314, 0x300] .empty) 0x1F64 [0x3C9, 0x313, 0x301] (.node
  .empty 0x1F65 [0x3C9, 0x314, 0x301] .empty))) 0x1F66 [0x3C9, 0x313, 0x342] (.node (.node (.node
  .empty 0x1F67 [0x3C9, 0x314, 0x342] .empty) 0x1F70 [0x3B1, 0x300] (.node .empty 0x1F72
  [0x3B5, 0x300] .empty)) 0x1F74 [0x3B7, 0x300] (.node (.node .empty 0x1F76 [0x3B9, 0x300]
  .empty) 0x1F78 [0x3BF, 0x300] (.node .empty 0x1F7A [0x3C5, 0x300] .empty)))) 0x1F7C
  [0x3C9, 0x300] (.node (.node (.node (.node (.node .empty 0x1FB0 [0x3B1, 0x306] .empty) 0x1FB1
  [0x3B1, 0x304] .empty) 0x1FB6 [0x3B1, 0x342] (.node .empty 0x1FC6 [0x3B7, 0x342] .empty))
  0x1FD0 [0x3B9, 0x306] (.node (.node .empty 0x1FD1 [0x3B9, 0x304] .empty) 0x1FD2
  [0x3B9, 0x308, 0x300] (.node .empty 0x1FD6 [0x3B9, 0x342] .empty))) 0x1FD7
  [0x3B9, 0x308, 0x342] (.node (.node (.node .empty 0x1FE0 [0x3C5, 0x306] .empty) 0x1FE1
  [0x3C5, 0x304] (.node .empty 0x1FE2 [0x3C5, 0x308, 0x300] .empty)) 0x1FE4 [0x3C1, 0x313] (.node
  (.node .empty 0x1FE5 [0x3C1, 0x314] .empty) 0x1FE6 [0x3C5, 0x342] (.node .empty 0x1FE7
  [0x3C5, 0x308, 0x342] .empty))))))) 0x1FF6 [0x3C9, 0x342] (.node (.node (.node (.node (.node
  (.node (.node (.node .empty 0x219A [0x2190, 0x338] .empty) 0x219B [0x2192, 0x338] .empty)
  0x21AE [0x2194, 0x338] (.node .empty 0x21CD [0x21D0, 0x338] .empty)) 0x21CE [0x21D4, 0x338]
  (.node (.node .empty 0x21CF [0x21D2, 0x338] .empty) 0x2204 [0x2203, 0x338] (.node .empty 0x2209
  [0x2208, 0x338] .empty))) 0x220C [0x220B, 0x338] (.node (.node (.node .empty 0x2224
  [0x2223, 0x338] .empty) 0x2226 [0x2225, 0x338] (.node .empty 0x2241 [0x223C, 0x338] .empty))
  0x2244 [0x2243, 0x338] (.node (.node .empty 0x2247 [0x2245, 0x338] .empty) 0x2249
  [0x2248, 0x338] (.node .empty 0x2260 [0x3D, 0x338] .empty)))) 0x2262 [0x2261, 0x338] (.node
  (.node (.node (.node (.node .empty 0x226D [0x224D, 0x338] .empty) 0x226E [0x3C, 0x338] .empty)
  0x226F [0x3E, 0x338] (.node .empty 0x2270 [0x2264, 0x338] .empty)) 0x2271 [0x2265, 0x338]
  (.node (.node .empty 0x2274 [0x2272, 0x338] .empty) 0x2275 [0x2273, 0x338] (.node .empty 0x2278
  [0x2276, 0x338] .empty))) 0x2279 [0x2277, 0x338] (.node (.node (.node .empty 0x2280
  [0x227A, 0x338] .empty) 0x2281 [0x227B, 0x338] (.node .empty 0x2284 [0x2282, 0x338] .empty))
  0x2285 [0x2283, 0x338] (.node (.node .empty 0x2288 [0x2286, 0x338] .empty) 0x2289
  [0x2287, 0x338] (.node .empty 0x22AC [0x22A2, 0x338] .empty))))) 0x22AD [0x22A8, 0x338] (.node
  (.node (.node (.node (.node (.node .empty 0x22AE [0x22A9, 0x338] .empty) 0x22AF [0x22AB, 0x338]
  .empty) 0x22E0 [0x227C, 0x338] (.node .empty 0x22E1 [0x227D, 0x338] .empty)) 0x22E2
  [0x2291, 0x338] (.node (.node .empty 0x22E3 [0x2292, 0x338] .empty) 0x22EA [0x22B2, 0x338]
  (.node .empty 0x22EB [0x22B3, 0x338] .empty))) 0x22EC [0x22B4, 0x338] (.node (.node (.node
  .empty 0x22ED [0x22B5, 0x338] .empty) 0x304C [0x304B, 0x3099] (.node .empty 0x304E
  [0x304D, 0x3099] .empty)) 0x3050 [0x304F, 0x3099] (.node (.node .empty 0x3052 [0x3051, 0x3099]
  .empty) 0x3054 [0x3053, 0x3099] (.node .empty 0x3056 [0x3055, 0x3099] .empty)))) 0x3058
  [0x3057, 0x3099] (.node (.node (.node (.node (.node .empty 0x305A [0x3059, 0x3099] .empty)
  0x305C [0x305B, 0x3099] .empty) 0x305E [0x305D, 0x3099] (.node .empty 0x3060 [0x305F, 0x3099]
  .empty)) 0x3062 [0x3061, 0x3099] (.node (.node .empty 0x3065 [0x3064, 0x3099] .empty) 0x3067
  [0x3066, 0x3099] (.node .empty 0x3069 [0x3068, 0x3099] .empty))) 0x3070 [0x306F, 0x3099] (.node
  (.node (.node .empty 0x3071 [0x306F, 0x309A] .empty) 0x3073 [0x3072, 0x3099] (.node .empty
  0x3074 [0x3072, 0x309A] .empty)) 0x3076 [0x3075, 0x3099] (.node (.node .empty 0x3077
  [0x3075, 0x309A] .empty) 0x3079 [0x3078, 0x3099] (.node .empty 0x307A [0x3078, 0x309A]
  .empty)))))) 0x307C [0x307B, 0x3099] (.node (.node (.node (.node (.node (.node (.node .empty
  0x307D [0x307B, 0x309A] .empty) 0x3094 [0x3046, 0x3099] .empty) 0x309E [0x309D, 0x3099] (.node
  .empty 0x30AC [0x30AB, 0x3099] .empty)) 0x30AE [0x30AD, 0x3099] (.node (.node .empty 0x30B0
  [0x30AF, 0x3099] .empty) 0x30B2 [0x30B1, 0x3099] (.node .empty 0x30B4 [0x30B3, 0x3099]
  .empty))) 0x30B6 [0x30B5, 0x3099] (.node (.node (.node .empty 0x30B8 [0x30B7, 0x3099] .empty)
  0x30BA [0x30B9, 0x3099] (.node .empty 0x30BC [0x30BB, 0x3099] .empty)) 0x30BE [0x30BD, 0x3099]
  (.node (.node .empty 0x30C0 [0x30BF, 0x3099] .empty) 0x30C2 [0x30C1, 0x3099] (.node .empty
  0x30C5 [0x30C4, 0x3099] .empty)))) 0x30C7 [0x30C6, 0x3099] (.node (.node (.node (.node (.node
  .empty 0x30C9 [0x30C8, 0x3099] .empty) 0x30D0 [0x30CF, 0x3099] .empty) 0x30D1 [0x30CF, 0x309A]
  (.node .empty 0x30D3 [0x30D2, 0x3099] .empty)) 0x30D4 [0x30D2, 0x309A] (.node (.node .empty
  0x30D6 [0x30D5, 0x3099] .empty) 0x30D7 [0x30D5, 0x309A] (.node .empty 0x30D9 [0x30D8, 0x3099]
  .empty))) 0x30DA [0x30D8, 0x309A] (.node (.node (.node .empty 0x30DC [0x30DB, 0x3099] .empty)
  0x30DD [0x30DB, 0x309A] (.node .empty 0x30F4 [0x30A6, 0x3099] .empty)) 0x30F7 [0x30EF, 0x3099]
  (.node (.node .empty 0x30F8 [0x30F0, 0x3099] .empty) 0x30F9 [0x30F1, 0x3099] (.node .empty
  0x30FA [0x30F2, 0x3099] .empty))))) 0x30FE [0x30FD, 0x3099] (.node (.node (.node (.node (.node
  (.node .empty 0x105C9 [0x105D2, 0x307] .empty) 0x105E4 [0x105DA, 0x307] .empty) 0x1109A
  [0x11099, 0x110BA] (.node .empty 0x1109C [0x1109B, 0x110BA] .empty)) 0x110AB [0x110A5, 0x110BA]
  (.node (.node .empty 0x1112E [0x11131, 0x11127] .empty) 0x1112F [0x11132, 0x11127] (.node
  .empty 0x1134B [0x11347, 0x1133E] .empty))) 0x1134C [0x11347, 0x11357] (.node (.node (.node
  .empty 0x11383 [0x11382, 0x113C9] .empty) 0x11385 [0x11384, 0x113BB] (.node .empty 0x1138E
  [0x1138B, 0x113C2] .empty)) 0x11391 [0x11390, 0x113C9] (.node (.node .empty 0x113C5
  [0x113C2, 0x113C2] .empty) 0x113C7 [0x113C2, 0x113B8] (.node .empty 0x113C8 [0x113C2, 0x113C9]
  .empty)))) 0x114BB [0x114B9, 0x114BA] (.node (.node (.node (.node (.node .empty 0x114BC
  [0x114B9, 0x114B0] .empty) 0x114BE [0x114B9, 0x114BD] .empty) 0x115BA [0x115B8, 0x115AF] (.node
  .empty 0x115BB [0x115B9, 0x115AF] .empty)) 0x11938 [0x11935, 0x11930] (.node (.node .empty
  0x16121 [0x1611E, 0x1611E] .empty) 0x16122 [0x1611E, 0x16129] (.node .empty 0x16123
  [0x1611E, 0x1611F] .empty))) 0x16124 [0x16129, 0x1611F] (.node (.node (.node .empty 0x16125
  [0x1611E, 0x16120] .empty) 0x16126 [0x1611E, 0x1611E, 0x1611F] (.node .empty 0x16127
  [0x1611E, 0x16129, 0x1611F] .empty)) 0x16128 [0x1611E, 0x1611E, 0x16120] (.node (.node .empty
  0x16D68 [0x16D67, 0x16D67] .empty) 0x16D69 [0x16D63, 0x16D67] (.node .empty 0x16D6A
  [0x16D63, 0x16D67, 0x16D67] .empty))))))))

/-- The number of a pair of code points. -/
def pairKey (a b : Nat) : Nat := a * 0x1000000 + b

/-- The character that a pair makes. -/
def pairs : Text.CodeMap Nat :=
  .node (.node (.node (.node (.node (.node (.node (.node (.node (.node .empty 0x3C000338 0x226E
  .empty) 0x3D000338 0x2260 .empty) 0x3E000338 0x226F (.node .empty 0x61000300 0xE0 .empty))
  0x61000301 0xE1 (.node (.node .empty 0x61000302 0xE2 .empty) 0x61000303 0xE3 (.node .empty
  0x61000304 0x101 .empty))) 0x61000306 0x103 (.node (.node (.node .empty 0x61000307 0x227
  .empty) 0x61000308 0xE4 (.node .empty 0x61000309 0x1EA3 .empty)) 0x6100030A 0xE5 (.node (.node
  .empty 0x6100030C 0x1CE .empty) 0x6100030F 0x201 (.node .empty 0x61000311 0x203 .empty))))
  0x61000323 0x1EA1 (.node (.node (.node (.node (.node .empty 0x61000325 0x1E01 .empty)
  0x61000328 0x105 .empty) 0x62000307 0x1E03 (.node .empty 0x62000323 0x1E05 .empty)) 0x62000331
  0x1E07 (.node (.node .empty 0x63000301 0x107 .empty) 0x63000302 0x109 (.node .empty 0x63000307
  0x10B .empty))) 0x6300030C 0x10D (.node (.node (.node .empty 0x63000327 0xE7 .empty) 0x64000307
  0x1E0B (.node .empty 0x6400030C 0x10F .empty)) 0x64000323 0x1E0D (.node (.node .empty
  0x64000327 0x1E11 .empty) 0x6400032D 0x1E13 (.node .empty 0x64000331 0x1E0F .empty)))))
  0x65000300 0xE8 (.node (.node (.node (.node (.node (.node .empty 0x65000301 0xE9 .empty)
  0x65000302 0xEA .empty) 0x65000303 0x1EBD (.node .empty 0x65000304 0x113 .empty)) 0x65000306
  0x115 (.node (.node .empty 0x65000307 0x117 .empty) 0x65000308 0xEB (.node .empty 0x65000309
  0x1EBB .empty))) 0x6500030C 0x11B (.node (.node (.node .empty 0x6500030F 0x205 .empty)
  0x65000311 0x207 (.node .empty 0x65000323 0x1EB9 .empty)) 0x65000327 0x229 (.node (.node .empty
  0x65000328 0x119 .empty) 0x6500032D 0x1E19 (.node .empty 0x65000330 0x1E1B .empty))))
  0x66000307 0x1E1F (.node (.node (.node (.node (.node .empty 0x67000301 0x1F5 .empty) 0x67000302
  0x11D .empty) 0x67000304 0x1E21 (.node .empty 0x67000306 0x11F .empty)) 0x67000307 0x121 (.node
  (.node .empty 0x6700030C 0x1E7 .empty) 0x67000327 0x123 (.node .empty 0x68000302 0x125
  .empty))) 0x68000307 0x1E23 (.node (.node (.node .empty 0x68000308 0x1E27 .empty) 0x6800030C
  0x21F (.node .empty 0x68000323 0x1E25 .empty)) 0x68000327 0x1E29 (.node (.node .empty
  0x6800032E 0x1E2B .empty) 0x68000331 0x1E96 (.node .empty 0x69000300 0xEC .empty))))))
  0x69000301 0xED (.node (.node (.node (.node (.node (.node (.node .empty 0x69000302 0xEE .empty)
  0x69000303 0x129 .empty) 0x69000304 0x12B (.node .empty 0x69000306 0x12D .empty)) 0x69000308
  0xEF (.node (.node .empty 0x69000309 0x1EC9 .empty) 0x6900030C 0x1D0 (.node .empty 0x6900030F
  0x209 .empty))) 0x69000311 0x20B (.node (.node (.node .empty 0x69000323 0x1ECB .empty)
  0x69000328 0x12F (.node .empty 0x69000330 0x1E2D .empty)) 0x6A000302 0x135 (.node (.node .empty
  0x6A00030C 0x1F0 .empty) 0x6B000301 0x1E31 (.node .empty 0x6B00030C 0x1E9 .empty)))) 0x6B000323
  0x1E33 (.node (.node (.node (.node (.node .empty 0x6B000327 0x137 .empty) 0x6B000331 0x1E35
  .empty) 0x6C000301 0x13A (.node .empty 0x6C00030C 0x13E .empty)) 0x6C000323 0x1E37 (.node
  (.node .empty 0x6C000327 0x13C .empty) 0x6C00032D 0x1E3D (.node .empty 0x6C000331 0x1E3B
  .empty))) 0x6D000301 0x1E3F (.node (.node (.node .empty 0x6D000307 0x1E41 .empty) 0x6D000323
  0x1E43 (.node .empty 0x6E000300 0x1F9 .empty)) 0x6E000301 0x144 (.node (.node .empty 0x6E000303
  0xF1 .empty) 0x6E000307 0x1E45 (.node .empty 0x6E00030C 0x148 .empty))))) 0x6E000323 0x1E47
  (.node (.node (.node (.node (.node (.node .empty 0x6E000327 0x146 .empty) 0x6E00032D 0x1E4B
  .empty) 0x6E000331 0x1E49 (.node .empty 0x6F000300 0xF2 .empty)) 0x6F000301 0xF3 (.node (.node
  .empty 0x6F000302 0xF4 .empty) 0x6F000303 0xF5 (.node .empty 0x6F000304 0x14D .empty)))
  0x6F000306 0x14F (.node (.node (.node .empty 0x6F000307 0x22F .empty) 0x6F000308 0xF6 (.node
  .empty 0x6F000309 0x1ECF .empty)) 0x6F00030B 0x151 (.node (.node .empty 0x6F00030C 0x1D2
  .empty) 0x6F00030F 0x20D (.node .empty 0x6F000311 0x20F .empty)))) 0x6F00031B 0x1A1 (.node
  (.node (.node (.node (.node .empty 0x6F000323 0x1ECD .empty) 0x6F000328 0x1EB .empty)
  0x70000301 0x1E55 (.node .empty 0x70000307 0x1E57 .empty)) 0x72000301 0x155 (.node (.node
  .empty 0x72000307 0x1E59 .empty) 0x7200030C 0x159 (.node .empty 0x7200030F 0x211 .empty)))
  0x72000311 0x213 (.node (.node (.node .empty 0x72000323 0x1E5B .empty) 0x72000327 0x157 (.node
  .empty 0x72000331 0x1E5F .empty)) 0x73000301 0x15B (.node (.node .empty 0x73000302 0x15D
  .empty) 0x73000307 0x1E61 (.node .empty 0x7300030C 0x161 .empty))))))) 0x73000323 0x1E63 (.node
  (.node (.node (.node (.node (.node (.node (.node .empty 0x73000326 0x219 .empty) 0x73000327
  0x15F .empty) 0x74000307 0x1E6B (.node .empty 0x74000308 0x1E97 .empty)) 0x7400030C 0x165
  (.node (.node .empty 0x74000323 0x1E6D .empty) 0x74000326 0x21B (.node .empty 0x74000327 0x163
  .empty))) 0x7400032D 0x1E71 (.node (.node (.node .empty 0x74000331 0x1E6F .empty) 0x75000300
  0xF9 (.node .empty 0x75000301 0xFA .empty)) 0x75000302 0xFB (.node (.node .empty 0x75000303
  0x169 .empty) 0x75000304 0x16B (.node .empty 0x75000306 0x16D .empty)))) 0x75000308 0xFC (.node
  (.node (.node (.node (.node .empty 0x75000309 0x1EE7 .empty) 0x7500030A 0x16F .empty)
  0x7500030B 0x171 (.node .empty 0x7500030C 0x1D4 .empty)) 0x7500030F 0x215 (.node (.node .empty
  0x75000311 0x217 .empty) 0x7500031B 0x1B0 (.node .empty 0x75000323 0x1EE5 .empty))) 0x75000324
  0x1E73 (.node (.node (.node .empty 0x75000328 0x173 .empty) 0x7500032D 0x1E77 (.node .empty
  0x75000330 0x1E75 .empty)) 0x76000303 0x1E7D (.node (.node .empty 0x76000323 0x1E7F .empty)
  0x77000300 0x1E81 (.node .empty 0x77000301 0x1E83 .empty))))) 0x77000302 0x175 (.node (.node
  (.node (.node (.node (.node .empty 0x77000307 0x1E87 .empty) 0x77000308 0x1E85 .empty)
  0x7700030A 0x1E98 (.node .empty 0x77000323 0x1E89 .empty)) 0x78000307 0x1E8B (.node (.node
  .empty 0x78000308 0x1E8D .empty) 0x79000300 0x1EF3 (.node .empty 0x79000301 0xFD .empty)))
  0x79000302 0x177 (.node (.node (.node .empty 0x79000303 0x1EF9 .empty) 0x79000304 0x233 (.node
  .empty 0x79000307 0x1E8F .empty)) 0x79000308 0xFF (.node (.node .empty 0x79000309 0x1EF7
  .empty) 0x7900030A 0x1E99 (.node .empty 0x79000323 0x1EF5 .empty)))) 0x7A000301 0x17A (.node
  (.node (.node (.node (.node .empty 0x7A000302 0x1E91 .empty) 0x7A000307 0x17C .empty)
  0x7A00030C 0x17E (.node .empty 0x7A000323 0x1E93 .empty)) 0x7A000331 0x1E95 (.node (.node
  .empty 0xE2000300 0x1EA7 .empty) 0xE2000301 0x1EA5 (.node .empty 0xE2000303 0x1EAB .empty)))
  0xE2000309 0x1EA9 (.node (.node (.node .empty 0xE4000304 0x1DF .empty) 0xE5000301 0x1FB (.node
  .empty 0xE6000301 0x1FD .empty)) 0xE6000304 0x1E3 (.node (.node .empty 0xE7000301 0x1E09
  .empty) 0xEA000300 0x1EC1 (.node .empty 0xEA000301 0x1EBF .empty)))))) 0xEA000303 0x1EC5 (.node
  (.node (.node (.node (.node (.node (.node .empty 0xEA000309 0x1EC3 .empty) 0xEF000301 0x1E2F
  .empty) 0xF4000300 0x1ED3 (.node .empty 0xF4000301 0x1ED1 .empty)) 0xF4000303 0x1ED7 (.node
  (.node .empty 0xF4000309 0x1ED5 .empty) 0xF5000301 0x1E4D (.node .empty 0xF5000304 0x22D
  .empty))) 0xF5000308 0x1E4F (.node (.node (.node .empty 0xF6000304 0x22B .empty) 0xF8000301
  0x1FF (.node .empty 0xFC000300 0x1DC .empty)) 0xFC000301 0x1D8 (.node (.node .empty 0xFC000304
  0x1D6 .empty) 0xFC00030C 0x1DA (.node .empty 0x103000300 0x1EB1 .empty)))) 0x103000301 0x1EAF
  (.node (.node (.node (.node (.node .empty 0x103000303 0x1EB5 .empty) 0x103000309 0x1EB3 .empty)
  0x113000300 0x1E15 (.node .empty 0x113000301 0x1E17 .empty)) 0x14D000300 0x1E51 (.node (.node
  .empty 0x14D000301 0x1E53 .empty) 0x15B000307 0x1E65 (.node .empty 0x161000307 0x1E67 .empty)))
  0x169000301 0x1E79 (.node (.node (.node .empty 0x16B000308 0x1E7B .empty) 0x1A1000300 0x1EDD
  (.node .empty 0x1A1000301 0x1EDB .empty)) 0x1A1000303 0x1EE1 (.node (.node .empty 0x1A1000309
  0x1EDF .empty) 0x1A1000323 0x1EE3 (.node .empty 0x1B0000300 0x1EEB .empty))))) 0x1B0000301
  0x1EE9 (.node (.node (.node (.node (.node (.node .empty 0x1B0000303 0x1EEF .empty) 0x1B0000309
  0x1EED .empty) 0x1B0000323 0x1EF1 (.node .empty 0x1EB000304 0x1ED .empty)) 0x227000304 0x1E1
  (.node (.node .empty 0x229000306 0x1E1D .empty) 0x22F000304 0x231 (.node .empty 0x29200030C
  0x1EF .empty))) 0x3B1000300 0x1F70 (.node (.node (.node .empty 0x3B1000301 0x3AC .empty)
  0x3B1000304 0x1FB1 (.node .empty 0x3B1000306 0x1FB0 .empty)) 0x3B1000313 0x1F00 (.node (.node
  .empty 0x3B1000314 0x1F01 .empty) 0x3B1000342 0x1FB6 (.node .empty 0x3B5000300 0x1F72
  .empty)))) 0x3B5000301 0x3AD (.node (.node (.node (.node (.node .empty 0x3B5000313 0x1F10
  .empty) 0x3B5000314 0x1F11 .empty) 0x3B7000300 0x1F74 (.node .empty 0x3B7000301 0x3AE .empty))
  0x3B7000313 0x1F20 (.node (.node .empty 0x3B7000314 0x1F21 .empty) 0x3B7000342 0x1FC6 (.node
  .empty 0x3B9000300 0x1F76 .empty))) 0x3B9000301 0x3AF (.node (.node (.node .empty 0x3B9000304
  0x1FD1 .empty) 0x3B9000306 0x1FD0 (.node .empty 0x3B9000308 0x3CA .empty)) 0x3B9000313 0x1F30
  (.node (.node .empty 0x3B9000314 0x1F31 .empty) 0x3B9000342 0x1FD6 (.node .empty 0x3BF000300
  0x1F78 .empty)))))))) 0x3BF000301 0x3CC (.node (.node (.node (.node (.node (.node (.node (.node
  (.node .empty 0x3BF000313 0x1F40 .empty) 0x3BF000314 0x1F41 .empty) 0x3C1000313 0x1FE4 (.node
  .empty 0x3C1000314 0x1FE5 .empty)) 0x3C5000300 0x1F7A (.node (.node .empty 0x3C5000301 0x3CD
  .empty) 0x3C5000304 0x1FE1 (.node .empty 0x3C5000306 0x1FE0 .empty))) 0x3C5000308 0x3CB (.node
  (.node (.node .empty 0x3C5000313 0x1F50 .empty) 0x3C5000314 0x1F51 (.node .empty 0x3C5000342
  0x1FE6 .empty)) 0x3C9000300 0x1F7C (.node (.node .empty 0x3C9000301 0x3CE .empty) 0x3C9000313
  0x1F60 (.node .empty 0x3C9000314 0x1F61 .empty)))) 0x3C9000342 0x1FF6 (.node (.node (.node
  (.node (.node .empty 0x3CA000300 0x1FD2 .empty) 0x3CA000301 0x390 .empty) 0x3CA000342 0x1FD7
  (.node .empty 0x3CB000300 0x1FE2 .empty)) 0x3CB000301 0x3B0 (.node (.node .empty 0x3CB000342
  0x1FE7 .empty) 0x430000306 0x4D1 (.node .empty 0x430000308 0x4D3 .empty))) 0x433000301 0x453
  (.node (.node (.node .empty 0x435000300 0x450 .empty) 0x435000306 0x4D7 (.node .empty
  0x435000308 0x451 .empty)) 0x436000306 0x4C2 (.node (.node .empty 0x436000308 0x4DD .empty)
  0x437000308 0x4DF (.node .empty 0x438000300 0x45D .empty))))) 0x438000304 0x4E3 (.node (.node
  (.node (.node (.node (.node .empty 0x438000306 0x439 .empty) 0x438000308 0x4E5 .empty)
  0x43A000301 0x45C (.node .empty 0x43E000308 0x4E7 .empty)) 0x443000304 0x4EF (.node (.node
  .empty 0x443000306 0x45E .empty) 0x443000308 0x4F1 (.node .empty 0x44300030B 0x4F3 .empty)))
  0x447000308 0x4F5 (.node (.node (.node .empty 0x44B000308 0x4F9 .empty) 0x44D000308 0x4ED
  (.node .empty 0x456000308 0x457 .empty)) 0x47500030F 0x477 (.node (.node .empty 0x4D9000308
  0x4DB .empty) 0x4E9000308 0x4EB (.node .empty 0x627000653 0x622 .empty)))) 0x627000654 0x623
  (.node (.node (.node (.node (.node .empty 0x627000655 0x625 .empty) 0x648000654 0x624 .empty)
  0x64A000654 0x626 (.node .empty 0x6C1000654 0x6C2 .empty)) 0x6D2000654 0x6D3 (.node (.node
  .empty 0x6D5000654 0x6C0 .empty) 0x92800093C 0x929 (.node .empty 0x93000093C 0x931 .empty)))
  0x93300093C 0x934 (.node (.node (.node .empty 0x9C70009BE 0x9CB .empty) 0x9C70009D7 0x9CC
  (.node .empty 0xB47000B3E 0xB4B .empty)) 0xB47000B56 0xB48 (.node (.node .empty 0xB47000B57
  0xB4C .empty) 0xB92000BD7 0xB94 (.node .empty 0xBC6000BBE 0xBCA .empty)))))) 0xBC6000BD7 0xBCC
  (.node (.node (.node (.node (.node (.node (.node .empty 0xBC7000BBE 0xBCB .empty) 0xC46000C56
  0xC48 .empty) 0xCBF000CD5 0xCC0 (.node .empty 0xCC6000CC2 0xCCA .empty)) 0xCC6000CD5 0xCC7
  (.node (.node .empty 0xCC6000CD6 0xCC8 .empty) 0xCCA000CD5 0xCCB (.node .empty 0xD46000D3E
  0xD4A .empty))) 0xD46000D57 0xD4C (.node (.node (.node .empty 0xD47000D3E 0xD4B .empty)
  0xDD9000DCA 0xDDA (.node .empty 0xDD9000DCF 0xDDC .empty)) 0xDD9000DDF 0xDDE (.node (.node
  .empty 0xDDC000DCA 0xDDD .empty) 0x102500102E 0x1026 (.node .empty 0x1B05001B35 0x1B06
  .empty)))) 0x1B07001B35 0x1B08 (.node (.node (.node (.node (.node .empty 0x1B09001B35 0x1B0A
  .empty) 0x1B0B001B35 0x1B0C .empty) 0x1B0D001B35 0x1B0E (.node .empty 0x1B11001B35 0x1B12
  .empty)) 0x1B3A001B35 0x1B3B (.node (.node .empty 0x1B3C001B35 0x1B3D .empty) 0x1B3E001B35
  0x1B40 (.node .empty 0x1B3F001B35 0x1B41 .empty))) 0x1B42001B35 0x1B43 (.node (.node (.node
  .empty 0x1E37000304 0x1E39 .empty) 0x1E5B000304 0x1E5D (.node .empty 0x1E63000307 0x1E69
  .empty)) 0x1EA1000302 0x1EAD (.node (.node .empty 0x1EA1000306 0x1EB7 .empty) 0x1EB9000302
  0x1EC7 (.node .empty 0x1ECD000302 0x1ED9 .empty))))) 0x1F00000300 0x1F02 (.node (.node (.node
  (.node (.node (.node .empty 0x1F00000301 0x1F04 .empty) 0x1F00000342 0x1F06 .empty)
  0x1F01000300 0x1F03 (.node .empty 0x1F01000301 0x1F05 .empty)) 0x1F01000342 0x1F07 (.node
  (.node .empty 0x1F10000300 0x1F12 .empty) 0x1F10000301 0x1F14 (.node .empty 0x1F11000300 0x1F13
  .empty))) 0x1F11000301 0x1F15 (.node (.node (.node .empty 0x1F20000300 0x1F22 .empty)
  0x1F20000301 0x1F24 (.node .empty 0x1F20000342 0x1F26 .empty)) 0x1F21000300 0x1F23 (.node
  (.node .empty 0x1F21000301 0x1F25 .empty) 0x1F21000342 0x1F27 (.node .empty 0x1F30000300 0x1F32
  .empty)))) 0x1F30000301 0x1F34 (.node (.node (.node (.node (.node .empty 0x1F30000342 0x1F36
  .empty) 0x1F31000300 0x1F33 .empty) 0x1F31000301 0x1F35 (.node .empty 0x1F31000342 0x1F37
  .empty)) 0x1F40000300 0x1F42 (.node (.node .empty 0x1F40000301 0x1F44 .empty) 0x1F41000300
  0x1F43 (.node .empty 0x1F41000301 0x1F45 .empty))) 0x1F50000300 0x1F52 (.node (.node (.node
  .empty 0x1F50000301 0x1F54 .empty) 0x1F50000342 0x1F56 (.node .empty 0x1F51000300 0x1F53
  .empty)) 0x1F51000301 0x1F55 (.node (.node .empty 0x1F51000342 0x1F57 .empty) 0x1F60000300
  0x1F62 (.node .empty 0x1F60000301 0x1F64 .empty))))))) 0x1F60000342 0x1F66 (.node (.node (.node
  (.node (.node (.node (.node (.node .empty 0x1F61000300 0x1F63 .empty) 0x1F61000301 0x1F65
  .empty) 0x1F61000342 0x1F67 (.node .empty 0x2190000338 0x219A .empty)) 0x2192000338 0x219B
  (.node (.node .empty 0x2194000338 0x21AE .empty) 0x21D0000338 0x21CD (.node .empty 0x21D2000338
  0x21CF .empty))) 0x21D4000338 0x21CE (.node (.node (.node .empty 0x2203000338 0x2204 .empty)
  0x2208000338 0x2209 (.node .empty 0x220B000338 0x220C .empty)) 0x2223000338 0x2224 (.node
  (.node .empty 0x2225000338 0x2226 .empty) 0x223C000338 0x2241 (.node .empty 0x2243000338 0x2244
  .empty)))) 0x2245000338 0x2247 (.node (.node (.node (.node (.node .empty 0x2248000338 0x2249
  .empty) 0x224D000338 0x226D .empty) 0x2261000338 0x2262 (.node .empty 0x2264000338 0x2270
  .empty)) 0x2265000338 0x2271 (.node (.node .empty 0x2272000338 0x2274 .empty) 0x2273000338
  0x2275 (.node .empty 0x2276000338 0x2278 .empty))) 0x2277000338 0x2279 (.node (.node (.node
  .empty 0x227A000338 0x2280 .empty) 0x227B000338 0x2281 (.node .empty 0x227C000338 0x22E0
  .empty)) 0x227D000338 0x22E1 (.node (.node .empty 0x2282000338 0x2284 .empty) 0x2283000338
  0x2285 (.node .empty 0x2286000338 0x2288 .empty))))) 0x2287000338 0x2289 (.node (.node (.node
  (.node (.node (.node .empty 0x2291000338 0x22E2 .empty) 0x2292000338 0x22E3 .empty)
  0x22A2000338 0x22AC (.node .empty 0x22A8000338 0x22AD .empty)) 0x22A9000338 0x22AE (.node
  (.node .empty 0x22AB000338 0x22AF .empty) 0x22B2000338 0x22EA (.node .empty 0x22B3000338 0x22EB
  .empty))) 0x22B4000338 0x22EC (.node (.node (.node .empty 0x22B5000338 0x22ED .empty)
  0x3046003099 0x3094 (.node .empty 0x304B003099 0x304C .empty)) 0x304D003099 0x304E (.node
  (.node .empty 0x304F003099 0x3050 .empty) 0x3051003099 0x3052 (.node .empty 0x3053003099 0x3054
  .empty)))) 0x3055003099 0x3056 (.node (.node (.node (.node (.node .empty 0x3057003099 0x3058
  .empty) 0x3059003099 0x305A .empty) 0x305B003099 0x305C (.node .empty 0x305D003099 0x305E
  .empty)) 0x305F003099 0x3060 (.node (.node .empty 0x3061003099 0x3062 .empty) 0x3064003099
  0x3065 (.node .empty 0x3066003099 0x3067 .empty))) 0x3068003099 0x3069 (.node (.node (.node
  .empty 0x306F003099 0x3070 .empty) 0x306F00309A 0x3071 (.node .empty 0x3072003099 0x3073
  .empty)) 0x307200309A 0x3074 (.node (.node .empty 0x3075003099 0x3076 .empty) 0x307500309A
  0x3077 (.node .empty 0x3078003099 0x3079 .empty)))))) 0x307800309A 0x307A (.node (.node (.node
  (.node (.node (.node (.node .empty 0x307B003099 0x307C .empty) 0x307B00309A 0x307D .empty)
  0x309D003099 0x309E (.node .empty 0x30A6003099 0x30F4 .empty)) 0x30AB003099 0x30AC (.node
  (.node .empty 0x30AD003099 0x30AE .empty) 0x30AF003099 0x30B0 (.node .empty 0x30B1003099 0x30B2
  .empty))) 0x30B3003099 0x30B4 (.node (.node (.node .empty 0x30B5003099 0x30B6 .empty)
  0x30B7003099 0x30B8 (.node .empty 0x30B9003099 0x30BA .empty)) 0x30BB003099 0x30BC (.node
  (.node .empty 0x30BD003099 0x30BE .empty) 0x30BF003099 0x30C0 (.node .empty 0x30C1003099 0x30C2
  .empty)))) 0x30C4003099 0x30C5 (.node (.node (.node (.node (.node .empty 0x30C6003099 0x30C7
  .empty) 0x30C8003099 0x30C9 .empty) 0x30CF003099 0x30D0 (.node .empty 0x30CF00309A 0x30D1
  .empty)) 0x30D2003099 0x30D3 (.node (.node .empty 0x30D200309A 0x30D4 .empty) 0x30D5003099
  0x30D6 (.node .empty 0x30D500309A 0x30D7 .empty))) 0x30D8003099 0x30D9 (.node (.node (.node
  .empty 0x30D800309A 0x30DA .empty) 0x30DB003099 0x30DC (.node .empty 0x30DB00309A 0x30DD
  .empty)) 0x30EF003099 0x30F7 (.node (.node .empty 0x30F0003099 0x30F8 .empty) 0x30F1003099
  0x30F9 (.node .empty 0x30F2003099 0x30FA .empty))))) 0x30FD003099 0x30FE (.node (.node (.node
  (.node (.node (.node .empty 0x105D2000307 0x105C9 .empty) 0x105DA000307 0x105E4 .empty)
  0x110990110BA 0x1109A (.node .empty 0x1109B0110BA 0x1109C .empty)) 0x110A50110BA 0x110AB (.node
  (.node .empty 0x11131011127 0x1112E .empty) 0x11132011127 0x1112F (.node .empty 0x1134701133E
  0x1134B .empty))) 0x11347011357 0x1134C (.node (.node (.node .empty 0x113820113C9 0x11383
  .empty) 0x113840113BB 0x11385 (.node .empty 0x1138B0113C2 0x1138E .empty)) 0x113900113C9
  0x11391 (.node (.node .empty 0x113C20113B8 0x113C7 .empty) 0x113C20113C2 0x113C5 (.node .empty
  0x113C20113C9 0x113C8 .empty)))) 0x114B90114B0 0x114BC (.node (.node (.node (.node (.node
  .empty 0x114B90114BA 0x114BB .empty) 0x114B90114BD 0x114BE .empty) 0x115B80115AF 0x115BA (.node
  .empty 0x115B90115AF 0x115BB .empty)) 0x11935011930 0x11938 (.node (.node .empty 0x1611E01611E
  0x16121 .empty) 0x1611E01611F 0x16123 (.node .empty 0x1611E016120 0x16125 .empty)))
  0x1611E016129 0x16122 (.node (.node (.node .empty 0x1612101611F 0x16126 .empty) 0x16121016120
  0x16128 (.node .empty 0x1612201611F 0x16127 .empty)) 0x1612901611F 0x16124 (.node (.node .empty
  0x16D63016D67 0x16D69 .empty) 0x16D67016D67 0x16D68 (.node .empty 0x16D69016D67 0x16D6A
  .empty))))))))

end BareUrl.Text.Composition
