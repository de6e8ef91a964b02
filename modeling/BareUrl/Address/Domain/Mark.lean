import BareUrl.Text.CharSet

/-!
# `BareUrl.Address.Domain.Mark`: marks that combine with a letter

Marks of every script. No label of a host name may start with one.
-/

set_option autoImplicit false

namespace BareUrl.Address.Domain

/-- The marks. -/
def marks : Text.CharSet :=
  .node (.node (.node (.node (.node (.node (.node (.node (.node .empty 0x300 0x36F .empty) 0x483
  0x489 .empty) 0x591 0x5BD (.node (.node .empty 0x5BF 0x5BF .empty) 0x5C1 0x5C2 .empty)) 0x5C4
  0x5C5 (.node (.node (.node .empty 0x5C7 0x5C7 .empty) 0x610 0x61A .empty) 0x64B 0x65F (.node
  .empty 0x670 0x670 .empty))) 0x6D6 0x6DC (.node (.node (.node (.node .empty 0x6DF 0x6E4 .empty)
  0x6E7 0x6E8 .empty) 0x6EA 0x6ED (.node .empty 0x711 0x711 .empty)) 0x730 0x74A (.node (.node
  (.node .empty 0x7A6 0x7B0 .empty) 0x7EB 0x7F3 .empty) 0x7FD 0x7FD (.node .empty 0x816 0x819
  .empty)))) 0x81B 0x823 (.node (.node (.node (.node (.node .empty 0x825 0x827 .empty) 0x829
  0x82D .empty) 0x859 0x85B (.node .empty 0x897 0x89F .empty)) 0x8CA 0x8E1 (.node (.node (.node
  .empty 0x8E3 0x903 .empty) 0x93A 0x93C .empty) 0x93E 0x94F (.node .empty 0x951 0x957 .empty)))
  0x962 0x963 (.node (.node (.node (.node .empty 0x981 0x983 .empty) 0x9BC 0x9BC .empty) 0x9BE
  0x9C4 (.node .empty 0x9C7 0x9C8 .empty)) 0x9CB 0x9CD (.node (.node (.node .empty 0x9D7 0x9D7
  .empty) 0x9E2 0x9E3 .empty) 0x9FE 0x9FE (.node .empty 0xA01 0xA03 .empty))))) 0xA3C 0xA3C
  (.node (.node (.node (.node (.node (.node .empty 0xA3E 0xA42 .empty) 0xA47 0xA48 .empty) 0xA4B
  0xA4D (.node (.node .empty 0xA51 0xA51 .empty) 0xA70 0xA71 .empty)) 0xA75 0xA75 (.node (.node
  (.node .empty 0xA81 0xA83 .empty) 0xABC 0xABC .empty) 0xABE 0xAC5 (.node .empty 0xAC7 0xAC9
  .empty))) 0xACB 0xACD (.node (.node (.node (.node .empty 0xAE2 0xAE3 .empty) 0xAFA 0xAFF
  .empty) 0xB01 0xB03 (.node .empty 0xB3C 0xB3C .empty)) 0xB3E 0xB44 (.node (.node (.node .empty
  0xB47 0xB48 .empty) 0xB4B 0xB4D .empty) 0xB55 0xB57 (.node .empty 0xB62 0xB63 .empty)))) 0xB82
  0xB82 (.node (.node (.node (.node (.node .empty 0xBBE 0xBC2 .empty) 0xBC6 0xBC8 .empty) 0xBCA
  0xBCD (.node .empty 0xBD7 0xBD7 .empty)) 0xC00 0xC04 (.node (.node (.node .empty 0xC3C 0xC3C
  .empty) 0xC3E 0xC44 .empty) 0xC46 0xC48 (.node .empty 0xC4A 0xC4D .empty))) 0xC55 0xC56 (.node
  (.node (.node (.node .empty 0xC62 0xC63 .empty) 0xC81 0xC83 .empty) 0xCBC 0xCBC (.node .empty
  0xCBE 0xCC4 .empty)) 0xCC6 0xCC8 (.node (.node (.node .empty 0xCCA 0xCCD .empty) 0xCD5 0xCD6
  .empty) 0xCE2 0xCE3 (.node .empty 0xCF3 0xCF3 .empty)))))) 0xD00 0xD03 (.node (.node (.node
  (.node (.node (.node (.node .empty 0xD3B 0xD3C .empty) 0xD3E 0xD44 .empty) 0xD46 0xD48 (.node
  (.node .empty 0xD4A 0xD4D .empty) 0xD57 0xD57 .empty)) 0xD62 0xD63 (.node (.node (.node .empty
  0xD81 0xD83 .empty) 0xDCA 0xDCA .empty) 0xDCF 0xDD4 (.node .empty 0xDD6 0xDD6 .empty))) 0xDD8
  0xDDF (.node (.node (.node (.node .empty 0xDF2 0xDF3 .empty) 0xE31 0xE31 .empty) 0xE34 0xE3A
  (.node .empty 0xE47 0xE4E .empty)) 0xEB1 0xEB1 (.node (.node (.node .empty 0xEB4 0xEBC .empty)
  0xEC8 0xECE .empty) 0xF18 0xF19 (.node .empty 0xF35 0xF35 .empty)))) 0xF37 0xF37 (.node (.node
  (.node (.node (.node .empty 0xF39 0xF39 .empty) 0xF3E 0xF3F .empty) 0xF71 0xF84 (.node .empty
  0xF86 0xF87 .empty)) 0xF8D 0xF97 (.node (.node (.node .empty 0xF99 0xFBC .empty) 0xFC6 0xFC6
  .empty) 0x102B 0x103E (.node .empty 0x1056 0x1059 .empty))) 0x105E 0x1060 (.node (.node (.node
  (.node .empty 0x1062 0x1064 .empty) 0x1067 0x106D .empty) 0x1071 0x1074 (.node .empty 0x1082
  0x108D .empty)) 0x108F 0x108F (.node (.node (.node .empty 0x109A 0x109D .empty) 0x135D 0x135F
  .empty) 0x1712 0x1715 (.node .empty 0x1732 0x1734 .empty))))) 0x1752 0x1753 (.node (.node
  (.node (.node (.node (.node .empty 0x1772 0x1773 .empty) 0x17B4 0x17D3 .empty) 0x17DD 0x17DD
  (.node (.node .empty 0x180B 0x180D .empty) 0x180F 0x180F .empty)) 0x1885 0x1886 (.node (.node
  (.node .empty 0x18A9 0x18A9 .empty) 0x1920 0x192B .empty) 0x1930 0x193B (.node .empty 0x1A17
  0x1A1B .empty))) 0x1A55 0x1A5E (.node (.node (.node (.node .empty 0x1A60 0x1A7C .empty) 0x1A7F
  0x1A7F .empty) 0x1AB0 0x1ADD (.node .empty 0x1AE0 0x1AEB .empty)) 0x1B00 0x1B04 (.node (.node
  (.node .empty 0x1B34 0x1B44 .empty) 0x1B6B 0x1B73 .empty) 0x1B80 0x1B82 (.node .empty 0x1BA1
  0x1BAD .empty)))) 0x1BE6 0x1BF3 (.node (.node (.node (.node (.node .empty 0x1C24 0x1C37 .empty)
  0x1CD0 0x1CD2 .empty) 0x1CD4 0x1CE8 (.node .empty 0x1CED 0x1CED .empty)) 0x1CF4 0x1CF4 (.node
  (.node (.node .empty 0x1CF7 0x1CF9 .empty) 0x1DC0 0x1DFF .empty) 0x20D0 0x20F0 (.node .empty
  0x2CEF 0x2CF1 .empty))) 0x2D7F 0x2D7F (.node (.node (.node (.node .empty 0x2DE0 0x2DFF .empty)
  0x302A 0x302F .empty) 0x3099 0x309A (.node .empty 0xA66F 0xA672 .empty)) 0xA674 0xA67D (.node
  (.node (.node .empty 0xA69E 0xA69F .empty) 0xA6F0 0xA6F1 .empty) 0xA802 0xA802 (.node .empty
  0xA806 0xA806 .empty))))))) 0xA80B 0xA80B (.node (.node (.node (.node (.node (.node (.node
  (.node .empty 0xA823 0xA827 .empty) 0xA82C 0xA82C .empty) 0xA880 0xA881 (.node (.node .empty
  0xA8B4 0xA8C5 .empty) 0xA8E0 0xA8F1 .empty)) 0xA8FF 0xA8FF (.node (.node (.node .empty 0xA926
  0xA92D .empty) 0xA947 0xA953 .empty) 0xA980 0xA983 (.node .empty 0xA9B3 0xA9C0 .empty))) 0xA9E5
  0xA9E5 (.node (.node (.node (.node .empty 0xAA29 0xAA36 .empty) 0xAA43 0xAA43 .empty) 0xAA4C
  0xAA4D (.node .empty 0xAA7B 0xAA7D .empty)) 0xAAB0 0xAAB0 (.node (.node (.node .empty 0xAAB2
  0xAAB4 .empty) 0xAAB7 0xAAB8 .empty) 0xAABE 0xAABF (.node .empty 0xAAC1 0xAAC1 .empty))))
  0xAAEB 0xAAEF (.node (.node (.node (.node (.node .empty 0xAAF5 0xAAF6 .empty) 0xABE3 0xABEA
  .empty) 0xABEC 0xABED (.node .empty 0xFB1E 0xFB1E .empty)) 0xFE00 0xFE0F (.node (.node (.node
  .empty 0xFE20 0xFE2F .empty) 0x101FD 0x101FD .empty) 0x102E0 0x102E0 (.node .empty 0x10376
  0x1037A .empty))) 0x10A01 0x10A03 (.node (.node (.node (.node .empty 0x10A05 0x10A06 .empty)
  0x10A0C 0x10A0F .empty) 0x10A38 0x10A3A (.node .empty 0x10A3F 0x10A3F .empty)) 0x10AE5 0x10AE6
  (.node (.node (.node .empty 0x10D24 0x10D27 .empty) 0x10D69 0x10D6D .empty) 0x10EAB 0x10EAC
  (.node .empty 0x10EFA 0x10EFF .empty))))) 0x10F46 0x10F50 (.node (.node (.node (.node (.node
  (.node .empty 0x10F82 0x10F85 .empty) 0x11000 0x11002 .empty) 0x11038 0x11046 (.node (.node
  .empty 0x11070 0x11070 .empty) 0x11073 0x11074 .empty)) 0x1107F 0x11082 (.node (.node (.node
  .empty 0x110B0 0x110BA .empty) 0x110C2 0x110C2 .empty) 0x11100 0x11102 (.node .empty 0x11127
  0x11134 .empty))) 0x11145 0x11146 (.node (.node (.node (.node .empty 0x11173 0x11173 .empty)
  0x11180 0x11182 .empty) 0x111B3 0x111C0 (.node .empty 0x111C9 0x111CC .empty)) 0x111CE 0x111CF
  (.node (.node (.node .empty 0x1122C 0x11237 .empty) 0x1123E 0x1123E .empty) 0x11241 0x11241
  (.node .empty 0x112DF 0x112EA .empty)))) 0x11300 0x11303 (.node (.node (.node (.node (.node
  .empty 0x1133B 0x1133C .empty) 0x1133E 0x11344 .empty) 0x11347 0x11348 (.node .empty 0x1134B
  0x1134D .empty)) 0x11357 0x11357 (.node (.node (.node .empty 0x11362 0x11363 .empty) 0x11366
  0x1136C .empty) 0x11370 0x11374 (.node .empty 0x113B8 0x113C0 .empty))) 0x113C2 0x113C2 (.node
  (.node (.node (.node .empty 0x113C5 0x113C5 .empty) 0x113C7 0x113CA .empty) 0x113CC 0x113D0
  (.node .empty 0x113D2 0x113D2 .empty)) 0x113E1 0x113E2 (.node (.node (.node .empty 0x11435
  0x11446 .empty) 0x1145E 0x1145E .empty) 0x114B0 0x114C3 (.node .empty 0x115AF 0x115B5
  .empty)))))) 0x115B8 0x115C0 (.node (.node (.node (.node (.node (.node (.node .empty 0x115DC
  0x115DD .empty) 0x11630 0x11640 .empty) 0x116AB 0x116B7 (.node (.node .empty 0x1171D 0x1172B
  .empty) 0x1182C 0x1183A .empty)) 0x11930 0x11935 (.node (.node (.node .empty 0x11937 0x11938
  .empty) 0x1193B 0x1193E .empty) 0x11940 0x11940 (.node .empty 0x11942 0x11943 .empty))) 0x119D1
  0x119D7 (.node (.node (.node (.node .empty 0x119DA 0x119E0 .empty) 0x119E4 0x119E4 .empty)
  0x11A01 0x11A0A (.node .empty 0x11A33 0x11A39 .empty)) 0x11A3B 0x11A3E (.node (.node (.node
  .empty 0x11A47 0x11A47 .empty) 0x11A51 0x11A5B .empty) 0x11A8A 0x11A99 (.node .empty 0x11B60
  0x11B67 .empty)))) 0x11C2F 0x11C36 (.node (.node (.node (.node (.node .empty 0x11C38 0x11C3F
  .empty) 0x11C92 0x11CA7 .empty) 0x11CA9 0x11CB6 (.node .empty 0x11D31 0x11D36 .empty)) 0x11D3A
  0x11D3A (.node (.node (.node .empty 0x11D3C 0x11D3D .empty) 0x11D3F 0x11D45 .empty) 0x11D47
  0x11D47 (.node .empty 0x11D8A 0x11D8E .empty))) 0x11D90 0x11D91 (.node (.node (.node (.node
  .empty 0x11D93 0x11D97 .empty) 0x11EF3 0x11EF6 .empty) 0x11F00 0x11F01 (.node .empty 0x11F03
  0x11F03 .empty)) 0x11F34 0x11F3A (.node (.node (.node .empty 0x11F3E 0x11F42 .empty) 0x11F5A
  0x11F5A .empty) 0x13440 0x13440 (.node .empty 0x13447 0x13455 .empty))))) 0x1611E 0x1612F
  (.node (.node (.node (.node (.node (.node .empty 0x16AF0 0x16AF4 .empty) 0x16B30 0x16B36
  .empty) 0x16F4F 0x16F4F (.node (.node .empty 0x16F51 0x16F87 .empty) 0x16F8F 0x16F92 .empty))
  0x16FE4 0x16FE4 (.node (.node (.node .empty 0x16FF0 0x16FF1 .empty) 0x1BC9D 0x1BC9E .empty)
  0x1CF00 0x1CF2D (.node .empty 0x1CF30 0x1CF46 .empty))) 0x1D165 0x1D169 (.node (.node (.node
  (.node .empty 0x1D16D 0x1D172 .empty) 0x1D17B 0x1D182 .empty) 0x1D185 0x1D18B (.node .empty
  0x1D1AA 0x1D1AD .empty)) 0x1D242 0x1D244 (.node (.node (.node .empty 0x1DA00 0x1DA36 .empty)
  0x1DA3B 0x1DA6C .empty) 0x1DA75 0x1DA75 (.node .empty 0x1DA84 0x1DA84 .empty)))) 0x1DA9B
  0x1DA9F (.node (.node (.node (.node (.node .empty 0x1DAA1 0x1DAAF .empty) 0x1E000 0x1E006
  .empty) 0x1E008 0x1E018 (.node .empty 0x1E01B 0x1E021 .empty)) 0x1E023 0x1E024 (.node (.node
  (.node .empty 0x1E026 0x1E02A .empty) 0x1E08F 0x1E08F .empty) 0x1E130 0x1E136 (.node .empty
  0x1E2AE 0x1E2AE .empty))) 0x1E2EC 0x1E2EF (.node (.node (.node (.node .empty 0x1E4EC 0x1E4EF
  .empty) 0x1E5EE 0x1E5EF .empty) 0x1E6E3 0x1E6E3 (.node .empty 0x1E6E6 0x1E6E6 .empty)) 0x1E6EE
  0x1E6EF (.node (.node (.node .empty 0x1E6F5 0x1E6F5 .empty) 0x1E8D0 0x1E8D6 .empty) 0x1E944
  0x1E94A (.node .empty 0xE0100 0xE01EF .empty)))))))

end BareUrl.Address.Domain
