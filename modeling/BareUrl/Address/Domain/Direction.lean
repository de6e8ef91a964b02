import BareUrl.Text.CodeMap

/-!
# `BareUrl.Address.Domain.Direction`: the direction of writing

Host names may mix scripts that are written from left to right and from right to left, but not
within a label. These are the directions of the characters that a host name may hold.
-/

set_option autoImplicit false

namespace BareUrl.Address.Domain

/-- The direction in which a character is written, as far as host names tell directions apart. -/
inductive Direction where
  /-- A letter that is written from left to right. -/
  | left
  /-- A letter that is written from right to left. -/
  | right
  /-- A letter of Arabic or a related script, written from right to left. -/
  | arabicLetter
  /-- An Arabic digit. -/
  | arabicNumber
  /-- A European digit. -/
  | number
  /-- A sign or symbol that takes the direction of its surroundings. -/
  | separator
  /-- A mark that takes the direction of the character before it. -/
  | mark
deriving DecidableEq, Repr

/-- The directions of the characters that are no letters written from left to right. -/
def directions : Text.RangeMap Direction :=
  .node (.node (.node (.node (.node (.node (.node (.node (.node .empty 0x0 0x8 .separator .empty)
  0xE 0x1B .separator (.node .empty 0x21 0x2F .separator .empty)) 0x30 0x39 .number (.node (.node
  .empty 0x3A 0x60 .separator .empty) 0x7B 0xD7 .separator (.node .empty 0xF7 0xF7 .separator
  .empty))) 0x2B9 0x2BA .separator (.node (.node (.node .empty 0x2C2 0x2CF .separator .empty)
  0x2D2 0x2ED .separator (.node .empty 0x2EF 0x2FF .separator .empty)) 0x300 0x36F .mark (.node
  (.node .empty 0x375 0x375 .separator .empty) 0x3F6 0x3F6 .separator .empty))) 0x483 0x489 .mark
  (.node (.node (.node (.node .empty 0x58A 0x58F .separator .empty) 0x591 0x5BD .mark (.node
  .empty 0x5BE 0x5BE .right .empty)) 0x5BF 0x5BF .mark (.node (.node .empty 0x5C0 0x5C0 .right
  .empty) 0x5C1 0x5C2 .mark .empty)) 0x5C3 0x5C3 .right (.node (.node (.node .empty 0x5C4 0x5C5
  .mark .empty) 0x5C6 0x5C6 .right (.node .empty 0x5C7 0x5C7 .mark .empty)) 0x5D0 0x5F4 .right
  (.node (.node .empty 0x606 0x607 .separator .empty) 0x608 0x608 .arabicLetter .empty)))) 0x609
  0x60A .separator (.node (.node (.node (.node (.node .empty 0x60B 0x60B .arabicLetter .empty)
  0x60C 0x60C .separator (.node .empty 0x60D 0x60D .arabicLetter .empty)) 0x60E 0x60F .separator
  (.node (.node .empty 0x610 0x61A .mark .empty) 0x61B 0x64A .arabicLetter (.node .empty 0x64B
  0x65F .mark .empty))) 0x660 0x669 .arabicNumber (.node (.node (.node .empty 0x66A 0x66A
  .separator .empty) 0x66B 0x66C .arabicNumber (.node .empty 0x66D 0x66F .arabicLetter .empty))
  0x670 0x670 .mark (.node (.node .empty 0x671 0x6D5 .arabicLetter .empty) 0x6D6 0x6DC .mark
  .empty))) 0x6DE 0x6DE .separator (.node (.node (.node (.node .empty 0x6DF 0x6E4 .mark .empty)
  0x6E5 0x6E6 .arabicLetter (.node .empty 0x6E7 0x6E8 .mark .empty)) 0x6E9 0x6E9 .separator
  (.node (.node .empty 0x6EA 0x6ED .mark .empty) 0x6EE 0x6EF .arabicLetter .empty)) 0x6F0 0x6F9
  .number (.node (.node (.node .empty 0x6FA 0x710 .arabicLetter .empty) 0x711 0x711 .mark (.node
  .empty 0x712 0x72F .arabicLetter .empty)) 0x730 0x74A .mark (.node (.node .empty 0x74D 0x7A5
  .arabicLetter .empty) 0x7A6 0x7B0 .mark .empty))))) 0x7B1 0x7B1 .arabicLetter (.node (.node
  (.node (.node (.node (.node .empty 0x7C0 0x7EA .right .empty) 0x7EB 0x7F3 .mark (.node .empty
  0x7F4 0x7F5 .right .empty)) 0x7F6 0x7F9 .separator (.node (.node .empty 0x7FA 0x7FA .right
  .empty) 0x7FD 0x7FD .mark (.node .empty 0x7FE 0x815 .right .empty))) 0x816 0x819 .mark (.node
  (.node (.node .empty 0x81A 0x81A .right .empty) 0x81B 0x823 .mark (.node .empty 0x824 0x824
  .right .empty)) 0x825 0x827 .mark (.node (.node .empty 0x828 0x828 .right .empty) 0x829 0x82D
  .mark .empty))) 0x830 0x858 .right (.node (.node (.node (.node .empty 0x859 0x85B .mark .empty)
  0x85E 0x85E .right (.node .empty 0x860 0x897 .arabicLetter .empty)) 0x898 0x89F .mark (.node
  (.node .empty 0x8A0 0x8C9 .arabicLetter .empty) 0x8CA 0x902 .mark .empty)) 0x93A 0x93A .mark
  (.node (.node (.node .empty 0x93C 0x93C .mark .empty) 0x941 0x948 .mark (.node .empty 0x94D
  0x94D .mark .empty)) 0x951 0x957 .mark (.node (.node .empty 0x962 0x963 .mark .empty) 0x981
  0x981 .mark .empty)))) 0x9BC 0x9BC .mark (.node (.node (.node (.node (.node .empty 0x9C1 0x9C4
  .mark .empty) 0x9CD 0x9CD .mark (.node .empty 0x9E2 0x9E3 .mark .empty)) 0x9F2 0x9F3 .separator
  (.node (.node .empty 0x9FB 0x9FB .separator .empty) 0x9FE 0xA02 .mark .empty)) 0xA3C 0xA3C
  .mark (.node (.node (.node .empty 0xA41 0xA51 .mark .empty) 0xA70 0xA71 .mark (.node .empty
  0xA75 0xA75 .mark .empty)) 0xA81 0xA82 .mark (.node (.node .empty 0xABC 0xABC .mark .empty)
  0xAC1 0xAC8 .mark .empty))) 0xACD 0xACD .mark (.node (.node (.node (.node .empty 0xAE2 0xAE3
  .mark .empty) 0xAF1 0xAF1 .separator (.node .empty 0xAFA 0xB01 .mark .empty)) 0xB3C 0xB3C .mark
  (.node (.node .empty 0xB3F 0xB3F .mark .empty) 0xB41 0xB44 .mark .empty)) 0xB4D 0xB56 .mark
  (.node (.node (.node .empty 0xB62 0xB63 .mark .empty) 0xB82 0xB82 .mark (.node .empty 0xBC0
  0xBC0 .mark .empty)) 0xBCD 0xBCD .mark (.node (.node .empty 0xBF3 0xBFA .separator .empty)
  0xC00 0xC00 .mark .empty)))))) 0xC04 0xC04 .mark (.node (.node (.node (.node (.node (.node
  (.node .empty 0xC3C 0xC3C .mark .empty) 0xC3E 0xC40 .mark (.node .empty 0xC46 0xC56 .mark
  .empty)) 0xC62 0xC63 .mark (.node (.node .empty 0xC78 0xC7E .separator .empty) 0xC81 0xC81
  .mark (.node .empty 0xCBC 0xCBC .mark .empty))) 0xCCC 0xCCD .mark (.node (.node (.node .empty
  0xCE2 0xCE3 .mark .empty) 0xD00 0xD01 .mark (.node .empty 0xD3B 0xD3C .mark .empty)) 0xD41
  0xD44 .mark (.node (.node .empty 0xD4D 0xD4D .mark .empty) 0xD62 0xD63 .mark .empty))) 0xD81
  0xD81 .mark (.node (.node (.node (.node .empty 0xDCA 0xDCA .mark .empty) 0xDD2 0xDD6 .mark
  (.node .empty 0xE31 0xE31 .mark .empty)) 0xE34 0xE3A .mark (.node (.node .empty 0xE3F 0xE3F
  .separator .empty) 0xE47 0xE4E .mark .empty)) 0xEB1 0xEB1 .mark (.node (.node (.node .empty
  0xEB4 0xEBC .mark .empty) 0xEC8 0xECE .mark (.node .empty 0xF18 0xF19 .mark .empty)) 0xF35
  0xF35 .mark (.node (.node .empty 0xF37 0xF37 .mark .empty) 0xF39 0xF39 .mark .empty)))) 0xF3A
  0xF3D .separator (.node (.node (.node (.node (.node .empty 0xF71 0xF7E .mark .empty) 0xF80
  0xF84 .mark (.node .empty 0xF86 0xF87 .mark .empty)) 0xF8D 0xFBC .mark (.node (.node .empty
  0xFC6 0xFC6 .mark .empty) 0x102D 0x1030 .mark (.node .empty 0x1032 0x1037 .mark .empty)))
  0x1039 0x103A .mark (.node (.node (.node .empty 0x103D 0x103E .mark .empty) 0x1058 0x1059 .mark
  (.node .empty 0x105E 0x1060 .mark .empty)) 0x1071 0x1074 .mark (.node (.node .empty 0x1082
  0x1082 .mark .empty) 0x1085 0x1086 .mark .empty))) 0x108D 0x108D .mark (.node (.node (.node
  (.node .empty 0x109D 0x109D .mark .empty) 0x135D 0x135F .mark (.node .empty 0x1390 0x1399
  .separator .empty)) 0x1400 0x1400 .separator (.node (.node .empty 0x169B 0x169C .separator
  .empty) 0x1712 0x1714 .mark .empty)) 0x1732 0x1733 .mark (.node (.node (.node .empty 0x1752
  0x1753 .mark .empty) 0x1772 0x1773 .mark (.node .empty 0x17B7 0x17BD .mark .empty)) 0x17C6
  0x17C6 .mark (.node (.node .empty 0x17C9 0x17D3 .mark .empty) 0x17DB 0x17DB .separator
  .empty))))) 0x17DD 0x17DD .mark (.node (.node (.node (.node (.node (.node .empty 0x17F0 0x180A
  .separator .empty) 0x1885 0x1886 .mark (.node .empty 0x18A9 0x18A9 .mark .empty)) 0x1920 0x1922
  .mark (.node (.node .empty 0x1927 0x1928 .mark .empty) 0x1932 0x1932 .mark (.node .empty 0x1939
  0x193B .mark .empty))) 0x1940 0x1945 .separator (.node (.node (.node .empty 0x19DE 0x19FF
  .separator .empty) 0x1A17 0x1A18 .mark (.node .empty 0x1A1B 0x1A1B .mark .empty)) 0x1A56 0x1A56
  .mark (.node (.node .empty 0x1A58 0x1A60 .mark .empty) 0x1A62 0x1A62 .mark .empty))) 0x1A65
  0x1A6C .mark (.node (.node (.node (.node .empty 0x1A73 0x1A7F .mark .empty) 0x1AB0 0x1ACE .mark
  (.node .empty 0x1B00 0x1B03 .mark .empty)) 0x1B34 0x1B34 .mark (.node (.node .empty 0x1B36
  0x1B3A .mark .empty) 0x1B3C 0x1B3C .mark .empty)) 0x1B42 0x1B42 .mark (.node (.node (.node
  .empty 0x1B6B 0x1B73 .mark .empty) 0x1B80 0x1B81 .mark (.node .empty 0x1BA2 0x1BA5 .mark
  .empty)) 0x1BA8 0x1BA9 .mark (.node (.node .empty 0x1BAB 0x1BAD .mark .empty) 0x1BE6 0x1BE6
  .mark .empty)))) 0x1BE8 0x1BE9 .mark (.node (.node (.node (.node (.node .empty 0x1BED 0x1BED
  .mark .empty) 0x1BEF 0x1BF1 .mark (.node .empty 0x1C2C 0x1C33 .mark .empty)) 0x1C36 0x1C37
  .mark (.node (.node .empty 0x1CD0 0x1CD2 .mark .empty) 0x1CD4 0x1CE0 .mark .empty)) 0x1CE2
  0x1CE8 .mark (.node (.node (.node .empty 0x1CED 0x1CED .mark .empty) 0x1CF4 0x1CF4 .mark (.node
  .empty 0x1CF8 0x1CF9 .mark .empty)) 0x1DC0 0x1DFF .mark (.node (.node .empty 0x200C 0x20C1
  .separator .empty) 0x20D0 0x20F0 .mark .empty))) 0x2104 0x214D .separator (.node (.node (.node
  (.node .empty 0x218A 0x2335 .separator .empty) 0x237B 0x2394 .separator (.node .empty 0x2396
  0x2426 .separator .empty)) 0x2440 0x26AB .separator (.node (.node .empty 0x26AD 0x27FF
  .separator .empty) 0x2900 0x2B95 .separator .empty)) 0x2B97 0x2BFF .separator (.node (.node
  (.node .empty 0x2CE5 0x2CEA .separator .empty) 0x2CEF 0x2CF1 .mark (.node .empty 0x2CF9 0x2CFF
  .separator .empty)) 0x2D7F 0x2D7F .mark (.node (.node .empty 0x2DE0 0x2DFF .mark .empty) 0x2E00
  0x3004 .separator .empty))))))) 0x3008 0x3020 .separator (.node (.node (.node (.node (.node
  (.node (.node (.node .empty 0x302A 0x302D .mark .empty) 0x3030 0x3030 .separator (.node .empty
  0x3037 0x3037 .separator .empty)) 0x303D 0x303F .separator (.node (.node .empty 0x3099 0x309A
  .mark .empty) 0x30A0 0x30A0 .separator (.node .empty 0x30FB 0x30FB .separator .empty))) 0x31C0
  0x31E3 .separator (.node (.node (.node .empty 0x4DC0 0x4DFF .separator .empty) 0xA490 0xA4C6
  .separator (.node .empty 0xA60D 0xA60F .separator .empty)) 0xA66F 0xA672 .mark (.node (.node
  .empty 0xA673 0xA673 .separator .empty) 0xA674 0xA67D .mark .empty))) 0xA67E 0xA67F .separator
  (.node (.node (.node (.node .empty 0xA69E 0xA69F .mark .empty) 0xA6F0 0xA6F1 .mark (.node
  .empty 0xA700 0xA721 .separator .empty)) 0xA788 0xA788 .separator (.node (.node .empty 0xA802
  0xA802 .mark .empty) 0xA806 0xA806 .mark .empty)) 0xA80B 0xA80B .mark (.node (.node (.node
  .empty 0xA825 0xA826 .mark .empty) 0xA828 0xA82B .separator (.node .empty 0xA82C 0xA82C .mark
  .empty)) 0xA838 0xA839 .separator (.node (.node .empty 0xA874 0xA877 .separator .empty) 0xA8C4
  0xA8C5 .mark .empty)))) 0xA8E0 0xA8F1 .mark (.node (.node (.node (.node (.node .empty 0xA8FF
  0xA8FF .mark .empty) 0xA926 0xA92D .mark (.node .empty 0xA947 0xA951 .mark .empty)) 0xA980
  0xA982 .mark (.node (.node .empty 0xA9B3 0xA9B3 .mark .empty) 0xA9B6 0xA9B9 .mark (.node .empty
  0xA9BC 0xA9BD .mark .empty))) 0xA9E5 0xA9E5 .mark (.node (.node (.node .empty 0xAA29 0xAA2E
  .mark .empty) 0xAA31 0xAA32 .mark (.node .empty 0xAA35 0xAA36 .mark .empty)) 0xAA43 0xAA43
  .mark (.node (.node .empty 0xAA4C 0xAA4C .mark .empty) 0xAA7C 0xAA7C .mark .empty))) 0xAAB0
  0xAAB0 .mark (.node (.node (.node (.node .empty 0xAAB2 0xAAB4 .mark .empty) 0xAAB7 0xAAB8 .mark
  (.node .empty 0xAABE 0xAABF .mark .empty)) 0xAAC1 0xAAC1 .mark (.node (.node .empty 0xAAEC
  0xAAED .mark .empty) 0xAAF6 0xAAF6 .mark .empty)) 0xAB6A 0xAB6B .separator (.node (.node (.node
  .empty 0xABE5 0xABE5 .mark .empty) 0xABE8 0xABE8 .mark (.node .empty 0xABED 0xABED .mark
  .empty)) 0xFB1E 0xFB1E .mark (.node (.node .empty 0xFBB2 0xFBD2 .arabicLetter .empty) 0xFD3E
  0xFD4F .separator .empty))))) 0xFD90 0xFDCE .arabicLetter (.node (.node (.node (.node (.node
  (.node .empty 0xFDCF 0xFDFF .separator .empty) 0xFE20 0xFE2F .mark (.node .empty 0xFE45 0xFE46
  .separator .empty)) 0xFE73 0xFE73 .arabicLetter (.node (.node .empty 0x10101 0x10101 .separator
  .empty) 0x10140 0x1018C .separator (.node .empty 0x10190 0x101A0 .separator .empty))) 0x101FD
  0x101FD .mark (.node (.node (.node .empty 0x102E0 0x102E0 .mark .empty) 0x102E1 0x102FB .number
  (.node .empty 0x10376 0x1037A .mark .empty)) 0x10800 0x1091B .right (.node (.node .empty
  0x1091F 0x1091F .separator .empty) 0x10920 0x10A00 .right .empty))) 0x10A01 0x10A0F .mark
  (.node (.node (.node (.node .empty 0x10A10 0x10A35 .right .empty) 0x10A38 0x10A3F .mark (.node
  .empty 0x10A40 0x10AE4 .right .empty)) 0x10AE5 0x10AE6 .mark (.node (.node .empty 0x10AEB
  0x10B35 .right .empty) 0x10B39 0x10B3F .separator .empty)) 0x10B40 0x10CFF .right (.node (.node
  (.node .empty 0x10D00 0x10D23 .arabicLetter .empty) 0x10D24 0x10D27 .mark (.node .empty 0x10D30
  0x10D39 .arabicNumber .empty)) 0x10D40 0x10D8F .right (.node (.node .empty 0x10E60 0x10E7E
  .arabicNumber .empty) 0x10E80 0x10EA9 .right .empty)))) 0x10EAB 0x10EAC .mark (.node (.node
  (.node (.node (.node .empty 0x10EAD 0x10EB1 .right .empty) 0x10EC2 0x10EFC .arabicLetter (.node
  .empty 0x10EFD 0x10EFF .mark .empty)) 0x10F00 0x10F27 .right (.node (.node .empty 0x10F30
  0x10F45 .arabicLetter .empty) 0x10F46 0x10F50 .mark .empty)) 0x10F51 0x10F59 .arabicLetter
  (.node (.node (.node .empty 0x10F70 0x10F81 .right .empty) 0x10F82 0x10F85 .mark (.node .empty
  0x10F86 0x10FF6 .right .empty)) 0x11001 0x11001 .mark (.node (.node .empty 0x11038 0x11046
  .mark .empty) 0x11052 0x11065 .separator .empty))) 0x11070 0x11070 .mark (.node (.node (.node
  (.node .empty 0x11073 0x11074 .mark .empty) 0x1107F 0x11081 .mark (.node .empty 0x110B3 0x110B6
  .mark .empty)) 0x110B9 0x110BA .mark (.node (.node .empty 0x110C2 0x110C2 .mark .empty) 0x11100
  0x11102 .mark .empty)) 0x11127 0x1112B .mark (.node (.node (.node .empty 0x1112D 0x11134 .mark
  .empty) 0x11173 0x11173 .mark (.node .empty 0x11180 0x11181 .mark .empty)) 0x111B6 0x111BE
  .mark (.node (.node .empty 0x111C9 0x111CC .mark .empty) 0x111CF 0x111CF .mark .empty))))))
  0x1122F 0x11231 .mark (.node (.node (.node (.node (.node (.node (.node .empty 0x11234 0x11234
  .mark .empty) 0x11236 0x11237 .mark (.node .empty 0x1123E 0x1123E .mark .empty)) 0x11241
  0x11241 .mark (.node (.node .empty 0x112DF 0x112DF .mark .empty) 0x112E3 0x112EA .mark (.node
  .empty 0x11300 0x11301 .mark .empty))) 0x1133B 0x1133C .mark (.node (.node (.node .empty
  0x11340 0x11340 .mark .empty) 0x11366 0x11374 .mark (.node .empty 0x11438 0x1143F .mark
  .empty)) 0x11442 0x11444 .mark (.node (.node .empty 0x11446 0x11446 .mark .empty) 0x1145E
  0x1145E .mark .empty))) 0x114B3 0x114B8 .mark (.node (.node (.node (.node .empty 0x114BA
  0x114BA .mark .empty) 0x114BF 0x114C0 .mark (.node .empty 0x114C2 0x114C3 .mark .empty))
  0x115B2 0x115B5 .mark (.node (.node .empty 0x115BC 0x115BD .mark .empty) 0x115BF 0x115C0 .mark
  .empty)) 0x115DC 0x115DD .mark (.node (.node (.node .empty 0x11633 0x1163A .mark .empty)
  0x1163D 0x1163D .mark (.node .empty 0x1163F 0x11640 .mark .empty)) 0x11660 0x1166C .separator
  (.node (.node .empty 0x116AB 0x116AB .mark .empty) 0x116AD 0x116AD .mark .empty)))) 0x116B0
  0x116B5 .mark (.node (.node (.node (.node (.node .empty 0x116B7 0x116B7 .mark .empty) 0x1171D
  0x1171F .mark (.node .empty 0x11722 0x11725 .mark .empty)) 0x11727 0x1172B .mark (.node (.node
  .empty 0x1182F 0x11837 .mark .empty) 0x11839 0x1183A .mark .empty)) 0x1193B 0x1193C .mark
  (.node (.node (.node .empty 0x1193E 0x1193E .mark .empty) 0x11943 0x11943 .mark (.node .empty
  0x119D4 0x119DB .mark .empty)) 0x119E0 0x119E0 .mark (.node (.node .empty 0x11A01 0x11A06 .mark
  .empty) 0x11A09 0x11A0A .mark .empty))) 0x11A33 0x11A38 .mark (.node (.node (.node (.node
  .empty 0x11A3B 0x11A3E .mark .empty) 0x11A47 0x11A47 .mark (.node .empty 0x11A51 0x11A56 .mark
  .empty)) 0x11A59 0x11A5B .mark (.node (.node .empty 0x11A8A 0x11A96 .mark .empty) 0x11A98
  0x11A99 .mark .empty)) 0x11C30 0x11C3D .mark (.node (.node (.node .empty 0x11C92 0x11CA7 .mark
  .empty) 0x11CAA 0x11CB0 .mark (.node .empty 0x11CB2 0x11CB3 .mark .empty)) 0x11CB5 0x11CB6
  .mark (.node (.node .empty 0x11D31 0x11D45 .mark .empty) 0x11D47 0x11D47 .mark .empty)))))
  0x11D90 0x11D91 .mark (.node (.node (.node (.node (.node (.node .empty 0x11D95 0x11D95 .mark
  .empty) 0x11D97 0x11D97 .mark (.node .empty 0x11EF3 0x11EF4 .mark .empty)) 0x11F00 0x11F01
  .mark (.node (.node .empty 0x11F36 0x11F3A .mark .empty) 0x11F40 0x11F40 .mark (.node .empty
  0x11F42 0x11F42 .mark .empty))) 0x11FD5 0x11FF1 .separator (.node (.node (.node .empty 0x13440
  0x13440 .mark .empty) 0x13447 0x13455 .mark (.node .empty 0x16AF0 0x16AF4 .mark .empty))
  0x16B30 0x16B36 .mark (.node (.node .empty 0x16F4F 0x16F4F .mark .empty) 0x16F8F 0x16F92 .mark
  .empty))) 0x16FE2 0x16FE2 .separator (.node (.node (.node (.node .empty 0x16FE4 0x16FE4 .mark
  .empty) 0x1BC9D 0x1BC9E .mark (.node .empty 0x1CF00 0x1CF46 .mark .empty)) 0x1D167 0x1D169
  .mark (.node (.node .empty 0x1D17B 0x1D182 .mark .empty) 0x1D185 0x1D18B .mark .empty)) 0x1D1AA
  0x1D1AD .mark (.node (.node (.node .empty 0x1D1E9 0x1D241 .separator .empty) 0x1D242 0x1D244
  .mark (.node .empty 0x1D245 0x1D245 .separator .empty)) 0x1D300 0x1D356 .separator (.node
  (.node .empty 0x1DA00 0x1DA36 .mark .empty) 0x1DA3B 0x1DA6C .mark .empty)))) 0x1DA75 0x1DA75
  .mark (.node (.node (.node (.node (.node .empty 0x1DA84 0x1DA84 .mark .empty) 0x1DA9B 0x1DAAF
  .mark (.node .empty 0x1E000 0x1E08F .mark .empty)) 0x1E130 0x1E136 .mark (.node (.node .empty
  0x1E2AE 0x1E2AE .mark .empty) 0x1E2EC 0x1E2EF .mark .empty)) 0x1E2FF 0x1E2FF .separator (.node
  (.node (.node .empty 0x1E4EC 0x1E4EF .mark .empty) 0x1E800 0x1E8CF .right (.node .empty 0x1E8D0
  0x1E8D6 .mark .empty)) 0x1E922 0x1E943 .right (.node (.node .empty 0x1E944 0x1E94A .mark
  .empty) 0x1E94B 0x1E95F .right .empty))) 0x1EC71 0x1ED3D .arabicLetter (.node (.node (.node
  (.node .empty 0x1EEF0 0x1F12F .separator .empty) 0x1F16D 0x1F16F .separator (.node .empty
  0x1F1AD 0x1F1AD .separator .empty)) 0x1F260 0x1F6D7 .separator (.node (.node .empty 0x1F6DC
  0x1F776 .separator .empty) 0x1F77B 0x1F8B1 .separator .empty)) 0x1F900 0x1FA53 .separator
  (.node (.node (.node .empty 0x1FA60 0x1FA88 .separator .empty) 0x1FA90 0x1FABD .separator
  (.node .empty 0x1FABF 0x1FAC5 .separator .empty)) 0x1FACE 0x1FADB .separator (.node (.node
  .empty 0x1FAE0 0x1FAE8 .separator .empty) 0x1FAF0 0x1FBCA .separator .empty)))))))

/-- The direction of a character. -/
def direction (c : Char) : Direction := (directions.find? c.toNat).getD .left

end BareUrl.Address.Domain
