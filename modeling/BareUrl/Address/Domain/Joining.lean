import BareUrl.Text.CodeMap

/-!
# `BareUrl.Address.Domain.Joining`: letters that join

Letters of cursive scripts join their neighbours. A joiner or non-joiner may stand in a host name
only where it makes a difference to them.
-/

set_option autoImplicit false

namespace BareUrl.Address.Domain

/-- How the letters of a cursive script join their neighbours. -/
inductive Joining where
  /-- Joins on both sides. -/
  | both
  /-- Joins only the letter before it. -/
  | before
  /-- Joins only the letter after it. -/
  | after
  /-- Does not get in the way of joining. -/
  | transparent
  /-- Does not join. -/
  | none
deriving DecidableEq, Repr

/-- The characters that join or let join. -/
def joinings : Text.RangeMap Joining :=
  .node (.node (.node (.node (.node (.node (.node (.node (.node .empty 0x300 0x36F .transparent
  .empty) 0x483 0x489 .transparent (.node .empty 0x591 0x5BD .transparent .empty)) 0x5BF 0x5BF
  .transparent (.node (.node .empty 0x5C1 0x5C2 .transparent .empty) 0x5C4 0x5C5 .transparent
  (.node .empty 0x5C7 0x5C7 .transparent .empty))) 0x610 0x61A .transparent (.node (.node (.node
  .empty 0x620 0x620 .both .empty) 0x622 0x625 .before (.node .empty 0x626 0x626 .both .empty))
  0x627 0x627 .before (.node (.node .empty 0x628 0x628 .both .empty) 0x629 0x629 .before
  .empty))) 0x62A 0x62E .both (.node (.node (.node (.node .empty 0x62F 0x632 .before .empty)
  0x633 0x63F .both (.node .empty 0x641 0x647 .both .empty)) 0x648 0x648 .before (.node (.node
  .empty 0x649 0x64A .both .empty) 0x64B 0x65F .transparent .empty)) 0x66E 0x66F .both (.node
  (.node (.node .empty 0x670 0x670 .transparent .empty) 0x671 0x673 .before (.node .empty 0x679
  0x687 .both .empty)) 0x688 0x699 .before (.node (.node .empty 0x69A 0x6BF .both .empty) 0x6C0
  0x6C0 .before .empty)))) 0x6C1 0x6C2 .both (.node (.node (.node (.node (.node .empty 0x6C3
  0x6CB .before .empty) 0x6CC 0x6CC .both (.node .empty 0x6CD 0x6CD .before .empty)) 0x6CE 0x6CE
  .both (.node (.node .empty 0x6CF 0x6CF .before .empty) 0x6D0 0x6D1 .both .empty)) 0x6D2 0x6D3
  .before (.node (.node (.node .empty 0x6D5 0x6D5 .before .empty) 0x6D6 0x6DC .transparent (.node
  .empty 0x6DF 0x6E4 .transparent .empty)) 0x6E7 0x6E8 .transparent (.node (.node .empty 0x6EA
  0x6ED .transparent .empty) 0x6EE 0x6EF .before .empty))) 0x6FA 0x6FC .both (.node (.node (.node
  (.node .empty 0x6FF 0x6FF .both .empty) 0x710 0x710 .before (.node .empty 0x711 0x711
  .transparent .empty)) 0x712 0x714 .both (.node (.node .empty 0x715 0x719 .before .empty) 0x71A
  0x71D .both .empty)) 0x71E 0x71E .before (.node (.node (.node .empty 0x71F 0x727 .both .empty)
  0x728 0x728 .before (.node .empty 0x729 0x729 .both .empty)) 0x72A 0x72A .before (.node (.node
  .empty 0x72B 0x72B .both .empty) 0x72C 0x72C .before .empty))))) 0x72D 0x72E .both (.node
  (.node (.node (.node (.node (.node .empty 0x72F 0x72F .before .empty) 0x730 0x74A .transparent
  (.node .empty 0x74D 0x74D .before .empty)) 0x74E 0x758 .both (.node (.node .empty 0x759 0x75B
  .before .empty) 0x75C 0x76A .both .empty)) 0x76B 0x76C .before (.node (.node (.node .empty
  0x76D 0x770 .both .empty) 0x771 0x771 .before (.node .empty 0x772 0x772 .both .empty)) 0x773
  0x774 .before (.node (.node .empty 0x775 0x777 .both .empty) 0x778 0x779 .before .empty)))
  0x77A 0x77F .both (.node (.node (.node (.node .empty 0x7A6 0x7B0 .transparent .empty) 0x7CA
  0x7EA .both (.node .empty 0x7EB 0x7F3 .transparent .empty)) 0x7FD 0x7FD .transparent (.node
  (.node .empty 0x816 0x819 .transparent .empty) 0x81B 0x823 .transparent .empty)) 0x825 0x827
  .transparent (.node (.node (.node .empty 0x829 0x82D .transparent .empty) 0x840 0x840 .before
  (.node .empty 0x841 0x845 .both .empty)) 0x846 0x847 .before (.node (.node .empty 0x848 0x848
  .both .empty) 0x849 0x849 .before .empty)))) 0x84A 0x853 .both (.node (.node (.node (.node
  (.node .empty 0x854 0x854 .before .empty) 0x855 0x855 .both (.node .empty 0x856 0x858 .before
  .empty)) 0x859 0x85B .transparent (.node (.node .empty 0x860 0x860 .both .empty) 0x862 0x865
  .both .empty)) 0x867 0x867 .before (.node (.node (.node .empty 0x868 0x868 .both .empty) 0x869
  0x882 .before (.node .empty 0x886 0x886 .both .empty)) 0x889 0x88D .both (.node (.node .empty
  0x88E 0x88E .before .empty) 0x898 0x89F .transparent .empty))) 0x8A0 0x8A9 .both (.node (.node
  (.node (.node .empty 0x8AA 0x8AC .before .empty) 0x8AE 0x8AE .before (.node .empty 0x8AF 0x8B0
  .both .empty)) 0x8B1 0x8B2 .before (.node (.node .empty 0x8B3 0x8B8 .both .empty) 0x8B9 0x8B9
  .before .empty)) 0x8BA 0x8C8 .both (.node (.node (.node .empty 0x8CA 0x902 .transparent .empty)
  0x93A 0x93A .transparent (.node .empty 0x93C 0x93C .transparent .empty)) 0x941 0x948
  .transparent (.node (.node .empty 0x94D 0x94D .transparent .empty) 0x951 0x957 .transparent
  .empty)))))) 0x962 0x963 .transparent (.node (.node (.node (.node (.node (.node (.node .empty
  0x981 0x981 .transparent .empty) 0x9BC 0x9BC .transparent (.node .empty 0x9C1 0x9C4
  .transparent .empty)) 0x9CD 0x9CD .transparent (.node (.node .empty 0x9E2 0x9E3 .transparent
  .empty) 0x9FE 0xA02 .transparent (.node .empty 0xA3C 0xA3C .transparent .empty))) 0xA41 0xA51
  .transparent (.node (.node (.node .empty 0xA70 0xA71 .transparent .empty) 0xA75 0xA75
  .transparent (.node .empty 0xA81 0xA82 .transparent .empty)) 0xABC 0xABC .transparent (.node
  (.node .empty 0xAC1 0xAC8 .transparent .empty) 0xACD 0xACD .transparent .empty))) 0xAE2 0xAE3
  .transparent (.node (.node (.node (.node .empty 0xAFA 0xB01 .transparent .empty) 0xB3C 0xB3C
  .transparent (.node .empty 0xB3F 0xB3F .transparent .empty)) 0xB41 0xB44 .transparent (.node
  (.node .empty 0xB4D 0xB56 .transparent .empty) 0xB62 0xB63 .transparent .empty)) 0xB82 0xB82
  .transparent (.node (.node (.node .empty 0xBC0 0xBC0 .transparent .empty) 0xBCD 0xBCD
  .transparent (.node .empty 0xC00 0xC00 .transparent .empty)) 0xC04 0xC04 .transparent (.node
  (.node .empty 0xC3C 0xC3C .transparent .empty) 0xC3E 0xC40 .transparent .empty)))) 0xC46 0xC56
  .transparent (.node (.node (.node (.node (.node .empty 0xC62 0xC63 .transparent .empty) 0xC81
  0xC81 .transparent (.node .empty 0xCBC 0xCBC .transparent .empty)) 0xCBF 0xCBF .transparent
  (.node (.node .empty 0xCC6 0xCC6 .transparent .empty) 0xCCC 0xCCD .transparent .empty)) 0xCE2
  0xCE3 .transparent (.node (.node (.node .empty 0xD00 0xD01 .transparent .empty) 0xD3B 0xD3C
  .transparent (.node .empty 0xD41 0xD44 .transparent .empty)) 0xD4D 0xD4D .transparent (.node
  (.node .empty 0xD62 0xD63 .transparent .empty) 0xD81 0xD81 .transparent .empty))) 0xDCA 0xDCA
  .transparent (.node (.node (.node (.node .empty 0xDD2 0xDD6 .transparent .empty) 0xE31 0xE31
  .transparent (.node .empty 0xE34 0xE3A .transparent .empty)) 0xE47 0xE4E .transparent (.node
  (.node .empty 0xEB1 0xEB1 .transparent .empty) 0xEB4 0xEBC .transparent .empty)) 0xEC8 0xECE
  .transparent (.node (.node (.node .empty 0xF18 0xF19 .transparent .empty) 0xF35 0xF35
  .transparent (.node .empty 0xF37 0xF37 .transparent .empty)) 0xF39 0xF39 .transparent (.node
  (.node .empty 0xF71 0xF7E .transparent .empty) 0xF80 0xF84 .transparent .empty))))) 0xF86 0xF87
  .transparent (.node (.node (.node (.node (.node (.node .empty 0xF8D 0xFBC .transparent .empty)
  0xFC6 0xFC6 .transparent (.node .empty 0x102D 0x1030 .transparent .empty)) 0x1032 0x1037
  .transparent (.node (.node .empty 0x1039 0x103A .transparent .empty) 0x103D 0x103E .transparent
  .empty)) 0x1058 0x1059 .transparent (.node (.node (.node .empty 0x105E 0x1060 .transparent
  .empty) 0x1071 0x1074 .transparent (.node .empty 0x1082 0x1082 .transparent .empty)) 0x1085
  0x1086 .transparent (.node (.node .empty 0x108D 0x108D .transparent .empty) 0x109D 0x109D
  .transparent .empty))) 0x135D 0x135F .transparent (.node (.node (.node (.node .empty 0x1712
  0x1714 .transparent .empty) 0x1732 0x1733 .transparent (.node .empty 0x1752 0x1753 .transparent
  .empty)) 0x1772 0x1773 .transparent (.node (.node .empty 0x17B7 0x17BD .transparent .empty)
  0x17C6 0x17C6 .transparent .empty)) 0x17C9 0x17D3 .transparent (.node (.node (.node .empty
  0x17DD 0x17DD .transparent .empty) 0x1807 0x1807 .both (.node .empty 0x1820 0x1878 .both
  .empty)) 0x1885 0x1886 .transparent (.node (.node .empty 0x1887 0x18A8 .both .empty) 0x18A9
  0x18A9 .transparent .empty)))) 0x18AA 0x18AA .both (.node (.node (.node (.node (.node .empty
  0x1920 0x1922 .transparent .empty) 0x1927 0x1928 .transparent (.node .empty 0x1932 0x1932
  .transparent .empty)) 0x1939 0x193B .transparent (.node (.node .empty 0x1A17 0x1A18
  .transparent .empty) 0x1A1B 0x1A1B .transparent .empty)) 0x1A56 0x1A56 .transparent (.node
  (.node (.node .empty 0x1A58 0x1A60 .transparent .empty) 0x1A62 0x1A62 .transparent (.node
  .empty 0x1A65 0x1A6C .transparent .empty)) 0x1A73 0x1A7F .transparent (.node (.node .empty
  0x1AB0 0x1ACE .transparent .empty) 0x1B00 0x1B03 .transparent .empty))) 0x1B34 0x1B34
  .transparent (.node (.node (.node (.node .empty 0x1B36 0x1B3A .transparent .empty) 0x1B3C
  0x1B3C .transparent (.node .empty 0x1B42 0x1B42 .transparent .empty)) 0x1B6B 0x1B73
  .transparent (.node (.node .empty 0x1B80 0x1B81 .transparent .empty) 0x1BA2 0x1BA5 .transparent
  .empty)) 0x1BA8 0x1BA9 .transparent (.node (.node (.node .empty 0x1BAB 0x1BAD .transparent
  .empty) 0x1BE6 0x1BE6 .transparent (.node .empty 0x1BE8 0x1BE9 .transparent .empty)) 0x1BED
  0x1BED .transparent (.node (.node .empty 0x1BEF 0x1BF1 .transparent .empty) 0x1C2C 0x1C33
  .transparent .empty))))))) 0x1C36 0x1C37 .transparent (.node (.node (.node (.node (.node (.node
  (.node (.node .empty 0x1CD0 0x1CD2 .transparent .empty) 0x1CD4 0x1CE0 .transparent (.node
  .empty 0x1CE2 0x1CE8 .transparent .empty)) 0x1CED 0x1CED .transparent (.node (.node .empty
  0x1CF4 0x1CF4 .transparent .empty) 0x1CF8 0x1CF9 .transparent (.node .empty 0x1DC0 0x1DFF
  .transparent .empty))) 0x20D0 0x20F0 .transparent (.node (.node (.node .empty 0x2CEF 0x2CF1
  .transparent .empty) 0x2D7F 0x2D7F .transparent (.node .empty 0x2DE0 0x2DFF .transparent
  .empty)) 0x302A 0x302D .transparent (.node (.node .empty 0x3099 0x309A .transparent .empty)
  0xA66F 0xA672 .transparent .empty))) 0xA674 0xA67D .transparent (.node (.node (.node (.node
  .empty 0xA69E 0xA69F .transparent .empty) 0xA6F0 0xA6F1 .transparent (.node .empty 0xA802
  0xA802 .transparent .empty)) 0xA806 0xA806 .transparent (.node (.node .empty 0xA80B 0xA80B
  .transparent .empty) 0xA825 0xA826 .transparent .empty)) 0xA82C 0xA82C .transparent (.node
  (.node (.node .empty 0xA840 0xA871 .both .empty) 0xA872 0xA872 .after (.node .empty 0xA8C4
  0xA8C5 .transparent .empty)) 0xA8E0 0xA8F1 .transparent (.node (.node .empty 0xA8FF 0xA8FF
  .transparent .empty) 0xA926 0xA92D .transparent .empty)))) 0xA947 0xA951 .transparent (.node
  (.node (.node (.node (.node .empty 0xA980 0xA982 .transparent .empty) 0xA9B3 0xA9B3
  .transparent (.node .empty 0xA9B6 0xA9B9 .transparent .empty)) 0xA9BC 0xA9BD .transparent
  (.node (.node .empty 0xA9E5 0xA9E5 .transparent .empty) 0xAA29 0xAA2E .transparent .empty))
  0xAA31 0xAA32 .transparent (.node (.node (.node .empty 0xAA35 0xAA36 .transparent .empty)
  0xAA43 0xAA43 .transparent (.node .empty 0xAA4C 0xAA4C .transparent .empty)) 0xAA7C 0xAA7C
  .transparent (.node (.node .empty 0xAAB0 0xAAB0 .transparent .empty) 0xAAB2 0xAAB4 .transparent
  .empty))) 0xAAB7 0xAAB8 .transparent (.node (.node (.node (.node .empty 0xAABE 0xAABF
  .transparent .empty) 0xAAC1 0xAAC1 .transparent (.node .empty 0xAAEC 0xAAED .transparent
  .empty)) 0xAAF6 0xAAF6 .transparent (.node (.node .empty 0xABE5 0xABE5 .transparent .empty)
  0xABE8 0xABE8 .transparent .empty)) 0xABED 0xABED .transparent (.node (.node (.node .empty
  0xFB1E 0xFB1E .transparent .empty) 0xFE20 0xFE2F .transparent (.node .empty 0x101FD 0x101FD
  .transparent .empty)) 0x102E0 0x102E0 .transparent (.node (.node .empty 0x10376 0x1037A
  .transparent .empty) 0x10A01 0x10A0F .transparent .empty))))) 0x10A38 0x10A3F .transparent
  (.node (.node (.node (.node (.node (.node .empty 0x10AC0 0x10AC4 .both .empty) 0x10AC5 0x10AC5
  .before (.node .empty 0x10AC7 0x10AC7 .before .empty)) 0x10AC9 0x10ACA .before (.node (.node
  .empty 0x10ACD 0x10ACD .after .empty) 0x10ACE 0x10AD2 .before .empty)) 0x10AD3 0x10AD6 .both
  (.node (.node (.node .empty 0x10AD7 0x10AD7 .after .empty) 0x10AD8 0x10ADC .both (.node .empty
  0x10ADD 0x10ADD .before .empty)) 0x10ADE 0x10AE0 .both (.node (.node .empty 0x10AE1 0x10AE1
  .before .empty) 0x10AE4 0x10AE4 .before .empty))) 0x10AE5 0x10AE6 .transparent (.node (.node
  (.node (.node .empty 0x10AEB 0x10AEE .both .empty) 0x10AEF 0x10AEF .before (.node .empty
  0x10B80 0x10B80 .both .empty)) 0x10B81 0x10B81 .before (.node (.node .empty 0x10B82 0x10B82
  .both .empty) 0x10B83 0x10B85 .before .empty)) 0x10B86 0x10B88 .both (.node (.node (.node
  .empty 0x10B89 0x10B89 .before .empty) 0x10B8A 0x10B8B .both (.node .empty 0x10B8C 0x10B8C
  .before .empty)) 0x10B8D 0x10B8D .both (.node (.node .empty 0x10B8E 0x10B8F .before .empty)
  0x10B90 0x10B90 .both .empty)))) 0x10B91 0x10B91 .before (.node (.node (.node (.node (.node
  .empty 0x10BA9 0x10BAC .before .empty) 0x10BAD 0x10BAE .both (.node .empty 0x10D00 0x10D00
  .after .empty)) 0x10D01 0x10D21 .both (.node (.node .empty 0x10D22 0x10D22 .before .empty)
  0x10D23 0x10D23 .both .empty)) 0x10D24 0x10D27 .transparent (.node (.node (.node .empty 0x10EAB
  0x10EAC .transparent .empty) 0x10EFD 0x10EFF .transparent (.node .empty 0x10F30 0x10F32 .both
  .empty)) 0x10F33 0x10F33 .before (.node (.node .empty 0x10F34 0x10F44 .both .empty) 0x10F46
  0x10F50 .transparent .empty))) 0x10F51 0x10F53 .both (.node (.node (.node (.node .empty 0x10F54
  0x10F54 .before .empty) 0x10F70 0x10F73 .both (.node .empty 0x10F74 0x10F75 .before .empty))
  0x10F76 0x10F81 .both (.node (.node .empty 0x10F82 0x10F85 .transparent .empty) 0x10FB0 0x10FB0
  .both .empty)) 0x10FB2 0x10FB3 .both (.node (.node (.node .empty 0x10FB4 0x10FB6 .before
  .empty) 0x10FB8 0x10FB8 .both (.node .empty 0x10FB9 0x10FBA .before .empty)) 0x10FBB 0x10FBC
  .both (.node (.node .empty 0x10FBD 0x10FBD .before .empty) 0x10FBE 0x10FBF .both .empty))))))
  0x10FC1 0x10FC1 .both (.node (.node (.node (.node (.node (.node (.node .empty 0x10FC2 0x10FC3
  .before .empty) 0x10FC4 0x10FC4 .both (.node .empty 0x10FC9 0x10FC9 .before .empty)) 0x10FCA
  0x10FCA .both (.node (.node .empty 0x10FCB 0x10FCB .after .empty) 0x11001 0x11001 .transparent
  (.node .empty 0x11038 0x11046 .transparent .empty))) 0x11070 0x11070 .transparent (.node (.node
  (.node .empty 0x11073 0x11074 .transparent .empty) 0x1107F 0x11081 .transparent (.node .empty
  0x110B3 0x110B6 .transparent .empty)) 0x110B9 0x110BA .transparent (.node (.node .empty 0x110C2
  0x110C2 .transparent .empty) 0x11100 0x11102 .transparent .empty))) 0x11127 0x1112B
  .transparent (.node (.node (.node (.node .empty 0x1112D 0x11134 .transparent .empty) 0x11173
  0x11173 .transparent (.node .empty 0x11180 0x11181 .transparent .empty)) 0x111B6 0x111BE
  .transparent (.node (.node .empty 0x111C9 0x111CC .transparent .empty) 0x111CF 0x111CF
  .transparent .empty)) 0x1122F 0x11231 .transparent (.node (.node (.node .empty 0x11234 0x11234
  .transparent .empty) 0x11236 0x11237 .transparent (.node .empty 0x1123E 0x1123E .transparent
  .empty)) 0x11241 0x11241 .transparent (.node (.node .empty 0x112DF 0x112DF .transparent .empty)
  0x112E3 0x112EA .transparent .empty)))) 0x11300 0x11301 .transparent (.node (.node (.node
  (.node (.node .empty 0x1133B 0x1133C .transparent .empty) 0x11340 0x11340 .transparent (.node
  .empty 0x11366 0x11374 .transparent .empty)) 0x11438 0x1143F .transparent (.node (.node .empty
  0x11442 0x11444 .transparent .empty) 0x11446 0x11446 .transparent .empty)) 0x1145E 0x1145E
  .transparent (.node (.node (.node .empty 0x114B3 0x114B8 .transparent .empty) 0x114BA 0x114BA
  .transparent (.node .empty 0x114BF 0x114C0 .transparent .empty)) 0x114C2 0x114C3 .transparent
  (.node (.node .empty 0x115B2 0x115B5 .transparent .empty) 0x115BC 0x115BD .transparent
  .empty))) 0x115BF 0x115C0 .transparent (.node (.node (.node (.node .empty 0x115DC 0x115DD
  .transparent .empty) 0x11633 0x1163A .transparent (.node .empty 0x1163D 0x1163D .transparent
  .empty)) 0x1163F 0x11640 .transparent (.node (.node .empty 0x116AB 0x116AB .transparent .empty)
  0x116AD 0x116AD .transparent .empty)) 0x116B0 0x116B5 .transparent (.node (.node (.node .empty
  0x116B7 0x116B7 .transparent .empty) 0x1171D 0x1171F .transparent (.node .empty 0x11722 0x11725
  .transparent .empty)) 0x11727 0x1172B .transparent (.node (.node .empty 0x1182F 0x11837
  .transparent .empty) 0x11839 0x1183A .transparent .empty))))) 0x1193B 0x1193C .transparent
  (.node (.node (.node (.node (.node (.node .empty 0x1193E 0x1193E .transparent .empty) 0x11943
  0x11943 .transparent (.node .empty 0x119D4 0x119DB .transparent .empty)) 0x119E0 0x119E0
  .transparent (.node (.node .empty 0x11A01 0x11A0A .transparent .empty) 0x11A33 0x11A38
  .transparent .empty)) 0x11A3B 0x11A3E .transparent (.node (.node (.node .empty 0x11A47 0x11A47
  .transparent .empty) 0x11A51 0x11A56 .transparent (.node .empty 0x11A59 0x11A5B .transparent
  .empty)) 0x11A8A 0x11A96 .transparent (.node (.node .empty 0x11A98 0x11A99 .transparent .empty)
  0x11C30 0x11C3D .transparent .empty))) 0x11C3F 0x11C3F .transparent (.node (.node (.node (.node
  .empty 0x11C92 0x11CA7 .transparent .empty) 0x11CAA 0x11CB0 .transparent (.node .empty 0x11CB2
  0x11CB3 .transparent .empty)) 0x11CB5 0x11CB6 .transparent (.node (.node .empty 0x11D31 0x11D45
  .transparent .empty) 0x11D47 0x11D47 .transparent .empty)) 0x11D90 0x11D91 .transparent (.node
  (.node (.node .empty 0x11D95 0x11D95 .transparent .empty) 0x11D97 0x11D97 .transparent (.node
  .empty 0x11EF3 0x11EF4 .transparent .empty)) 0x11F00 0x11F01 .transparent (.node (.node .empty
  0x11F36 0x11F3A .transparent .empty) 0x11F40 0x11F40 .transparent .empty)))) 0x11F42 0x11F42
  .transparent (.node (.node (.node (.node (.node .empty 0x13440 0x13440 .transparent .empty)
  0x13447 0x13455 .transparent (.node .empty 0x16AF0 0x16AF4 .transparent .empty)) 0x16B30
  0x16B36 .transparent (.node (.node .empty 0x16F4F 0x16F4F .transparent .empty) 0x16F8F 0x16F92
  .transparent .empty)) 0x16FE4 0x16FE4 .transparent (.node (.node (.node .empty 0x1BC9D 0x1BC9E
  .transparent .empty) 0x1CF00 0x1CF46 .transparent (.node .empty 0x1D167 0x1D169 .transparent
  .empty)) 0x1D17B 0x1D182 .transparent (.node (.node .empty 0x1D185 0x1D18B .transparent .empty)
  0x1D1AA 0x1D1AD .transparent .empty))) 0x1D242 0x1D244 .transparent (.node (.node (.node (.node
  .empty 0x1DA00 0x1DA36 .transparent .empty) 0x1DA3B 0x1DA6C .transparent (.node .empty 0x1DA75
  0x1DA75 .transparent .empty)) 0x1DA84 0x1DA84 .transparent (.node (.node .empty 0x1DA9B 0x1DAAF
  .transparent .empty) 0x1E000 0x1E08F .transparent .empty)) 0x1E130 0x1E136 .transparent (.node
  (.node (.node .empty 0x1E2AE 0x1E2AE .transparent .empty) 0x1E2EC 0x1E2EF .transparent (.node
  .empty 0x1E4EC 0x1E4EF .transparent .empty)) 0x1E8D0 0x1E8D6 .transparent (.node (.node .empty
  0x1E922 0x1E943 .both .empty) 0x1E944 0x1E94B .transparent .empty)))))))

/-- How a character joins. -/
def joining (c : Char) : Joining := (joinings.find? c.toNat).getD .none

end BareUrl.Address.Domain
