import BareUrl.Text.CharSet

/-!
# `BareUrl.Text.Letter`: letters and marks

The grammar of URLs never separates letters from the marks that combine with them: a host name or
a path may hold either. `isLetter` is the union of the general categories L and M of Unicode 17,
with ASCII decided by comparison and everything beyond it by a search tree.
-/

set_option autoImplicit false

namespace BareUrl.Text

/-- The letters and marks beyond ASCII. -/
def lettersBeyondAscii : CharSet :=
  .node (.node (.node (.node (.node (.node (.node (.node (.node (.node .empty 0xAA 0xAA .empty)
  0xB5 0xB5 .empty) 0xBA 0xBA (.node (.node .empty 0xC0 0xD6 .empty) 0xD8 0xF6 .empty)) 0xF8
  0x2C1 (.node (.node (.node .empty 0x2C6 0x2D1 .empty) 0x2E0 0x2E4 .empty) 0x2EC 0x2EC (.node
  (.node .empty 0x2EE 0x2EE .empty) 0x300 0x374 .empty))) 0x376 0x377 (.node (.node (.node
  (.node .empty 0x37A 0x37D .empty) 0x37F 0x37F .empty) 0x386 0x386 (.node (.node .empty 0x388
  0x38A .empty) 0x38C 0x38C .empty)) 0x38E 0x3A1 (.node (.node (.node .empty 0x3A3 0x3F5
  .empty) 0x3F7 0x481 .empty) 0x483 0x52F (.node (.node .empty 0x531 0x556 .empty) 0x559 0x559
  .empty)))) 0x560 0x588 (.node (.node (.node (.node (.node .empty 0x591 0x5BD .empty) 0x5BF
  0x5BF .empty) 0x5C1 0x5C2 (.node (.node .empty 0x5C4 0x5C5 .empty) 0x5C7 0x5C7 .empty)) 0x5D0
  0x5EA (.node (.node (.node .empty 0x5EF 0x5F2 .empty) 0x610 0x61A .empty) 0x620 0x65F (.node
  (.node .empty 0x66E 0x6D3 .empty) 0x6D5 0x6DC .empty))) 0x6DF 0x6E8 (.node (.node (.node
  (.node .empty 0x6EA 0x6EF .empty) 0x6FA 0x6FC .empty) 0x6FF 0x6FF (.node (.node .empty 0x710
  0x74A .empty) 0x74D 0x7B1 .empty)) 0x7CA 0x7F5 (.node (.node (.node .empty 0x7FA 0x7FA
  .empty) 0x7FD 0x7FD .empty) 0x800 0x82D (.node .empty 0x840 0x85B .empty))))) 0x860 0x86A
  (.node (.node (.node (.node (.node (.node .empty 0x870 0x887 .empty) 0x889 0x88F .empty)
  0x897 0x8E1 (.node (.node .empty 0x8E3 0x963 .empty) 0x971 0x983 .empty)) 0x985 0x98C (.node
  (.node (.node .empty 0x98F 0x990 .empty) 0x993 0x9A8 .empty) 0x9AA 0x9B0 (.node (.node .empty
  0x9B2 0x9B2 .empty) 0x9B6 0x9B9 .empty))) 0x9BC 0x9C4 (.node (.node (.node (.node .empty
  0x9C7 0x9C8 .empty) 0x9CB 0x9CE .empty) 0x9D7 0x9D7 (.node (.node .empty 0x9DC 0x9DD .empty)
  0x9DF 0x9E3 .empty)) 0x9F0 0x9F1 (.node (.node (.node .empty 0x9FC 0x9FC .empty) 0x9FE 0x9FE
  .empty) 0xA01 0xA03 (.node (.node .empty 0xA05 0xA0A .empty) 0xA0F 0xA10 .empty)))) 0xA13
  0xA28 (.node (.node (.node (.node (.node .empty 0xA2A 0xA30 .empty) 0xA32 0xA33 .empty) 0xA35
  0xA36 (.node (.node .empty 0xA38 0xA39 .empty) 0xA3C 0xA3C .empty)) 0xA3E 0xA42 (.node (.node
  (.node .empty 0xA47 0xA48 .empty) 0xA4B 0xA4D .empty) 0xA51 0xA51 (.node (.node .empty 0xA59
  0xA5C .empty) 0xA5E 0xA5E .empty))) 0xA70 0xA75 (.node (.node (.node (.node .empty 0xA81
  0xA83 .empty) 0xA85 0xA8D .empty) 0xA8F 0xA91 (.node (.node .empty 0xA93 0xAA8 .empty) 0xAAA
  0xAB0 .empty)) 0xAB2 0xAB3 (.node (.node (.node .empty 0xAB5 0xAB9 .empty) 0xABC 0xAC5
  .empty) 0xAC7 0xAC9 (.node .empty 0xACB 0xACD .empty)))))) 0xAD0 0xAD0 (.node (.node (.node
  (.node (.node (.node (.node .empty 0xAE0 0xAE3 .empty) 0xAF9 0xAFF .empty) 0xB01 0xB03 (.node
  (.node .empty 0xB05 0xB0C .empty) 0xB0F 0xB10 .empty)) 0xB13 0xB28 (.node (.node (.node
  .empty 0xB2A 0xB30 .empty) 0xB32 0xB33 .empty) 0xB35 0xB39 (.node (.node .empty 0xB3C 0xB44
  .empty) 0xB47 0xB48 .empty))) 0xB4B 0xB4D (.node (.node (.node (.node .empty 0xB55 0xB57
  .empty) 0xB5C 0xB5D .empty) 0xB5F 0xB63 (.node (.node .empty 0xB71 0xB71 .empty) 0xB82 0xB83
  .empty)) 0xB85 0xB8A (.node (.node (.node .empty 0xB8E 0xB90 .empty) 0xB92 0xB95 .empty)
  0xB99 0xB9A (.node (.node .empty 0xB9C 0xB9C .empty) 0xB9E 0xB9F .empty)))) 0xBA3 0xBA4
  (.node (.node (.node (.node (.node .empty 0xBA8 0xBAA .empty) 0xBAE 0xBB9 .empty) 0xBBE 0xBC2
  (.node (.node .empty 0xBC6 0xBC8 .empty) 0xBCA 0xBCD .empty)) 0xBD0 0xBD0 (.node (.node
  (.node .empty 0xBD7 0xBD7 .empty) 0xC00 0xC0C .empty) 0xC0E 0xC10 (.node (.node .empty 0xC12
  0xC28 .empty) 0xC2A 0xC39 .empty))) 0xC3C 0xC44 (.node (.node (.node (.node .empty 0xC46
  0xC48 .empty) 0xC4A 0xC4D .empty) 0xC55 0xC56 (.node (.node .empty 0xC58 0xC5A .empty) 0xC5C
  0xC5D .empty)) 0xC60 0xC63 (.node (.node (.node .empty 0xC80 0xC83 .empty) 0xC85 0xC8C
  .empty) 0xC8E 0xC90 (.node .empty 0xC92 0xCA8 .empty))))) 0xCAA 0xCB3 (.node (.node (.node
  (.node (.node (.node .empty 0xCB5 0xCB9 .empty) 0xCBC 0xCC4 .empty) 0xCC6 0xCC8 (.node (.node
  .empty 0xCCA 0xCCD .empty) 0xCD5 0xCD6 .empty)) 0xCDC 0xCDE (.node (.node (.node .empty 0xCE0
  0xCE3 .empty) 0xCF1 0xCF3 .empty) 0xD00 0xD0C (.node (.node .empty 0xD0E 0xD10 .empty) 0xD12
  0xD44 .empty))) 0xD46 0xD48 (.node (.node (.node (.node .empty 0xD4A 0xD4E .empty) 0xD54
  0xD57 .empty) 0xD5F 0xD63 (.node (.node .empty 0xD7A 0xD7F .empty) 0xD81 0xD83 .empty)) 0xD85
  0xD96 (.node (.node (.node .empty 0xD9A 0xDB1 .empty) 0xDB3 0xDBB .empty) 0xDBD 0xDBD (.node
  (.node .empty 0xDC0 0xDC6 .empty) 0xDCA 0xDCA .empty)))) 0xDCF 0xDD4 (.node (.node (.node
  (.node (.node .empty 0xDD6 0xDD6 .empty) 0xDD8 0xDDF .empty) 0xDF2 0xDF3 (.node (.node .empty
  0xE01 0xE3A .empty) 0xE40 0xE4E .empty)) 0xE81 0xE82 (.node (.node (.node .empty 0xE84 0xE84
  .empty) 0xE86 0xE8A .empty) 0xE8C 0xEA3 (.node (.node .empty 0xEA5 0xEA5 .empty) 0xEA7 0xEBD
  .empty))) 0xEC0 0xEC4 (.node (.node (.node (.node .empty 0xEC6 0xEC6 .empty) 0xEC8 0xECE
  .empty) 0xEDC 0xEDF (.node (.node .empty 0xF00 0xF00 .empty) 0xF18 0xF19 .empty)) 0xF35 0xF35
  (.node (.node (.node .empty 0xF37 0xF37 .empty) 0xF39 0xF39 .empty) 0xF3E 0xF47 (.node .empty
  0xF49 0xF6C .empty))))))) 0xF71 0xF84 (.node (.node (.node (.node (.node (.node (.node (.node
  .empty 0xF86 0xF97 .empty) 0xF99 0xFBC .empty) 0xFC6 0xFC6 (.node (.node .empty 0x1000 0x103F
  .empty) 0x1050 0x108F .empty)) 0x109A 0x109D (.node (.node (.node .empty 0x10A0 0x10C5
  .empty) 0x10C7 0x10C7 .empty) 0x10CD 0x10CD (.node (.node .empty 0x10D0 0x10FA .empty) 0x10FC
  0x1248 .empty))) 0x124A 0x124D (.node (.node (.node (.node .empty 0x1250 0x1256 .empty)
  0x1258 0x1258 .empty) 0x125A 0x125D (.node (.node .empty 0x1260 0x1288 .empty) 0x128A 0x128D
  .empty)) 0x1290 0x12B0 (.node (.node (.node .empty 0x12B2 0x12B5 .empty) 0x12B8 0x12BE
  .empty) 0x12C0 0x12C0 (.node (.node .empty 0x12C2 0x12C5 .empty) 0x12C8 0x12D6 .empty))))
  0x12D8 0x1310 (.node (.node (.node (.node (.node .empty 0x1312 0x1315 .empty) 0x1318 0x135A
  .empty) 0x135D 0x135F (.node (.node .empty 0x1380 0x138F .empty) 0x13A0 0x13F5 .empty))
  0x13F8 0x13FD (.node (.node (.node .empty 0x1401 0x166C .empty) 0x166F 0x167F .empty) 0x1681
  0x169A (.node (.node .empty 0x16A0 0x16EA .empty) 0x16F1 0x16F8 .empty))) 0x1700 0x1715
  (.node (.node (.node (.node .empty 0x171F 0x1734 .empty) 0x1740 0x1753 .empty) 0x1760 0x176C
  (.node (.node .empty 0x176E 0x1770 .empty) 0x1772 0x1773 .empty)) 0x1780 0x17D3 (.node (.node
  (.node .empty 0x17D7 0x17D7 .empty) 0x17DC 0x17DD .empty) 0x180B 0x180D (.node .empty 0x180F
  0x180F .empty))))) 0x1820 0x1878 (.node (.node (.node (.node (.node (.node .empty 0x1880
  0x18AA .empty) 0x18B0 0x18F5 .empty) 0x1900 0x191E (.node (.node .empty 0x1920 0x192B .empty)
  0x1930 0x193B .empty)) 0x1950 0x196D (.node (.node (.node .empty 0x1970 0x1974 .empty) 0x1980
  0x19AB .empty) 0x19B0 0x19C9 (.node (.node .empty 0x1A00 0x1A1B .empty) 0x1A20 0x1A5E
  .empty))) 0x1A60 0x1A7C (.node (.node (.node (.node .empty 0x1A7F 0x1A7F .empty) 0x1AA7
  0x1AA7 .empty) 0x1AB0 0x1ADD (.node (.node .empty 0x1AE0 0x1AEB .empty) 0x1B00 0x1B4C
  .empty)) 0x1B6B 0x1B73 (.node (.node (.node .empty 0x1B80 0x1BAF .empty) 0x1BBA 0x1BF3
  .empty) 0x1C00 0x1C37 (.node (.node .empty 0x1C4D 0x1C4F .empty) 0x1C5A 0x1C7D .empty))))
  0x1C80 0x1C8A (.node (.node (.node (.node (.node .empty 0x1C90 0x1CBA .empty) 0x1CBD 0x1CBF
  .empty) 0x1CD0 0x1CD2 (.node (.node .empty 0x1CD4 0x1CFA .empty) 0x1D00 0x1F15 .empty))
  0x1F18 0x1F1D (.node (.node (.node .empty 0x1F20 0x1F45 .empty) 0x1F48 0x1F4D .empty) 0x1F50
  0x1F57 (.node (.node .empty 0x1F59 0x1F59 .empty) 0x1F5B 0x1F5B .empty))) 0x1F5D 0x1F5D
  (.node (.node (.node (.node .empty 0x1F5F 0x1F7D .empty) 0x1F80 0x1FB4 .empty) 0x1FB6 0x1FBC
  (.node (.node .empty 0x1FBE 0x1FBE .empty) 0x1FC2 0x1FC4 .empty)) 0x1FC6 0x1FCC (.node (.node
  (.node .empty 0x1FD0 0x1FD3 .empty) 0x1FD6 0x1FDB .empty) 0x1FE0 0x1FEC (.node .empty 0x1FF2
  0x1FF4 .empty)))))) 0x1FF6 0x1FFC (.node (.node (.node (.node (.node (.node (.node .empty
  0x2071 0x2071 .empty) 0x207F 0x207F .empty) 0x2090 0x209C (.node (.node .empty 0x20D0 0x20F0
  .empty) 0x2102 0x2102 .empty)) 0x2107 0x2107 (.node (.node (.node .empty 0x210A 0x2113
  .empty) 0x2115 0x2115 .empty) 0x2119 0x211D (.node (.node .empty 0x2124 0x2124 .empty) 0x2126
  0x2126 .empty))) 0x2128 0x2128 (.node (.node (.node (.node .empty 0x212A 0x212D .empty)
  0x212F 0x2139 .empty) 0x213C 0x213F (.node (.node .empty 0x2145 0x2149 .empty) 0x214E 0x214E
  .empty)) 0x2183 0x2184 (.node (.node (.node .empty 0x2C00 0x2CE4 .empty) 0x2CEB 0x2CF3
  .empty) 0x2D00 0x2D25 (.node (.node .empty 0x2D27 0x2D27 .empty) 0x2D2D 0x2D2D .empty))))
  0x2D30 0x2D67 (.node (.node (.node (.node (.node .empty 0x2D6F 0x2D6F .empty) 0x2D7F 0x2D96
  .empty) 0x2DA0 0x2DA6 (.node (.node .empty 0x2DA8 0x2DAE .empty) 0x2DB0 0x2DB6 .empty))
  0x2DB8 0x2DBE (.node (.node (.node .empty 0x2DC0 0x2DC6 .empty) 0x2DC8 0x2DCE .empty) 0x2DD0
  0x2DD6 (.node (.node .empty 0x2DD8 0x2DDE .empty) 0x2DE0 0x2DFF .empty))) 0x2E2F 0x2E2F
  (.node (.node (.node (.node .empty 0x3005 0x3006 .empty) 0x302A 0x302F .empty) 0x3031 0x3035
  (.node (.node .empty 0x303B 0x303C .empty) 0x3041 0x3096 .empty)) 0x3099 0x309A (.node (.node
  (.node .empty 0x309D 0x309F .empty) 0x30A1 0x30FA .empty) 0x30FC 0x30FF (.node .empty 0x3105
  0x312F .empty))))) 0x3131 0x318E (.node (.node (.node (.node (.node (.node .empty 0x31A0
  0x31BF .empty) 0x31F0 0x31FF .empty) 0x3400 0x4DBF (.node (.node .empty 0x4E00 0xA48C .empty)
  0xA4D0 0xA4FD .empty)) 0xA500 0xA60C (.node (.node (.node .empty 0xA610 0xA61F .empty) 0xA62A
  0xA62B .empty) 0xA640 0xA672 (.node (.node .empty 0xA674 0xA67D .empty) 0xA67F 0xA6E5
  .empty))) 0xA6F0 0xA6F1 (.node (.node (.node (.node .empty 0xA717 0xA71F .empty) 0xA722
  0xA788 .empty) 0xA78B 0xA7DC (.node (.node .empty 0xA7F1 0xA827 .empty) 0xA82C 0xA82C
  .empty)) 0xA840 0xA873 (.node (.node (.node .empty 0xA880 0xA8C5 .empty) 0xA8E0 0xA8F7
  .empty) 0xA8FB 0xA8FB (.node .empty 0xA8FD 0xA8FF .empty)))) 0xA90A 0xA92D (.node (.node
  (.node (.node (.node .empty 0xA930 0xA953 .empty) 0xA960 0xA97C .empty) 0xA980 0xA9C0 (.node
  (.node .empty 0xA9CF 0xA9CF .empty) 0xA9E0 0xA9EF .empty)) 0xA9FA 0xA9FE (.node (.node (.node
  .empty 0xAA00 0xAA36 .empty) 0xAA40 0xAA4D .empty) 0xAA60 0xAA76 (.node (.node .empty 0xAA7A
  0xAAC2 .empty) 0xAADB 0xAADD .empty))) 0xAAE0 0xAAEF (.node (.node (.node (.node .empty
  0xAAF2 0xAAF6 .empty) 0xAB01 0xAB06 .empty) 0xAB09 0xAB0E (.node (.node .empty 0xAB11 0xAB16
  .empty) 0xAB20 0xAB26 .empty)) 0xAB28 0xAB2E (.node (.node (.node .empty 0xAB30 0xAB5A
  .empty) 0xAB5C 0xAB69 .empty) 0xAB70 0xABEA (.node .empty 0xABEC 0xABED .empty)))))))) 0xAC00
  0xD7A3 (.node (.node (.node (.node (.node (.node (.node (.node (.node .empty 0xD7B0 0xD7C6
  .empty) 0xD7CB 0xD7FB .empty) 0xF900 0xFA6D (.node (.node .empty 0xFA70 0xFAD9 .empty) 0xFB00
  0xFB06 .empty)) 0xFB13 0xFB17 (.node (.node (.node .empty 0xFB1D 0xFB28 .empty) 0xFB2A 0xFB36
  .empty) 0xFB38 0xFB3C (.node (.node .empty 0xFB3E 0xFB3E .empty) 0xFB40 0xFB41 .empty)))
  0xFB43 0xFB44 (.node (.node (.node (.node .empty 0xFB46 0xFBB1 .empty) 0xFBD3 0xFD3D .empty)
  0xFD50 0xFD8F (.node (.node .empty 0xFD92 0xFDC7 .empty) 0xFDF0 0xFDFB .empty)) 0xFE00 0xFE0F
  (.node (.node (.node .empty 0xFE20 0xFE2F .empty) 0xFE70 0xFE74 .empty) 0xFE76 0xFEFC (.node
  (.node .empty 0xFF21 0xFF3A .empty) 0xFF41 0xFF5A .empty)))) 0xFF66 0xFFBE (.node (.node
  (.node (.node (.node .empty 0xFFC2 0xFFC7 .empty) 0xFFCA 0xFFCF .empty) 0xFFD2 0xFFD7 (.node
  (.node .empty 0xFFDA 0xFFDC .empty) 0x10000 0x1000B .empty)) 0x1000D 0x10026 (.node (.node
  (.node .empty 0x10028 0x1003A .empty) 0x1003C 0x1003D .empty) 0x1003F 0x1004D (.node (.node
  .empty 0x10050 0x1005D .empty) 0x10080 0x100FA .empty))) 0x101FD 0x101FD (.node (.node (.node
  (.node .empty 0x10280 0x1029C .empty) 0x102A0 0x102D0 .empty) 0x102E0 0x102E0 (.node (.node
  .empty 0x10300 0x1031F .empty) 0x1032D 0x10340 .empty)) 0x10342 0x10349 (.node (.node (.node
  .empty 0x10350 0x1037A .empty) 0x10380 0x1039D .empty) 0x103A0 0x103C3 (.node .empty 0x103C8
  0x103CF .empty))))) 0x10400 0x1049D (.node (.node (.node (.node (.node (.node .empty 0x104B0
  0x104D3 .empty) 0x104D8 0x104FB .empty) 0x10500 0x10527 (.node (.node .empty 0x10530 0x10563
  .empty) 0x10570 0x1057A .empty)) 0x1057C 0x1058A (.node (.node (.node .empty 0x1058C 0x10592
  .empty) 0x10594 0x10595 .empty) 0x10597 0x105A1 (.node (.node .empty 0x105A3 0x105B1 .empty)
  0x105B3 0x105B9 .empty))) 0x105BB 0x105BC (.node (.node (.node (.node .empty 0x105C0 0x105F3
  .empty) 0x10600 0x10736 .empty) 0x10740 0x10755 (.node (.node .empty 0x10760 0x10767 .empty)
  0x10780 0x10785 .empty)) 0x10787 0x107B0 (.node (.node (.node .empty 0x107B2 0x107BA .empty)
  0x10800 0x10805 .empty) 0x10808 0x10808 (.node (.node .empty 0x1080A 0x10835 .empty) 0x10837
  0x10838 .empty)))) 0x1083C 0x1083C (.node (.node (.node (.node (.node .empty 0x1083F 0x10855
  .empty) 0x10860 0x10876 .empty) 0x10880 0x1089E (.node (.node .empty 0x108E0 0x108F2 .empty)
  0x108F4 0x108F5 .empty)) 0x10900 0x10915 (.node (.node (.node .empty 0x10920 0x10939 .empty)
  0x10940 0x10959 .empty) 0x10980 0x109B7 (.node (.node .empty 0x109BE 0x109BF .empty) 0x10A00
  0x10A03 .empty))) 0x10A05 0x10A06 (.node (.node (.node (.node .empty 0x10A0C 0x10A13 .empty)
  0x10A15 0x10A17 .empty) 0x10A19 0x10A35 (.node (.node .empty 0x10A38 0x10A3A .empty) 0x10A3F
  0x10A3F .empty)) 0x10A60 0x10A7C (.node (.node (.node .empty 0x10A80 0x10A9C .empty) 0x10AC0
  0x10AC7 .empty) 0x10AC9 0x10AE6 (.node .empty 0x10B00 0x10B35 .empty)))))) 0x10B40 0x10B55
  (.node (.node (.node (.node (.node (.node (.node .empty 0x10B60 0x10B72 .empty) 0x10B80
  0x10B91 .empty) 0x10C00 0x10C48 (.node (.node .empty 0x10C80 0x10CB2 .empty) 0x10CC0 0x10CF2
  .empty)) 0x10D00 0x10D27 (.node (.node (.node .empty 0x10D4A 0x10D65 .empty) 0x10D69 0x10D6D
  .empty) 0x10D6F 0x10D85 (.node (.node .empty 0x10E80 0x10EA9 .empty) 0x10EAB 0x10EAC
  .empty))) 0x10EB0 0x10EB1 (.node (.node (.node (.node .empty 0x10EC2 0x10EC7 .empty) 0x10EFA
  0x10F1C .empty) 0x10F27 0x10F27 (.node (.node .empty 0x10F30 0x10F50 .empty) 0x10F70 0x10F85
  .empty)) 0x10FB0 0x10FC4 (.node (.node (.node .empty 0x10FE0 0x10FF6 .empty) 0x11000 0x11046
  .empty) 0x11070 0x11075 (.node (.node .empty 0x1107F 0x110BA .empty) 0x110C2 0x110C2
  .empty)))) 0x110D0 0x110E8 (.node (.node (.node (.node (.node .empty 0x11100 0x11134 .empty)
  0x11144 0x11147 .empty) 0x11150 0x11173 (.node (.node .empty 0x11176 0x11176 .empty) 0x11180
  0x111C4 .empty)) 0x111C9 0x111CC (.node (.node (.node .empty 0x111CE 0x111CF .empty) 0x111DA
  0x111DA .empty) 0x111DC 0x111DC (.node (.node .empty 0x11200 0x11211 .empty) 0x11213 0x11237
  .empty))) 0x1123E 0x11241 (.node (.node (.node (.node .empty 0x11280 0x11286 .empty) 0x11288
  0x11288 .empty) 0x1128A 0x1128D (.node (.node .empty 0x1128F 0x1129D .empty) 0x1129F 0x112A8
  .empty)) 0x112B0 0x112EA (.node (.node (.node .empty 0x11300 0x11303 .empty) 0x11305 0x1130C
  .empty) 0x1130F 0x11310 (.node .empty 0x11313 0x11328 .empty))))) 0x1132A 0x11330 (.node
  (.node (.node (.node (.node (.node .empty 0x11332 0x11333 .empty) 0x11335 0x11339 .empty)
  0x1133B 0x11344 (.node (.node .empty 0x11347 0x11348 .empty) 0x1134B 0x1134D .empty)) 0x11350
  0x11350 (.node (.node (.node .empty 0x11357 0x11357 .empty) 0x1135D 0x11363 .empty) 0x11366
  0x1136C (.node (.node .empty 0x11370 0x11374 .empty) 0x11380 0x11389 .empty))) 0x1138B
  0x1138B (.node (.node (.node (.node .empty 0x1138E 0x1138E .empty) 0x11390 0x113B5 .empty)
  0x113B7 0x113C0 (.node (.node .empty 0x113C2 0x113C2 .empty) 0x113C5 0x113C5 .empty)) 0x113C7
  0x113CA (.node (.node (.node .empty 0x113CC 0x113D3 .empty) 0x113E1 0x113E2 .empty) 0x11400
  0x1144A (.node (.node .empty 0x1145E 0x11461 .empty) 0x11480 0x114C5 .empty)))) 0x114C7
  0x114C7 (.node (.node (.node (.node (.node .empty 0x11580 0x115B5 .empty) 0x115B8 0x115C0
  .empty) 0x115D8 0x115DD (.node (.node .empty 0x11600 0x11640 .empty) 0x11644 0x11644 .empty))
  0x11680 0x116B8 (.node (.node (.node .empty 0x11700 0x1171A .empty) 0x1171D 0x1172B .empty)
  0x11740 0x11746 (.node (.node .empty 0x11800 0x1183A .empty) 0x118A0 0x118DF .empty)))
  0x118FF 0x11906 (.node (.node (.node (.node .empty 0x11909 0x11909 .empty) 0x1190C 0x11913
  .empty) 0x11915 0x11916 (.node (.node .empty 0x11918 0x11935 .empty) 0x11937 0x11938 .empty))
  0x1193B 0x11943 (.node (.node (.node .empty 0x119A0 0x119A7 .empty) 0x119AA 0x119D7 .empty)
  0x119DA 0x119E1 (.node .empty 0x119E3 0x119E4 .empty))))))) 0x11A00 0x11A3E (.node (.node
  (.node (.node (.node (.node (.node (.node .empty 0x11A47 0x11A47 .empty) 0x11A50 0x11A99
  .empty) 0x11A9D 0x11A9D (.node (.node .empty 0x11AB0 0x11AF8 .empty) 0x11B60 0x11B67 .empty))
  0x11BC0 0x11BE0 (.node (.node (.node .empty 0x11C00 0x11C08 .empty) 0x11C0A 0x11C36 .empty)
  0x11C38 0x11C40 (.node (.node .empty 0x11C72 0x11C8F .empty) 0x11C92 0x11CA7 .empty)))
  0x11CA9 0x11CB6 (.node (.node (.node (.node .empty 0x11D00 0x11D06 .empty) 0x11D08 0x11D09
  .empty) 0x11D0B 0x11D36 (.node (.node .empty 0x11D3A 0x11D3A .empty) 0x11D3C 0x11D3D .empty))
  0x11D3F 0x11D47 (.node (.node (.node .empty 0x11D60 0x11D65 .empty) 0x11D67 0x11D68 .empty)
  0x11D6A 0x11D8E (.node (.node .empty 0x11D90 0x11D91 .empty) 0x11D93 0x11D98 .empty))))
  0x11DB0 0x11DDB (.node (.node (.node (.node (.node .empty 0x11EE0 0x11EF6 .empty) 0x11F00
  0x11F10 .empty) 0x11F12 0x11F3A (.node (.node .empty 0x11F3E 0x11F42 .empty) 0x11F5A 0x11F5A
  .empty)) 0x11FB0 0x11FB0 (.node (.node (.node .empty 0x12000 0x12399 .empty) 0x12480 0x12543
  .empty) 0x12F90 0x12FF0 (.node (.node .empty 0x13000 0x1342F .empty) 0x13440 0x13455
  .empty))) 0x13460 0x143FA (.node (.node (.node (.node .empty 0x14400 0x14646 .empty) 0x16100
  0x1612F .empty) 0x16800 0x16A38 (.node (.node .empty 0x16A40 0x16A5E .empty) 0x16A70 0x16ABE
  .empty)) 0x16AD0 0x16AED (.node (.node (.node .empty 0x16AF0 0x16AF4 .empty) 0x16B00 0x16B36
  .empty) 0x16B40 0x16B43 (.node .empty 0x16B63 0x16B77 .empty))))) 0x16B7D 0x16B8F (.node
  (.node (.node (.node (.node (.node .empty 0x16D40 0x16D6C .empty) 0x16E40 0x16E7F .empty)
  0x16EA0 0x16EB8 (.node (.node .empty 0x16EBB 0x16ED3 .empty) 0x16F00 0x16F4A .empty)) 0x16F4F
  0x16F87 (.node (.node (.node .empty 0x16F8F 0x16F9F .empty) 0x16FE0 0x16FE1 .empty) 0x16FE3
  0x16FE4 (.node (.node .empty 0x16FF0 0x16FF3 .empty) 0x17000 0x18CD5 .empty))) 0x18CFF
  0x18D1E (.node (.node (.node (.node .empty 0x18D80 0x18DF2 .empty) 0x1AFF0 0x1AFF3 .empty)
  0x1AFF5 0x1AFFB (.node (.node .empty 0x1AFFD 0x1AFFE .empty) 0x1B000 0x1B122 .empty)) 0x1B132
  0x1B132 (.node (.node (.node .empty 0x1B150 0x1B152 .empty) 0x1B155 0x1B155 .empty) 0x1B164
  0x1B167 (.node (.node .empty 0x1B170 0x1B2FB .empty) 0x1BC00 0x1BC6A .empty)))) 0x1BC70
  0x1BC7C (.node (.node (.node (.node (.node .empty 0x1BC80 0x1BC88 .empty) 0x1BC90 0x1BC99
  .empty) 0x1BC9D 0x1BC9E (.node (.node .empty 0x1CF00 0x1CF2D .empty) 0x1CF30 0x1CF46 .empty))
  0x1D165 0x1D169 (.node (.node (.node .empty 0x1D16D 0x1D172 .empty) 0x1D17B 0x1D182 .empty)
  0x1D185 0x1D18B (.node (.node .empty 0x1D1AA 0x1D1AD .empty) 0x1D242 0x1D244 .empty)))
  0x1D400 0x1D454 (.node (.node (.node (.node .empty 0x1D456 0x1D49C .empty) 0x1D49E 0x1D49F
  .empty) 0x1D4A2 0x1D4A2 (.node (.node .empty 0x1D4A5 0x1D4A6 .empty) 0x1D4A9 0x1D4AC .empty))
  0x1D4AE 0x1D4B9 (.node (.node (.node .empty 0x1D4BB 0x1D4BB .empty) 0x1D4BD 0x1D4C3 .empty)
  0x1D4C5 0x1D505 (.node .empty 0x1D507 0x1D50A .empty)))))) 0x1D50D 0x1D514 (.node (.node
  (.node (.node (.node (.node (.node .empty 0x1D516 0x1D51C .empty) 0x1D51E 0x1D539 .empty)
  0x1D53B 0x1D53E (.node (.node .empty 0x1D540 0x1D544 .empty) 0x1D546 0x1D546 .empty)) 0x1D54A
  0x1D550 (.node (.node (.node .empty 0x1D552 0x1D6A5 .empty) 0x1D6A8 0x1D6C0 .empty) 0x1D6C2
  0x1D6DA (.node (.node .empty 0x1D6DC 0x1D6FA .empty) 0x1D6FC 0x1D714 .empty))) 0x1D716
  0x1D734 (.node (.node (.node (.node .empty 0x1D736 0x1D74E .empty) 0x1D750 0x1D76E .empty)
  0x1D770 0x1D788 (.node (.node .empty 0x1D78A 0x1D7A8 .empty) 0x1D7AA 0x1D7C2 .empty)) 0x1D7C4
  0x1D7CB (.node (.node (.node .empty 0x1DA00 0x1DA36 .empty) 0x1DA3B 0x1DA6C .empty) 0x1DA75
  0x1DA75 (.node (.node .empty 0x1DA84 0x1DA84 .empty) 0x1DA9B 0x1DA9F .empty)))) 0x1DAA1
  0x1DAAF (.node (.node (.node (.node (.node .empty 0x1DF00 0x1DF1E .empty) 0x1DF25 0x1DF2A
  .empty) 0x1E000 0x1E006 (.node (.node .empty 0x1E008 0x1E018 .empty) 0x1E01B 0x1E021 .empty))
  0x1E023 0x1E024 (.node (.node (.node .empty 0x1E026 0x1E02A .empty) 0x1E030 0x1E06D .empty)
  0x1E08F 0x1E08F (.node (.node .empty 0x1E100 0x1E12C .empty) 0x1E130 0x1E13D .empty)))
  0x1E14E 0x1E14E (.node (.node (.node (.node .empty 0x1E290 0x1E2AE .empty) 0x1E2C0 0x1E2EF
  .empty) 0x1E4D0 0x1E4EF (.node (.node .empty 0x1E5D0 0x1E5F0 .empty) 0x1E6C0 0x1E6DE .empty))
  0x1E6E0 0x1E6F5 (.node (.node (.node .empty 0x1E6FE 0x1E6FF .empty) 0x1E7E0 0x1E7E6 .empty)
  0x1E7E8 0x1E7EB (.node .empty 0x1E7ED 0x1E7EE .empty))))) 0x1E7F0 0x1E7FE (.node (.node
  (.node (.node (.node (.node .empty 0x1E800 0x1E8C4 .empty) 0x1E8D0 0x1E8D6 .empty) 0x1E900
  0x1E94B (.node (.node .empty 0x1EE00 0x1EE03 .empty) 0x1EE05 0x1EE1F .empty)) 0x1EE21 0x1EE22
  (.node (.node (.node .empty 0x1EE24 0x1EE24 .empty) 0x1EE27 0x1EE27 .empty) 0x1EE29 0x1EE32
  (.node (.node .empty 0x1EE34 0x1EE37 .empty) 0x1EE39 0x1EE39 .empty))) 0x1EE3B 0x1EE3B (.node
  (.node (.node (.node .empty 0x1EE42 0x1EE42 .empty) 0x1EE47 0x1EE47 .empty) 0x1EE49 0x1EE49
  (.node (.node .empty 0x1EE4B 0x1EE4B .empty) 0x1EE4D 0x1EE4F .empty)) 0x1EE51 0x1EE52 (.node
  (.node (.node .empty 0x1EE54 0x1EE54 .empty) 0x1EE57 0x1EE57 .empty) 0x1EE59 0x1EE59 (.node
  .empty 0x1EE5B 0x1EE5B .empty)))) 0x1EE5D 0x1EE5D (.node (.node (.node (.node (.node .empty
  0x1EE5F 0x1EE5F .empty) 0x1EE61 0x1EE62 .empty) 0x1EE64 0x1EE64 (.node (.node .empty 0x1EE67
  0x1EE6A .empty) 0x1EE6C 0x1EE72 .empty)) 0x1EE74 0x1EE77 (.node (.node (.node .empty 0x1EE79
  0x1EE7C .empty) 0x1EE7E 0x1EE7E .empty) 0x1EE80 0x1EE89 (.node (.node .empty 0x1EE8B 0x1EE9B
  .empty) 0x1EEA1 0x1EEA3 .empty))) 0x1EEA5 0x1EEA9 (.node (.node (.node (.node .empty 0x1EEAB
  0x1EEBB .empty) 0x20000 0x2A6DF .empty) 0x2A700 0x2B81D (.node (.node .empty 0x2B820 0x2CEAD
  .empty) 0x2CEB0 0x2EBE0 .empty)) 0x2EBF0 0x2EE5D (.node (.node (.node .empty 0x2F800 0x2FA1D
  .empty) 0x30000 0x3134A .empty) 0x31350 0x33479 (.node .empty 0xE0100 0xE01EF .empty))))))))

/-- Letters and combining marks of every script. -/
def isLetter (c : Char) : Bool :=
  if c.toNat < 0x80 then c.isAlpha else lettersBeyondAscii.mem c.toNat

end BareUrl.Text
