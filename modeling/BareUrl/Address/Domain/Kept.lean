import BareUrl.Text.CharSet

/-!
# `BareUrl.Address.Domain.Kept`: characters that a host name keeps

The characters beyond ASCII that stand in a host name as they are. All others are replaced, left
out, or forbidden.
-/

set_option autoImplicit false

namespace BareUrl.Address.Domain

/-- The characters beyond ASCII that a host name keeps. -/
def kept : Text.CharSet :=
  .node (.node (.node (.node (.node (.node (.node (.node (.node (.node (.node .empty 0xA1 0xA7
  .empty) 0xA9 0xA9 .empty) 0xAB 0xAC (.node (.node .empty 0xAE 0xAE .empty) 0xB0 0xB1 .empty))
  0xB6 0xB7 (.node (.node (.node .empty 0xBB 0xBB .empty) 0xBF 0xBF .empty) 0xD7 0xD7 (.node
  .empty 0xDF 0xFF .empty))) 0x101 0x101 (.node (.node (.node (.node .empty 0x103 0x103 .empty)
  0x105 0x105 .empty) 0x107 0x107 (.node .empty 0x109 0x109 .empty)) 0x10B 0x10B (.node (.node
  (.node .empty 0x10D 0x10D .empty) 0x10F 0x10F .empty) 0x111 0x111 (.node .empty 0x113 0x113
  .empty)))) 0x115 0x115 (.node (.node (.node (.node (.node .empty 0x117 0x117 .empty) 0x119
  0x119 .empty) 0x11B 0x11B (.node (.node .empty 0x11D 0x11D .empty) 0x11F 0x11F .empty)) 0x121
  0x121 (.node (.node (.node .empty 0x123 0x123 .empty) 0x125 0x125 .empty) 0x127 0x127 (.node
  .empty 0x129 0x129 .empty))) 0x12B 0x12B (.node (.node (.node (.node .empty 0x12D 0x12D .empty)
  0x12F 0x12F .empty) 0x131 0x131 (.node .empty 0x135 0x135 .empty)) 0x137 0x138 (.node (.node
  (.node .empty 0x13A 0x13A .empty) 0x13C 0x13C .empty) 0x13E 0x13E (.node .empty 0x142 0x142
  .empty))))) 0x144 0x144 (.node (.node (.node (.node (.node (.node .empty 0x146 0x146 .empty)
  0x148 0x148 .empty) 0x14B 0x14B (.node (.node .empty 0x14D 0x14D .empty) 0x14F 0x14F .empty))
  0x151 0x151 (.node (.node (.node .empty 0x153 0x153 .empty) 0x155 0x155 .empty) 0x157 0x157
  (.node .empty 0x159 0x159 .empty))) 0x15B 0x15B (.node (.node (.node (.node .empty 0x15D 0x15D
  .empty) 0x15F 0x15F .empty) 0x161 0x161 (.node .empty 0x163 0x163 .empty)) 0x165 0x165 (.node
  (.node (.node .empty 0x167 0x167 .empty) 0x169 0x169 .empty) 0x16B 0x16B (.node .empty 0x16D
  0x16D .empty)))) 0x16F 0x16F (.node (.node (.node (.node (.node .empty 0x171 0x171 .empty)
  0x173 0x173 .empty) 0x175 0x175 (.node .empty 0x177 0x177 .empty)) 0x17A 0x17A (.node (.node
  (.node .empty 0x17C 0x17C .empty) 0x17E 0x17E .empty) 0x180 0x180 (.node .empty 0x183 0x183
  .empty))) 0x185 0x185 (.node (.node (.node (.node .empty 0x188 0x188 .empty) 0x18C 0x18D
  .empty) 0x192 0x192 (.node .empty 0x195 0x195 .empty)) 0x199 0x19B (.node (.node (.node .empty
  0x19E 0x19E .empty) 0x1A1 0x1A1 .empty) 0x1A3 0x1A3 (.node .empty 0x1A5 0x1A5 .empty))))))
  0x1A8 0x1A8 (.node (.node (.node (.node (.node (.node (.node .empty 0x1AA 0x1AB .empty) 0x1AD
  0x1AD .empty) 0x1B0 0x1B0 (.node (.node .empty 0x1B4 0x1B4 .empty) 0x1B6 0x1B6 .empty)) 0x1B9
  0x1BB (.node (.node (.node .empty 0x1BD 0x1C3 .empty) 0x1CE 0x1CE .empty) 0x1D0 0x1D0 (.node
  .empty 0x1D2 0x1D2 .empty))) 0x1D4 0x1D4 (.node (.node (.node (.node .empty 0x1D6 0x1D6 .empty)
  0x1D8 0x1D8 .empty) 0x1DA 0x1DA (.node .empty 0x1DC 0x1DD .empty)) 0x1DF 0x1DF (.node (.node
  (.node .empty 0x1E1 0x1E1 .empty) 0x1E3 0x1E3 .empty) 0x1E5 0x1E5 (.node .empty 0x1E7 0x1E7
  .empty)))) 0x1E9 0x1E9 (.node (.node (.node (.node (.node .empty 0x1EB 0x1EB .empty) 0x1ED
  0x1ED .empty) 0x1EF 0x1F0 (.node .empty 0x1F5 0x1F5 .empty)) 0x1F9 0x1F9 (.node (.node (.node
  .empty 0x1FB 0x1FB .empty) 0x1FD 0x1FD .empty) 0x1FF 0x1FF (.node .empty 0x201 0x201 .empty)))
  0x203 0x203 (.node (.node (.node (.node .empty 0x205 0x205 .empty) 0x207 0x207 .empty) 0x209
  0x209 (.node .empty 0x20B 0x20B .empty)) 0x20D 0x20D (.node (.node (.node .empty 0x20F 0x20F
  .empty) 0x211 0x211 .empty) 0x213 0x213 (.node .empty 0x215 0x215 .empty))))) 0x217 0x217
  (.node (.node (.node (.node (.node (.node .empty 0x219 0x219 .empty) 0x21B 0x21B .empty) 0x21D
  0x21D (.node (.node .empty 0x21F 0x21F .empty) 0x221 0x221 .empty)) 0x223 0x223 (.node (.node
  (.node .empty 0x225 0x225 .empty) 0x227 0x227 .empty) 0x229 0x229 (.node .empty 0x22B 0x22B
  .empty))) 0x22D 0x22D (.node (.node (.node (.node .empty 0x22F 0x22F .empty) 0x231 0x231
  .empty) 0x233 0x239 (.node .empty 0x23C 0x23C .empty)) 0x23F 0x240 (.node (.node (.node .empty
  0x242 0x242 .empty) 0x247 0x247 .empty) 0x249 0x249 (.node .empty 0x24B 0x24B .empty)))) 0x24D
  0x24D (.node (.node (.node (.node (.node .empty 0x24F 0x2AF .empty) 0x2B9 0x2D7 .empty) 0x2DE
  0x2DF (.node .empty 0x2E5 0x33F .empty)) 0x342 0x342 (.node (.node (.node .empty 0x346 0x34E
  .empty) 0x350 0x36F .empty) 0x371 0x371 (.node .empty 0x373 0x373 .empty))) 0x375 0x375 (.node
  (.node (.node (.node .empty 0x377 0x377 .empty) 0x37B 0x37D .empty) 0x390 0x390 (.node .empty
  0x3AC 0x3CE .empty)) 0x3D7 0x3D7 (.node (.node (.node .empty 0x3D9 0x3D9 .empty) 0x3DB 0x3DB
  .empty) 0x3DD 0x3DD (.node .empty 0x3DF 0x3DF .empty))))))) 0x3E1 0x3E1 (.node (.node (.node
  (.node (.node (.node (.node (.node .empty 0x3E3 0x3E3 .empty) 0x3E5 0x3E5 .empty) 0x3E7 0x3E7
  (.node (.node .empty 0x3E9 0x3E9 .empty) 0x3EB 0x3EB .empty)) 0x3ED 0x3ED (.node (.node (.node
  .empty 0x3EF 0x3EF .empty) 0x3F3 0x3F3 .empty) 0x3F6 0x3F6 (.node .empty 0x3F8 0x3F8 .empty)))
  0x3FB 0x3FC (.node (.node (.node (.node .empty 0x430 0x45F .empty) 0x461 0x461 .empty) 0x463
  0x463 (.node .empty 0x465 0x465 .empty)) 0x467 0x467 (.node (.node (.node .empty 0x469 0x469
  .empty) 0x46B 0x46B .empty) 0x46D 0x46D (.node .empty 0x46F 0x46F .empty)))) 0x471 0x471 (.node
  (.node (.node (.node (.node .empty 0x473 0x473 .empty) 0x475 0x475 .empty) 0x477 0x477 (.node
  .empty 0x479 0x479 .empty)) 0x47B 0x47B (.node (.node (.node .empty 0x47D 0x47D .empty) 0x47F
  0x47F .empty) 0x481 0x489 (.node .empty 0x48B 0x48B .empty))) 0x48D 0x48D (.node (.node (.node
  (.node .empty 0x48F 0x48F .empty) 0x491 0x491 .empty) 0x493 0x493 (.node .empty 0x495 0x495
  .empty)) 0x497 0x497 (.node (.node (.node .empty 0x499 0x499 .empty) 0x49B 0x49B .empty) 0x49D
  0x49D (.node .empty 0x49F 0x49F .empty))))) 0x4A1 0x4A1 (.node (.node (.node (.node (.node
  (.node .empty 0x4A3 0x4A3 .empty) 0x4A5 0x4A5 .empty) 0x4A7 0x4A7 (.node (.node .empty 0x4A9
  0x4A9 .empty) 0x4AB 0x4AB .empty)) 0x4AD 0x4AD (.node (.node (.node .empty 0x4AF 0x4AF .empty)
  0x4B1 0x4B1 .empty) 0x4B3 0x4B3 (.node .empty 0x4B5 0x4B5 .empty))) 0x4B7 0x4B7 (.node (.node
  (.node (.node .empty 0x4B9 0x4B9 .empty) 0x4BB 0x4BB .empty) 0x4BD 0x4BD (.node .empty 0x4BF
  0x4BF .empty)) 0x4C2 0x4C2 (.node (.node (.node .empty 0x4C4 0x4C4 .empty) 0x4C6 0x4C6 .empty)
  0x4C8 0x4C8 (.node .empty 0x4CA 0x4CA .empty)))) 0x4CC 0x4CC (.node (.node (.node (.node (.node
  .empty 0x4CE 0x4CF .empty) 0x4D1 0x4D1 .empty) 0x4D3 0x4D3 (.node .empty 0x4D5 0x4D5 .empty))
  0x4D7 0x4D7 (.node (.node (.node .empty 0x4D9 0x4D9 .empty) 0x4DB 0x4DB .empty) 0x4DD 0x4DD
  (.node .empty 0x4DF 0x4DF .empty))) 0x4E1 0x4E1 (.node (.node (.node (.node .empty 0x4E3 0x4E3
  .empty) 0x4E5 0x4E5 .empty) 0x4E7 0x4E7 (.node .empty 0x4E9 0x4E9 .empty)) 0x4EB 0x4EB (.node
  (.node (.node .empty 0x4ED 0x4ED .empty) 0x4EF 0x4EF .empty) 0x4F1 0x4F1 (.node .empty 0x4F3
  0x4F3 .empty)))))) 0x4F5 0x4F5 (.node (.node (.node (.node (.node (.node (.node .empty 0x4F7
  0x4F7 .empty) 0x4F9 0x4F9 .empty) 0x4FB 0x4FB (.node (.node .empty 0x4FD 0x4FD .empty) 0x4FF
  0x4FF .empty)) 0x501 0x501 (.node (.node (.node .empty 0x503 0x503 .empty) 0x505 0x505 .empty)
  0x507 0x507 (.node .empty 0x509 0x509 .empty))) 0x50B 0x50B (.node (.node (.node (.node .empty
  0x50D 0x50D .empty) 0x50F 0x50F .empty) 0x511 0x511 (.node .empty 0x513 0x513 .empty)) 0x515
  0x515 (.node (.node (.node .empty 0x517 0x517 .empty) 0x519 0x519 .empty) 0x51B 0x51B (.node
  .empty 0x51D 0x51D .empty)))) 0x51F 0x51F (.node (.node (.node (.node (.node .empty 0x521 0x521
  .empty) 0x523 0x523 .empty) 0x525 0x525 (.node .empty 0x527 0x527 .empty)) 0x529 0x529 (.node
  (.node (.node .empty 0x52B 0x52B .empty) 0x52D 0x52D .empty) 0x52F 0x52F (.node .empty 0x559
  0x586 .empty))) 0x588 0x58A (.node (.node (.node (.node .empty 0x58D 0x58F .empty) 0x591 0x5C7
  .empty) 0x5D0 0x5EA (.node .empty 0x5EF 0x5F4 .empty)) 0x606 0x61B (.node (.node (.node .empty
  0x61D 0x674 .empty) 0x679 0x6DC .empty) 0x6DE 0x70D (.node .empty 0x710 0x74A .empty))))) 0x74D
  0x7B1 (.node (.node (.node (.node (.node (.node .empty 0x7C0 0x7FA .empty) 0x7FD 0x82D .empty)
  0x830 0x83E (.node (.node .empty 0x840 0x85B .empty) 0x85E 0x85E .empty)) 0x860 0x86A (.node
  (.node (.node .empty 0x870 0x88F .empty) 0x897 0x8E1 .empty) 0x8E3 0x957 (.node .empty 0x960
  0x983 .empty))) 0x985 0x98C (.node (.node (.node (.node .empty 0x98F 0x990 .empty) 0x993 0x9A8
  .empty) 0x9AA 0x9B0 (.node .empty 0x9B2 0x9B2 .empty)) 0x9B6 0x9B9 (.node (.node (.node .empty
  0x9BC 0x9C4 .empty) 0x9C7 0x9C8 .empty) 0x9CB 0x9CE (.node .empty 0x9D7 0x9D7 .empty)))) 0x9E0
  0x9E3 (.node (.node (.node (.node (.node .empty 0x9E6 0x9FE .empty) 0xA01 0xA03 .empty) 0xA05
  0xA0A (.node .empty 0xA0F 0xA10 .empty)) 0xA13 0xA28 (.node (.node (.node .empty 0xA2A 0xA30
  .empty) 0xA32 0xA32 .empty) 0xA35 0xA35 (.node .empty 0xA38 0xA39 .empty))) 0xA3C 0xA3C (.node
  (.node (.node (.node .empty 0xA3E 0xA42 .empty) 0xA47 0xA48 .empty) 0xA4B 0xA4D (.node .empty
  0xA51 0xA51 .empty)) 0xA5C 0xA5C (.node (.node (.node .empty 0xA66 0xA76 .empty) 0xA81 0xA83
  .empty) 0xA85 0xA8D (.node .empty 0xA8F 0xA91 .empty)))))))) 0xA93 0xAA8 (.node (.node (.node
  (.node (.node (.node (.node (.node (.node .empty 0xAAA 0xAB0 .empty) 0xAB2 0xAB3 .empty) 0xAB5
  0xAB9 (.node (.node .empty 0xABC 0xAC5 .empty) 0xAC7 0xAC9 .empty)) 0xACB 0xACD (.node (.node
  (.node .empty 0xAD0 0xAD0 .empty) 0xAE0 0xAE3 .empty) 0xAE6 0xAF1 (.node .empty 0xAF9 0xAFF
  .empty))) 0xB01 0xB03 (.node (.node (.node (.node .empty 0xB05 0xB0C .empty) 0xB0F 0xB10
  .empty) 0xB13 0xB28 (.node .empty 0xB2A 0xB30 .empty)) 0xB32 0xB33 (.node (.node (.node .empty
  0xB35 0xB39 .empty) 0xB3C 0xB44 .empty) 0xB47 0xB48 (.node .empty 0xB4B 0xB4D .empty)))) 0xB55
  0xB57 (.node (.node (.node (.node (.node .empty 0xB5F 0xB63 .empty) 0xB66 0xB77 .empty) 0xB82
  0xB83 (.node .empty 0xB85 0xB8A .empty)) 0xB8E 0xB90 (.node (.node (.node .empty 0xB92 0xB95
  .empty) 0xB99 0xB9A .empty) 0xB9C 0xB9C (.node .empty 0xB9E 0xB9F .empty))) 0xBA3 0xBA4 (.node
  (.node (.node (.node .empty 0xBA8 0xBAA .empty) 0xBAE 0xBB9 .empty) 0xBBE 0xBC2 (.node .empty
  0xBC6 0xBC8 .empty)) 0xBCA 0xBCD (.node (.node (.node .empty 0xBD0 0xBD0 .empty) 0xBD7 0xBD7
  .empty) 0xBE6 0xBFA (.node .empty 0xC00 0xC0C .empty))))) 0xC0E 0xC10 (.node (.node (.node
  (.node (.node (.node .empty 0xC12 0xC28 .empty) 0xC2A 0xC39 .empty) 0xC3C 0xC44 (.node (.node
  .empty 0xC46 0xC48 .empty) 0xC4A 0xC4D .empty)) 0xC55 0xC56 (.node (.node (.node .empty 0xC58
  0xC5A .empty) 0xC5C 0xC5D .empty) 0xC60 0xC63 (.node .empty 0xC66 0xC6F .empty))) 0xC77 0xC8C
  (.node (.node (.node (.node .empty 0xC8E 0xC90 .empty) 0xC92 0xCA8 .empty) 0xCAA 0xCB3 (.node
  .empty 0xCB5 0xCB9 .empty)) 0xCBC 0xCC4 (.node (.node (.node .empty 0xCC6 0xCC8 .empty) 0xCCA
  0xCCD .empty) 0xCD5 0xCD6 (.node .empty 0xCDC 0xCDE .empty)))) 0xCE0 0xCE3 (.node (.node (.node
  (.node (.node .empty 0xCE6 0xCEF .empty) 0xCF1 0xCF3 .empty) 0xD00 0xD0C (.node .empty 0xD0E
  0xD10 .empty)) 0xD12 0xD44 (.node (.node (.node .empty 0xD46 0xD48 .empty) 0xD4A 0xD4F .empty)
  0xD54 0xD63 (.node .empty 0xD66 0xD7F .empty))) 0xD81 0xD83 (.node (.node (.node (.node .empty
  0xD85 0xD96 .empty) 0xD9A 0xDB1 .empty) 0xDB3 0xDBB (.node .empty 0xDBD 0xDBD .empty)) 0xDC0
  0xDC6 (.node (.node (.node .empty 0xDCA 0xDCA .empty) 0xDCF 0xDD4 .empty) 0xDD6 0xDD6 (.node
  .empty 0xDD8 0xDDF .empty)))))) 0xDE6 0xDEF (.node (.node (.node (.node (.node (.node (.node
  .empty 0xDF2 0xDF4 .empty) 0xE01 0xE32 .empty) 0xE34 0xE3A (.node (.node .empty 0xE3F 0xE5B
  .empty) 0xE81 0xE82 .empty)) 0xE84 0xE84 (.node (.node (.node .empty 0xE86 0xE8A .empty) 0xE8C
  0xEA3 .empty) 0xEA5 0xEA5 (.node .empty 0xEA7 0xEB2 .empty))) 0xEB4 0xEBD (.node (.node (.node
  (.node .empty 0xEC0 0xEC4 .empty) 0xEC6 0xEC6 .empty) 0xEC8 0xECE (.node .empty 0xED0 0xED9
  .empty)) 0xEDE 0xEDF (.node (.node (.node .empty 0xF00 0xF0B .empty) 0xF0D 0xF42 .empty) 0xF44
  0xF47 (.node .empty 0xF49 0xF4C .empty)))) 0xF4E 0xF51 (.node (.node (.node (.node (.node
  .empty 0xF53 0xF56 .empty) 0xF58 0xF5B .empty) 0xF5D 0xF68 (.node .empty 0xF6A 0xF6C .empty))
  0xF71 0xF72 (.node (.node (.node .empty 0xF74 0xF74 .empty) 0xF7A 0xF80 .empty) 0xF82 0xF92
  (.node .empty 0xF94 0xF97 .empty))) 0xF99 0xF9C (.node (.node (.node (.node .empty 0xF9E 0xFA1
  .empty) 0xFA3 0xFA6 .empty) 0xFA8 0xFAB (.node .empty 0xFAD 0xFB8 .empty)) 0xFBA 0xFBC (.node
  (.node (.node .empty 0xFBE 0xFCC .empty) 0xFCE 0xFDA .empty) 0x1000 0x109F (.node .empty 0x10D0
  0x10FB .empty))))) 0x10FD 0x115E (.node (.node (.node (.node (.node (.node .empty 0x1161 0x1248
  .empty) 0x124A 0x124D .empty) 0x1250 0x1256 (.node (.node .empty 0x1258 0x1258 .empty) 0x125A
  0x125D .empty)) 0x1260 0x1288 (.node (.node (.node .empty 0x128A 0x128D .empty) 0x1290 0x12B0
  .empty) 0x12B2 0x12B5 (.node .empty 0x12B8 0x12BE .empty))) 0x12C0 0x12C0 (.node (.node (.node
  (.node .empty 0x12C2 0x12C5 .empty) 0x12C8 0x12D6 .empty) 0x12D8 0x1310 (.node .empty 0x1312
  0x1315 .empty)) 0x1318 0x135A (.node (.node (.node .empty 0x135D 0x137C .empty) 0x1380 0x1399
  .empty) 0x13A0 0x13F5 (.node .empty 0x1400 0x167F .empty)))) 0x1681 0x169C (.node (.node (.node
  (.node (.node .empty 0x16A0 0x16F8 .empty) 0x1700 0x1715 .empty) 0x171F 0x1736 (.node .empty
  0x1740 0x1753 .empty)) 0x1760 0x176C (.node (.node (.node .empty 0x176E 0x1770 .empty) 0x1772
  0x1773 .empty) 0x1780 0x17B3 (.node .empty 0x17B6 0x17DD .empty))) 0x17E0 0x17E9 (.node (.node
  (.node (.node .empty 0x17F0 0x17F9 .empty) 0x1800 0x180A .empty) 0x1810 0x1819 (.node .empty
  0x1820 0x1878 .empty)) 0x1880 0x18AA (.node (.node (.node .empty 0x18B0 0x18F5 .empty) 0x1900
  0x191E .empty) 0x1920 0x192B (.node .empty 0x1930 0x193B .empty))))))) 0x1940 0x1940 (.node
  (.node (.node (.node (.node (.node (.node (.node .empty 0x1944 0x196D .empty) 0x1970 0x1974
  .empty) 0x1980 0x19AB (.node (.node .empty 0x19B0 0x19C9 .empty) 0x19D0 0x19DA .empty)) 0x19DE
  0x1A1B (.node (.node (.node .empty 0x1A1E 0x1A5E .empty) 0x1A60 0x1A7C .empty) 0x1A7F 0x1A89
  (.node .empty 0x1A90 0x1A99 .empty))) 0x1AA0 0x1AAD (.node (.node (.node (.node .empty 0x1AB0
  0x1ADD .empty) 0x1AE0 0x1AEB .empty) 0x1B00 0x1B4C (.node .empty 0x1B4E 0x1BF3 .empty)) 0x1BFC
  0x1C37 (.node (.node (.node .empty 0x1C3B 0x1C49 .empty) 0x1C4D 0x1C7F .empty) 0x1C8A 0x1C8A
  (.node .empty 0x1CC0 0x1CC7 .empty)))) 0x1CD0 0x1CFA (.node (.node (.node (.node (.node .empty
  0x1D00 0x1D2B .empty) 0x1D2F 0x1D2F .empty) 0x1D3B 0x1D3B (.node .empty 0x1D4E 0x1D4E .empty))
  0x1D6B 0x1D77 (.node (.node (.node .empty 0x1D79 0x1D9A .empty) 0x1DC0 0x1DFF .empty) 0x1E01
  0x1E01 (.node .empty 0x1E03 0x1E03 .empty))) 0x1E05 0x1E05 (.node (.node (.node (.node .empty
  0x1E07 0x1E07 .empty) 0x1E09 0x1E09 .empty) 0x1E0B 0x1E0B (.node .empty 0x1E0D 0x1E0D .empty))
  0x1E0F 0x1E0F (.node (.node (.node .empty 0x1E11 0x1E11 .empty) 0x1E13 0x1E13 .empty) 0x1E15
  0x1E15 (.node .empty 0x1E17 0x1E17 .empty))))) 0x1E19 0x1E19 (.node (.node (.node (.node (.node
  (.node .empty 0x1E1B 0x1E1B .empty) 0x1E1D 0x1E1D .empty) 0x1E1F 0x1E1F (.node (.node .empty
  0x1E21 0x1E21 .empty) 0x1E23 0x1E23 .empty)) 0x1E25 0x1E25 (.node (.node (.node .empty 0x1E27
  0x1E27 .empty) 0x1E29 0x1E29 .empty) 0x1E2B 0x1E2B (.node .empty 0x1E2D 0x1E2D .empty))) 0x1E2F
  0x1E2F (.node (.node (.node (.node .empty 0x1E31 0x1E31 .empty) 0x1E33 0x1E33 .empty) 0x1E35
  0x1E35 (.node .empty 0x1E37 0x1E37 .empty)) 0x1E39 0x1E39 (.node (.node (.node .empty 0x1E3B
  0x1E3B .empty) 0x1E3D 0x1E3D .empty) 0x1E3F 0x1E3F (.node .empty 0x1E41 0x1E41 .empty))))
  0x1E43 0x1E43 (.node (.node (.node (.node (.node .empty 0x1E45 0x1E45 .empty) 0x1E47 0x1E47
  .empty) 0x1E49 0x1E49 (.node .empty 0x1E4B 0x1E4B .empty)) 0x1E4D 0x1E4D (.node (.node (.node
  .empty 0x1E4F 0x1E4F .empty) 0x1E51 0x1E51 .empty) 0x1E53 0x1E53 (.node .empty 0x1E55 0x1E55
  .empty))) 0x1E57 0x1E57 (.node (.node (.node (.node .empty 0x1E59 0x1E59 .empty) 0x1E5B 0x1E5B
  .empty) 0x1E5D 0x1E5D (.node .empty 0x1E5F 0x1E5F .empty)) 0x1E61 0x1E61 (.node (.node (.node
  .empty 0x1E63 0x1E63 .empty) 0x1E65 0x1E65 .empty) 0x1E67 0x1E67 (.node .empty 0x1E69 0x1E69
  .empty)))))) 0x1E6B 0x1E6B (.node (.node (.node (.node (.node (.node (.node .empty 0x1E6D
  0x1E6D .empty) 0x1E6F 0x1E6F .empty) 0x1E71 0x1E71 (.node (.node .empty 0x1E73 0x1E73 .empty)
  0x1E75 0x1E75 .empty)) 0x1E77 0x1E77 (.node (.node (.node .empty 0x1E79 0x1E79 .empty) 0x1E7B
  0x1E7B .empty) 0x1E7D 0x1E7D (.node .empty 0x1E7F 0x1E7F .empty))) 0x1E81 0x1E81 (.node (.node
  (.node (.node .empty 0x1E83 0x1E83 .empty) 0x1E85 0x1E85 .empty) 0x1E87 0x1E87 (.node .empty
  0x1E89 0x1E89 .empty)) 0x1E8B 0x1E8B (.node (.node (.node .empty 0x1E8D 0x1E8D .empty) 0x1E8F
  0x1E8F .empty) 0x1E91 0x1E91 (.node .empty 0x1E93 0x1E93 .empty)))) 0x1E95 0x1E99 (.node (.node
  (.node (.node (.node .empty 0x1E9C 0x1E9D .empty) 0x1E9F 0x1E9F .empty) 0x1EA1 0x1EA1 (.node
  .empty 0x1EA3 0x1EA3 .empty)) 0x1EA5 0x1EA5 (.node (.node (.node .empty 0x1EA7 0x1EA7 .empty)
  0x1EA9 0x1EA9 .empty) 0x1EAB 0x1EAB (.node .empty 0x1EAD 0x1EAD .empty))) 0x1EAF 0x1EAF (.node
  (.node (.node (.node .empty 0x1EB1 0x1EB1 .empty) 0x1EB3 0x1EB3 .empty) 0x1EB5 0x1EB5 (.node
  .empty 0x1EB7 0x1EB7 .empty)) 0x1EB9 0x1EB9 (.node (.node (.node .empty 0x1EBB 0x1EBB .empty)
  0x1EBD 0x1EBD .empty) 0x1EBF 0x1EBF (.node .empty 0x1EC1 0x1EC1 .empty))))) 0x1EC3 0x1EC3
  (.node (.node (.node (.node (.node (.node .empty 0x1EC5 0x1EC5 .empty) 0x1EC7 0x1EC7 .empty)
  0x1EC9 0x1EC9 (.node (.node .empty 0x1ECB 0x1ECB .empty) 0x1ECD 0x1ECD .empty)) 0x1ECF 0x1ECF
  (.node (.node (.node .empty 0x1ED1 0x1ED1 .empty) 0x1ED3 0x1ED3 .empty) 0x1ED5 0x1ED5 (.node
  .empty 0x1ED7 0x1ED7 .empty))) 0x1ED9 0x1ED9 (.node (.node (.node (.node .empty 0x1EDB 0x1EDB
  .empty) 0x1EDD 0x1EDD .empty) 0x1EDF 0x1EDF (.node .empty 0x1EE1 0x1EE1 .empty)) 0x1EE3 0x1EE3
  (.node (.node (.node .empty 0x1EE5 0x1EE5 .empty) 0x1EE7 0x1EE7 .empty) 0x1EE9 0x1EE9 (.node
  .empty 0x1EEB 0x1EEB .empty)))) 0x1EED 0x1EED (.node (.node (.node (.node (.node .empty 0x1EEF
  0x1EEF .empty) 0x1EF1 0x1EF1 .empty) 0x1EF3 0x1EF3 (.node .empty 0x1EF5 0x1EF5 .empty)) 0x1EF7
  0x1EF7 (.node (.node (.node .empty 0x1EF9 0x1EF9 .empty) 0x1EFB 0x1EFB .empty) 0x1EFD 0x1EFD
  (.node .empty 0x1EFF 0x1F07 .empty))) 0x1F10 0x1F15 (.node (.node (.node (.node .empty 0x1F20
  0x1F27 .empty) 0x1F30 0x1F37 .empty) 0x1F40 0x1F45 (.node .empty 0x1F50 0x1F57 .empty)) 0x1F60
  0x1F67 (.node (.node (.node .empty 0x1F70 0x1F70 .empty) 0x1F72 0x1F72 .empty) 0x1F74 0x1F74
  (.node .empty 0x1F76 0x1F76 .empty))))))))) 0x1F78 0x1F78 (.node (.node (.node (.node (.node
  (.node (.node (.node (.node (.node .empty 0x1F7A 0x1F7A .empty) 0x1F7C 0x1F7C .empty) 0x1FB0
  0x1FB1 (.node (.node .empty 0x1FB6 0x1FB6 .empty) 0x1FC6 0x1FC6 .empty)) 0x1FD0 0x1FD2 (.node
  (.node (.node .empty 0x1FD6 0x1FD7 .empty) 0x1FE0 0x1FE2 .empty) 0x1FE4 0x1FE7 (.node .empty
  0x1FF6 0x1FF6 .empty))) 0x200C 0x200D (.node (.node (.node (.node .empty 0x2010 0x2010 .empty)
  0x2012 0x2016 .empty) 0x2018 0x2023 (.node .empty 0x2027 0x2027 .empty)) 0x2030 0x2032 (.node
  (.node (.node .empty 0x2035 0x2035 .empty) 0x2038 0x203B .empty) 0x203D 0x203D (.node .empty
  0x203F 0x2046 .empty)))) 0x204A 0x2056 (.node (.node (.node (.node (.node .empty 0x2058 0x205E
  .empty) 0x20A0 0x20A7 .empty) 0x20A9 0x20C1 (.node .empty 0x20D0 0x20F0 .empty)) 0x2104 0x2104
  (.node (.node (.node .empty 0x2108 0x2108 .empty) 0x2114 0x2114 .empty) 0x2117 0x2118 (.node
  .empty 0x211E 0x211F .empty))) 0x2123 0x2123 (.node (.node (.node (.node .empty 0x2125 0x2125
  .empty) 0x2127 0x2127 .empty) 0x2129 0x2129 (.node .empty 0x212E 0x212E .empty)) 0x213A 0x213A
  (.node (.node (.node .empty 0x2141 0x2144 .empty) 0x214A 0x214F .empty) 0x2180 0x2182 (.node
  .empty 0x2184 0x2188 .empty))))) 0x218A 0x218B (.node (.node (.node (.node (.node (.node .empty
  0x2190 0x222B .empty) 0x222E 0x222E .empty) 0x2231 0x2328 (.node (.node .empty 0x232B 0x2429
  .empty) 0x2440 0x244A .empty)) 0x24EB 0x2A0B (.node (.node (.node .empty 0x2A0D 0x2A73 .empty)
  0x2A77 0x2ADB .empty) 0x2ADD 0x2B73 (.node .empty 0x2B76 0x2BFF .empty))) 0x2C30 0x2C5F (.node
  (.node (.node (.node .empty 0x2C61 0x2C61 .empty) 0x2C65 0x2C66 .empty) 0x2C68 0x2C68 (.node
  .empty 0x2C6A 0x2C6A .empty)) 0x2C6C 0x2C6C (.node (.node (.node .empty 0x2C71 0x2C71 .empty)
  0x2C73 0x2C74 .empty) 0x2C76 0x2C7B (.node .empty 0x2C81 0x2C81 .empty)))) 0x2C83 0x2C83 (.node
  (.node (.node (.node (.node .empty 0x2C85 0x2C85 .empty) 0x2C87 0x2C87 .empty) 0x2C89 0x2C89
  (.node .empty 0x2C8B 0x2C8B .empty)) 0x2C8D 0x2C8D (.node (.node (.node .empty 0x2C8F 0x2C8F
  .empty) 0x2C91 0x2C91 .empty) 0x2C93 0x2C93 (.node .empty 0x2C95 0x2C95 .empty))) 0x2C97 0x2C97
  (.node (.node (.node (.node .empty 0x2C99 0x2C99 .empty) 0x2C9B 0x2C9B .empty) 0x2C9D 0x2C9D
  (.node .empty 0x2C9F 0x2C9F .empty)) 0x2CA1 0x2CA1 (.node (.node (.node .empty 0x2CA3 0x2CA3
  .empty) 0x2CA5 0x2CA5 .empty) 0x2CA7 0x2CA7 (.node .empty 0x2CA9 0x2CA9 .empty)))))) 0x2CAB
  0x2CAB (.node (.node (.node (.node (.node (.node (.node .empty 0x2CAD 0x2CAD .empty) 0x2CAF
  0x2CAF .empty) 0x2CB1 0x2CB1 (.node (.node .empty 0x2CB3 0x2CB3 .empty) 0x2CB5 0x2CB5 .empty))
  0x2CB7 0x2CB7 (.node (.node (.node .empty 0x2CB9 0x2CB9 .empty) 0x2CBB 0x2CBB .empty) 0x2CBD
  0x2CBD (.node .empty 0x2CBF 0x2CBF .empty))) 0x2CC1 0x2CC1 (.node (.node (.node (.node .empty
  0x2CC3 0x2CC3 .empty) 0x2CC5 0x2CC5 .empty) 0x2CC7 0x2CC7 (.node .empty 0x2CC9 0x2CC9 .empty))
  0x2CCB 0x2CCB (.node (.node (.node .empty 0x2CCD 0x2CCD .empty) 0x2CCF 0x2CCF .empty) 0x2CD1
  0x2CD1 (.node .empty 0x2CD3 0x2CD3 .empty)))) 0x2CD5 0x2CD5 (.node (.node (.node (.node (.node
  .empty 0x2CD7 0x2CD7 .empty) 0x2CD9 0x2CD9 .empty) 0x2CDB 0x2CDB (.node .empty 0x2CDD 0x2CDD
  .empty)) 0x2CDF 0x2CDF (.node (.node (.node .empty 0x2CE1 0x2CE1 .empty) 0x2CE3 0x2CEA .empty)
  0x2CEC 0x2CEC (.node .empty 0x2CEE 0x2CF1 .empty))) 0x2CF3 0x2CF3 (.node (.node (.node (.node
  .empty 0x2CF9 0x2D25 .empty) 0x2D27 0x2D27 .empty) 0x2D2D 0x2D2D (.node .empty 0x2D30 0x2D67
  .empty)) 0x2D70 0x2D70 (.node (.node (.node .empty 0x2D7F 0x2D96 .empty) 0x2DA0 0x2DA6 .empty)
  0x2DA8 0x2DAE (.node .empty 0x2DB0 0x2DB6 .empty))))) 0x2DB8 0x2DBE (.node (.node (.node (.node
  (.node (.node .empty 0x2DC0 0x2DC6 .empty) 0x2DC8 0x2DCE .empty) 0x2DD0 0x2DD6 (.node (.node
  .empty 0x2DD8 0x2DDE .empty) 0x2DE0 0x2E5D .empty)) 0x2E80 0x2E99 (.node (.node (.node .empty
  0x2E9B 0x2E9E .empty) 0x2EA0 0x2EF2 .empty) 0x3001 0x3001 (.node .empty 0x3003 0x3035 .empty)))
  0x3037 0x3037 (.node (.node (.node (.node .empty 0x303B 0x303F .empty) 0x3041 0x3096 .empty)
  0x3099 0x309A (.node .empty 0x309D 0x309E .empty)) 0x30A0 0x30FE (.node (.node (.node .empty
  0x3105 0x312F .empty) 0x3190 0x3191 .empty) 0x31A0 0x31E5 (.node .empty 0x31F0 0x31FF
  .empty)))) 0x3248 0x324F (.node (.node (.node (.node (.node .empty 0x327F 0x327F .empty) 0x3400
  0xA48C .empty) 0xA490 0xA4C6 (.node .empty 0xA4D0 0xA62B .empty)) 0xA641 0xA641 (.node (.node
  (.node .empty 0xA643 0xA643 .empty) 0xA645 0xA645 .empty) 0xA647 0xA647 (.node .empty 0xA649
  0xA649 .empty))) 0xA64B 0xA64B (.node (.node (.node (.node .empty 0xA64D 0xA64D .empty) 0xA64F
  0xA64F .empty) 0xA651 0xA651 (.node .empty 0xA653 0xA653 .empty)) 0xA655 0xA655 (.node (.node
  (.node .empty 0xA657 0xA657 .empty) 0xA659 0xA659 .empty) 0xA65B 0xA65B (.node .empty 0xA65D
  0xA65D .empty))))))) 0xA65F 0xA65F (.node (.node (.node (.node (.node (.node (.node (.node
  .empty 0xA661 0xA661 .empty) 0xA663 0xA663 .empty) 0xA665 0xA665 (.node (.node .empty 0xA667
  0xA667 .empty) 0xA669 0xA669 .empty)) 0xA66B 0xA66B (.node (.node (.node .empty 0xA66D 0xA67F
  .empty) 0xA681 0xA681 .empty) 0xA683 0xA683 (.node .empty 0xA685 0xA685 .empty))) 0xA687 0xA687
  (.node (.node (.node (.node .empty 0xA689 0xA689 .empty) 0xA68B 0xA68B .empty) 0xA68D 0xA68D
  (.node .empty 0xA68F 0xA68F .empty)) 0xA691 0xA691 (.node (.node (.node .empty 0xA693 0xA693
  .empty) 0xA695 0xA695 .empty) 0xA697 0xA697 (.node .empty 0xA699 0xA699 .empty)))) 0xA69B
  0xA69B (.node (.node (.node (.node (.node .empty 0xA69E 0xA6F7 .empty) 0xA700 0xA721 .empty)
  0xA723 0xA723 (.node .empty 0xA725 0xA725 .empty)) 0xA727 0xA727 (.node (.node (.node .empty
  0xA729 0xA729 .empty) 0xA72B 0xA72B .empty) 0xA72D 0xA72D (.node .empty 0xA72F 0xA731 .empty)))
  0xA733 0xA733 (.node (.node (.node (.node .empty 0xA735 0xA735 .empty) 0xA737 0xA737 .empty)
  0xA739 0xA739 (.node .empty 0xA73B 0xA73B .empty)) 0xA73D 0xA73D (.node (.node (.node .empty
  0xA73F 0xA73F .empty) 0xA741 0xA741 .empty) 0xA743 0xA743 (.node .empty 0xA745 0xA745
  .empty))))) 0xA747 0xA747 (.node (.node (.node (.node (.node (.node .empty 0xA749 0xA749
  .empty) 0xA74B 0xA74B .empty) 0xA74D 0xA74D (.node (.node .empty 0xA74F 0xA74F .empty) 0xA751
  0xA751 .empty)) 0xA753 0xA753 (.node (.node (.node .empty 0xA755 0xA755 .empty) 0xA757 0xA757
  .empty) 0xA759 0xA759 (.node .empty 0xA75B 0xA75B .empty))) 0xA75D 0xA75D (.node (.node (.node
  (.node .empty 0xA75F 0xA75F .empty) 0xA761 0xA761 .empty) 0xA763 0xA763 (.node .empty 0xA765
  0xA765 .empty)) 0xA767 0xA767 (.node (.node (.node .empty 0xA769 0xA769 .empty) 0xA76B 0xA76B
  .empty) 0xA76D 0xA76D (.node .empty 0xA76F 0xA76F .empty)))) 0xA771 0xA778 (.node (.node (.node
  (.node (.node .empty 0xA77A 0xA77A .empty) 0xA77C 0xA77C .empty) 0xA77F 0xA77F (.node .empty
  0xA781 0xA781 .empty)) 0xA783 0xA783 (.node (.node (.node .empty 0xA785 0xA785 .empty) 0xA787
  0xA78A .empty) 0xA78C 0xA78C (.node .empty 0xA78E 0xA78F .empty))) 0xA791 0xA791 (.node (.node
  (.node (.node .empty 0xA793 0xA795 .empty) 0xA797 0xA797 .empty) 0xA799 0xA799 (.node .empty
  0xA79B 0xA79B .empty)) 0xA79D 0xA79D (.node (.node (.node .empty 0xA79F 0xA79F .empty) 0xA7A1
  0xA7A1 .empty) 0xA7A3 0xA7A3 (.node .empty 0xA7A5 0xA7A5 .empty)))))) 0xA7A7 0xA7A7 (.node
  (.node (.node (.node (.node (.node (.node .empty 0xA7A9 0xA7A9 .empty) 0xA7AF 0xA7AF .empty)
  0xA7B5 0xA7B5 (.node (.node .empty 0xA7B7 0xA7B7 .empty) 0xA7B9 0xA7B9 .empty)) 0xA7BB 0xA7BB
  (.node (.node (.node .empty 0xA7BD 0xA7BD .empty) 0xA7BF 0xA7BF .empty) 0xA7C1 0xA7C1 (.node
  .empty 0xA7C3 0xA7C3 .empty))) 0xA7C8 0xA7C8 (.node (.node (.node (.node .empty 0xA7CA 0xA7CA
  .empty) 0xA7CD 0xA7CD .empty) 0xA7CF 0xA7CF (.node .empty 0xA7D1 0xA7D1 .empty)) 0xA7D3 0xA7D3
  (.node (.node (.node .empty 0xA7D5 0xA7D5 .empty) 0xA7D7 0xA7D7 .empty) 0xA7D9 0xA7D9 (.node
  .empty 0xA7DB 0xA7DB .empty)))) 0xA7F6 0xA7F7 (.node (.node (.node (.node (.node .empty 0xA7FA
  0xA82C .empty) 0xA830 0xA839 .empty) 0xA840 0xA877 (.node .empty 0xA880 0xA8C5 .empty)) 0xA8CE
  0xA8D9 (.node (.node (.node .empty 0xA8E0 0xA953 .empty) 0xA95F 0xA97C .empty) 0xA980 0xA9CD
  (.node .empty 0xA9CF 0xA9D9 .empty))) 0xA9DE 0xA9FE (.node (.node (.node (.node .empty 0xAA00
  0xAA36 .empty) 0xAA40 0xAA4D .empty) 0xAA50 0xAA59 (.node .empty 0xAA5C 0xAAC2 .empty)) 0xAADB
  0xAAF6 (.node (.node (.node .empty 0xAB01 0xAB06 .empty) 0xAB09 0xAB0E .empty) 0xAB11 0xAB16
  (.node .empty 0xAB20 0xAB26 .empty))))) 0xAB28 0xAB2E (.node (.node (.node (.node (.node (.node
  .empty 0xAB30 0xAB5B .empty) 0xAB60 0xAB68 .empty) 0xAB6A 0xAB6B (.node (.node .empty 0xABC0
  0xABED .empty) 0xABF0 0xABF9 .empty)) 0xAC00 0xD7A3 (.node (.node (.node .empty 0xD7B0 0xD7C6
  .empty) 0xD7CB 0xD7FB .empty) 0xFA0E 0xFA0F (.node .empty 0xFA11 0xFA11 .empty))) 0xFA13 0xFA14
  (.node (.node (.node (.node .empty 0xFA1F 0xFA1F .empty) 0xFA21 0xFA21 .empty) 0xFA23 0xFA24
  (.node .empty 0xFA27 0xFA29 .empty)) 0xFB1E 0xFB1E (.node (.node (.node .empty 0xFBB2 0xFBD2
  .empty) 0xFD3E 0xFD4F .empty) 0xFD90 0xFD91 (.node .empty 0xFDC8 0xFDCF .empty)))) 0xFDFD
  0xFDFF (.node (.node (.node (.node (.node .empty 0xFE20 0xFE2F .empty) 0xFE45 0xFE46 .empty)
  0xFE73 0xFE73 (.node .empty 0x10000 0x1000B .empty)) 0x1000D 0x10026 (.node (.node (.node
  .empty 0x10028 0x1003A .empty) 0x1003C 0x1003D .empty) 0x1003F 0x1004D (.node .empty 0x10050
  0x1005D .empty))) 0x10080 0x100FA (.node (.node (.node (.node .empty 0x10100 0x10102 .empty)
  0x10107 0x10133 .empty) 0x10137 0x1018E (.node .empty 0x10190 0x1019C .empty)) 0x101A0 0x101A0
  (.node (.node (.node .empty 0x101D0 0x101FD .empty) 0x10280 0x1029C .empty) 0x102A0 0x102D0
  (.node .empty 0x102E0 0x102FB .empty)))))))) 0x10300 0x10323 (.node (.node (.node (.node (.node
  (.node (.node (.node (.node .empty 0x1032D 0x1034A .empty) 0x10350 0x1037A .empty) 0x10380
  0x1039D (.node (.node .empty 0x1039F 0x103C3 .empty) 0x103C8 0x103D5 .empty)) 0x10428 0x1049D
  (.node (.node (.node .empty 0x104A0 0x104A9 .empty) 0x104D8 0x104FB .empty) 0x10500 0x10527
  (.node .empty 0x10530 0x10563 .empty))) 0x1056F 0x1056F (.node (.node (.node (.node .empty
  0x10597 0x105A1 .empty) 0x105A3 0x105B1 .empty) 0x105B3 0x105B9 (.node .empty 0x105BB 0x105BC
  .empty)) 0x105C0 0x105F3 (.node (.node (.node .empty 0x10600 0x10736 .empty) 0x10740 0x10755
  .empty) 0x10760 0x10767 (.node .empty 0x10780 0x10780 .empty)))) 0x10800 0x10805 (.node (.node
  (.node (.node (.node .empty 0x10808 0x10808 .empty) 0x1080A 0x10835 .empty) 0x10837 0x10838
  (.node .empty 0x1083C 0x1083C .empty)) 0x1083F 0x10855 (.node (.node (.node .empty 0x10857
  0x1089E .empty) 0x108A7 0x108AF .empty) 0x108E0 0x108F2 (.node .empty 0x108F4 0x108F5 .empty)))
  0x108FB 0x1091B (.node (.node (.node (.node .empty 0x1091F 0x10939 .empty) 0x1093F 0x10959
  .empty) 0x10980 0x109B7 (.node .empty 0x109BC 0x109CF .empty)) 0x109D2 0x10A03 (.node (.node
  (.node .empty 0x10A05 0x10A06 .empty) 0x10A0C 0x10A13 .empty) 0x10A15 0x10A17 (.node .empty
  0x10A19 0x10A35 .empty))))) 0x10A38 0x10A3A (.node (.node (.node (.node (.node (.node .empty
  0x10A3F 0x10A48 .empty) 0x10A50 0x10A58 .empty) 0x10A60 0x10A9F (.node (.node .empty 0x10AC0
  0x10AE6 .empty) 0x10AEB 0x10AF6 .empty)) 0x10B00 0x10B35 (.node (.node (.node .empty 0x10B39
  0x10B55 .empty) 0x10B58 0x10B72 .empty) 0x10B78 0x10B91 (.node .empty 0x10B99 0x10B9C .empty)))
  0x10BA9 0x10BAF (.node (.node (.node (.node .empty 0x10C00 0x10C48 .empty) 0x10CC0 0x10CF2
  .empty) 0x10CFA 0x10D27 (.node .empty 0x10D30 0x10D39 .empty)) 0x10D40 0x10D4F (.node (.node
  (.node .empty 0x10D69 0x10D85 .empty) 0x10D8E 0x10D8F .empty) 0x10E60 0x10E7E (.node .empty
  0x10E80 0x10EA9 .empty)))) 0x10EAB 0x10EAD (.node (.node (.node (.node (.node .empty 0x10EB0
  0x10EB1 .empty) 0x10EC2 0x10EC7 .empty) 0x10ED0 0x10ED8 (.node .empty 0x10EFA 0x10F27 .empty))
  0x10F30 0x10F59 (.node (.node (.node .empty 0x10F70 0x10F89 .empty) 0x10FB0 0x10FCB .empty)
  0x10FE0 0x10FF6 (.node .empty 0x11000 0x1104D .empty))) 0x11052 0x11075 (.node (.node (.node
  (.node .empty 0x1107F 0x110BC .empty) 0x110BE 0x110C2 .empty) 0x110D0 0x110E8 (.node .empty
  0x110F0 0x110F9 .empty)) 0x11100 0x11134 (.node (.node (.node .empty 0x11136 0x11147 .empty)
  0x11150 0x11176 .empty) 0x11180 0x111DF (.node .empty 0x111E1 0x111F4 .empty)))))) 0x11200
  0x11211 (.node (.node (.node (.node (.node (.node (.node .empty 0x11213 0x11241 .empty) 0x11280
  0x11286 .empty) 0x11288 0x11288 (.node (.node .empty 0x1128A 0x1128D .empty) 0x1128F 0x1129D
  .empty)) 0x1129F 0x112A9 (.node (.node (.node .empty 0x112B0 0x112EA .empty) 0x112F0 0x112F9
  .empty) 0x11300 0x11303 (.node .empty 0x11305 0x1130C .empty))) 0x1130F 0x11310 (.node (.node
  (.node (.node .empty 0x11313 0x11328 .empty) 0x1132A 0x11330 .empty) 0x11332 0x11333 (.node
  .empty 0x11335 0x11339 .empty)) 0x1133B 0x11344 (.node (.node (.node .empty 0x11347 0x11348
  .empty) 0x1134B 0x1134D .empty) 0x11350 0x11350 (.node .empty 0x11357 0x11357 .empty))))
  0x1135D 0x11363 (.node (.node (.node (.node (.node .empty 0x11366 0x1136C .empty) 0x11370
  0x11374 .empty) 0x11380 0x11389 (.node .empty 0x1138B 0x1138B .empty)) 0x1138E 0x1138E (.node
  (.node (.node .empty 0x11390 0x113B5 .empty) 0x113B7 0x113C0 .empty) 0x113C2 0x113C2 (.node
  .empty 0x113C5 0x113C5 .empty))) 0x113C7 0x113CA (.node (.node (.node (.node .empty 0x113CC
  0x113D5 .empty) 0x113D7 0x113D8 .empty) 0x113E1 0x113E2 (.node .empty 0x11400 0x1145B .empty))
  0x1145D 0x11461 (.node (.node (.node .empty 0x11480 0x114C7 .empty) 0x114D0 0x114D9 .empty)
  0x11580 0x115B5 (.node .empty 0x115B8 0x115DD .empty))))) 0x11600 0x11644 (.node (.node (.node
  (.node (.node (.node .empty 0x11650 0x11659 .empty) 0x11660 0x1166C .empty) 0x11680 0x116B9
  (.node (.node .empty 0x116C0 0x116C9 .empty) 0x116D0 0x116E3 .empty)) 0x11700 0x1171A (.node
  (.node (.node .empty 0x1171D 0x1172B .empty) 0x11730 0x11746 .empty) 0x11800 0x1183B (.node
  .empty 0x118C0 0x118F2 .empty))) 0x118FF 0x11906 (.node (.node (.node (.node .empty 0x11909
  0x11909 .empty) 0x1190C 0x11913 .empty) 0x11915 0x11916 (.node .empty 0x11918 0x11935 .empty))
  0x11937 0x11938 (.node (.node (.node .empty 0x1193B 0x11946 .empty) 0x11950 0x11959 .empty)
  0x119A0 0x119A7 (.node .empty 0x119AA 0x119D7 .empty)))) 0x119DA 0x119E4 (.node (.node (.node
  (.node (.node .empty 0x11A00 0x11A47 .empty) 0x11A50 0x11AA2 .empty) 0x11AB0 0x11AF8 (.node
  .empty 0x11B00 0x11B09 .empty)) 0x11B60 0x11B67 (.node (.node (.node .empty 0x11BC0 0x11BE1
  .empty) 0x11BF0 0x11BF9 .empty) 0x11C00 0x11C08 (.node .empty 0x11C0A 0x11C36 .empty))) 0x11C38
  0x11C45 (.node (.node (.node (.node .empty 0x11C50 0x11C6C .empty) 0x11C70 0x11C8F .empty)
  0x11C92 0x11CA7 (.node .empty 0x11CA9 0x11CB6 .empty)) 0x11D00 0x11D06 (.node (.node (.node
  .empty 0x11D08 0x11D09 .empty) 0x11D0B 0x11D36 .empty) 0x11D3A 0x11D3A (.node .empty 0x11D3C
  0x11D3D .empty))))))) 0x11D3F 0x11D47 (.node (.node (.node (.node (.node (.node (.node (.node
  .empty 0x11D50 0x11D59 .empty) 0x11D60 0x11D65 .empty) 0x11D67 0x11D68 (.node (.node .empty
  0x11D6A 0x11D8E .empty) 0x11D90 0x11D91 .empty)) 0x11D93 0x11D98 (.node (.node (.node .empty
  0x11DA0 0x11DA9 .empty) 0x11DB0 0x11DDB .empty) 0x11DE0 0x11DE9 (.node .empty 0x11EE0 0x11EF8
  .empty))) 0x11F00 0x11F10 (.node (.node (.node (.node .empty 0x11F12 0x11F3A .empty) 0x11F3E
  0x11F5A .empty) 0x11FB0 0x11FB0 (.node .empty 0x11FC0 0x11FF1 .empty)) 0x11FFF 0x12399 (.node
  (.node (.node .empty 0x12400 0x1246E .empty) 0x12470 0x12474 .empty) 0x12480 0x12543 (.node
  .empty 0x12F90 0x12FF2 .empty)))) 0x13000 0x1342F (.node (.node (.node (.node (.node .empty
  0x13440 0x13455 .empty) 0x13460 0x143FA .empty) 0x14400 0x14646 (.node .empty 0x16100 0x16139
  .empty)) 0x16800 0x16A38 (.node (.node (.node .empty 0x16A40 0x16A5E .empty) 0x16A60 0x16A69
  .empty) 0x16A6E 0x16ABE (.node .empty 0x16AC0 0x16AC9 .empty))) 0x16AD0 0x16AED (.node (.node
  (.node (.node .empty 0x16AF0 0x16AF5 .empty) 0x16B00 0x16B45 .empty) 0x16B50 0x16B59 (.node
  .empty 0x16B5B 0x16B61 .empty)) 0x16B63 0x16B77 (.node (.node (.node .empty 0x16B7D 0x16B8F
  .empty) 0x16D40 0x16D79 .empty) 0x16E60 0x16E9A (.node .empty 0x16EBB 0x16ED3 .empty)))))
  0x16F00 0x16F4A (.node (.node (.node (.node (.node (.node .empty 0x16F4F 0x16F87 .empty)
  0x16F8F 0x16F9F .empty) 0x16FE0 0x16FE4 (.node (.node .empty 0x16FF0 0x16FF6 .empty) 0x17000
  0x18CD5 .empty)) 0x18CFF 0x18D1E (.node (.node (.node .empty 0x18D80 0x18DF2 .empty) 0x1AFF0
  0x1AFF3 .empty) 0x1AFF5 0x1AFFB (.node .empty 0x1AFFD 0x1AFFE .empty))) 0x1B000 0x1B122 (.node
  (.node (.node (.node .empty 0x1B132 0x1B132 .empty) 0x1B150 0x1B152 .empty) 0x1B155 0x1B155
  (.node .empty 0x1B164 0x1B167 .empty)) 0x1B170 0x1B2FB (.node (.node (.node .empty 0x1BC00
  0x1BC6A .empty) 0x1BC70 0x1BC7C .empty) 0x1BC80 0x1BC88 (.node .empty 0x1BC90 0x1BC99
  .empty)))) 0x1BC9C 0x1BC9F (.node (.node (.node (.node (.node .empty 0x1CC00 0x1CCD5 .empty)
  0x1CCFA 0x1CCFC .empty) 0x1CD00 0x1CEB3 (.node .empty 0x1CEBA 0x1CED0 .empty)) 0x1CEE0 0x1CEF0
  (.node (.node (.node .empty 0x1CF00 0x1CF2D .empty) 0x1CF30 0x1CF46 .empty) 0x1CF50 0x1CFC3
  (.node .empty 0x1D000 0x1D0F5 .empty))) 0x1D100 0x1D126 (.node (.node (.node (.node .empty
  0x1D129 0x1D15D .empty) 0x1D165 0x1D172 .empty) 0x1D17B 0x1D1BA (.node .empty 0x1D1C1 0x1D1EA
  .empty)) 0x1D200 0x1D245 (.node (.node (.node .empty 0x1D2C0 0x1D2D3 .empty) 0x1D2E0 0x1D2F3
  .empty) 0x1D300 0x1D356 (.node .empty 0x1D360 0x1D378 .empty)))))) 0x1D800 0x1DA8B (.node
  (.node (.node (.node (.node (.node (.node .empty 0x1DA9B 0x1DA9F .empty) 0x1DAA1 0x1DAAF
  .empty) 0x1DF00 0x1DF1E (.node (.node .empty 0x1DF25 0x1DF2A .empty) 0x1E000 0x1E006 .empty))
  0x1E008 0x1E018 (.node (.node (.node .empty 0x1E01B 0x1E021 .empty) 0x1E023 0x1E024 .empty)
  0x1E026 0x1E02A (.node .empty 0x1E08F 0x1E08F .empty))) 0x1E100 0x1E12C (.node (.node (.node
  (.node .empty 0x1E130 0x1E13D .empty) 0x1E140 0x1E149 .empty) 0x1E14E 0x1E14F (.node .empty
  0x1E290 0x1E2AE .empty)) 0x1E2C0 0x1E2F9 (.node (.node (.node .empty 0x1E2FF 0x1E2FF .empty)
  0x1E4D0 0x1E4F9 .empty) 0x1E5D0 0x1E5FA (.node .empty 0x1E5FF 0x1E5FF .empty)))) 0x1E6C0
  0x1E6DE (.node (.node (.node (.node (.node .empty 0x1E6E0 0x1E6F5 .empty) 0x1E6FE 0x1E6FF
  .empty) 0x1E7E0 0x1E7E6 (.node .empty 0x1E7E8 0x1E7EB .empty)) 0x1E7ED 0x1E7EE (.node (.node
  (.node .empty 0x1E7F0 0x1E7FE .empty) 0x1E800 0x1E8C4 .empty) 0x1E8C7 0x1E8D6 (.node .empty
  0x1E922 0x1E94B .empty))) 0x1E950 0x1E959 (.node (.node (.node (.node .empty 0x1E95E 0x1E95F
  .empty) 0x1EC71 0x1ECB4 .empty) 0x1ED01 0x1ED3D (.node .empty 0x1EEF0 0x1EEF1 .empty)) 0x1F000
  0x1F02B (.node (.node (.node .empty 0x1F030 0x1F093 .empty) 0x1F0A0 0x1F0AE .empty) 0x1F0B1
  0x1F0BF (.node .empty 0x1F0C1 0x1F0CF .empty))))) 0x1F0D1 0x1F0F5 (.node (.node (.node (.node
  (.node (.node .empty 0x1F10B 0x1F10F .empty) 0x1F12F 0x1F12F .empty) 0x1F150 0x1F169 (.node
  (.node .empty 0x1F16D 0x1F18F .empty) 0x1F191 0x1F1AD .empty)) 0x1F1E6 0x1F1FF (.node (.node
  (.node .empty 0x1F260 0x1F265 .empty) 0x1F300 0x1F6D8 .empty) 0x1F6DC 0x1F6EC (.node .empty
  0x1F6F0 0x1F6FC .empty))) 0x1F700 0x1F7D9 (.node (.node (.node (.node .empty 0x1F7E0 0x1F7EB
  .empty) 0x1F7F0 0x1F7F0 .empty) 0x1F800 0x1F80B (.node .empty 0x1F810 0x1F847 .empty)) 0x1F850
  0x1F859 (.node (.node (.node .empty 0x1F860 0x1F887 .empty) 0x1F890 0x1F8AD .empty) 0x1F8B0
  0x1F8BB (.node .empty 0x1F8C0 0x1F8C1 .empty)))) 0x1F8D0 0x1F8D8 (.node (.node (.node (.node
  (.node .empty 0x1F900 0x1FA57 .empty) 0x1FA60 0x1FA6D .empty) 0x1FA70 0x1FA7C (.node .empty
  0x1FA80 0x1FA8A .empty)) 0x1FA8E 0x1FAC6 (.node (.node (.node .empty 0x1FAC8 0x1FAC8 .empty)
  0x1FACD 0x1FADC .empty) 0x1FADF 0x1FAEA (.node .empty 0x1FAEF 0x1FAF8 .empty))) 0x1FB00 0x1FB92
  (.node (.node (.node (.node .empty 0x1FB94 0x1FBEF .empty) 0x1FBFA 0x1FBFA .empty) 0x20000
  0x2A6DF (.node .empty 0x2A700 0x2B81D .empty)) 0x2B820 0x2CEAD (.node (.node (.node .empty
  0x2CEB0 0x2EBE0 .empty) 0x2EBF0 0x2EE5D .empty) 0x30000 0x3134A (.node .empty 0x31350 0x33479
  .empty)))))))))

end BareUrl.Address.Domain
