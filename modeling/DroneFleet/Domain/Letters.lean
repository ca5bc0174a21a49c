import DroneFleet.Domain.Table

/-!
# The characters of domain names

* `isLetter`        may a name hold the character as it is?
* `Kind`            is a character one of its own, or a mark on the one before?
* `kindOf`          the kind of a character
* `markClass`       where a mark stands among the marks on one character; zero for no mark
* `isJoin`          does the character ask its neighbours to join, or not to?
-/

namespace DroneFleet.Domain

/-- where the characters begin and end that a name may hold as they are, or as others -/
def letterBounds : List Nat := bounds [
  "0 80 A1 378 37B 380 390 3A2 3AC 530 559 58B 58D 590 591 5C8 5D0 5EB 5EF 5F5 606 61C 61D 6DD",
  "6DE 70E 710 74B 74D 7B2 7C0 7FB 7FD 82E 830 83F 840 85C 85E 85F 860 86B 870 890 897 8E2 8E3",
  "984 985 98D 98F 991 993 9A9 9AA 9B1 9B2 9B3 9B6 9BA 9BC 9C5 9C7 9C9 9CB 9CF 9D7 9D8 9E0 9E4",
  "9E6 9FF A01 A04 A05 A0B A0F A11 A13 A29 A2A A31 A32 A34 A35 A37 A38 A3A A3C A3D A3E A43 A47",
  "A49 A4B A4E A51 A52 A5C A5D A66 A77 A81 A84 A85 A8E A8F A92 A93 AA9 AAA AB1 AB2 AB4 AB5 ABA",
  "ABC AC6 AC7 ACA ACB ACE AD0 AD1 AE0 AE4 AE6 AF2 AF9 B00 B01 B04 B05 B0D B0F B11 B13 B29 B2A",
  "B31 B32 B34 B35 B3A B3C B45 B47 B49 B4B B4E B55 B58 B5F B64 B66 B78 B82 B84 B85 B8B B8E B91",
  "B92 B96 B99 B9B B9C B9D B9E BA0 BA3 BA5 BA8 BAB BAE BBA BBE BC3 BC6 BC9 BCA BCE BD0 BD1 BD7",
  "BD8 BE6 BFB C00 C0D C0E C11 C12 C29 C2A C3A C3C C45 C46 C49 C4A C4E C55 C57 C58 C5B C5C C5E",
  "C60 C64 C66 C70 C77 C8D C8E C91 C92 CA9 CAA CB4 CB5 CBA CBC CC5 CC6 CC9 CCA CCE CD5 CD7 CDC",
  "CDF CE0 CE4 CE6 CF0 CF1 CF4 D00 D0D D0E D11 D12 D45 D46 D49 D4A D50 D54 D64 D66 D80 D81 D84",
  "D85 D97 D9A DB2 DB3 DBC DBD DBE DC0 DC7 DCA DCB DCF DD5 DD6 DD7 DD8 DE0 DE6 DF0 DF2 DF5 E01",
  "E3B E3F E5C E81 E83 E84 E85 E86 E8B E8C EA4 EA5 EA6 EA7 EBE EC0 EC5 EC6 EC7 EC8 ECF ED0 EDA",
  "EDE EE0 F00 F48 F49 F6D F71 F98 F99 FBD FBE FCD FCE FDB 1000 10C6 10D0 1249 124A 124E 1250",
  "1257 1258 1259 125A 125E 1260 1289 128A 128E 1290 12B1 12B2 12B6 12B8 12BF 12C0 12C1 12C2",
  "12C6 12C8 12D7 12D8 1311 1312 1316 1318 135B 135D 137D 1380 139A 13A0 13F6 1400 1680 1681",
  "169D 16A0 16F9 1700 1716 171F 1737 1740 1754 1760 176D 176E 1771 1772 1774 1780 17DE 17E0",
  "17EA 17F0 17FA 1800 181A 1820 1879 1880 18AB 18B0 18F6 1900 191F 1920 192C 1930 193C 1940",
  "1941 1944 196E 1970 1975 1980 19AC 19B0 19CA 19D0 19DB 19DE 1A1C 1A1E 1A5F 1A60 1A7D 1A7F",
  "1A8A 1A90 1A9A 1AA0 1AAE 1AB0 1ADE 1AE0 1AEC 1B00 1B4D 1B4E 1BF4 1BFC 1C38 1C3B 1C4A 1C4D",
  "1C8B 1CC0 1CC8 1CD0 1CFB 1D00 1F16 1F20 1F46 1F50 1F58 1F60 1F7E 1FB0 1FB5 1FB6 1FC5 1FC6",
  "1FD4 1FD6 1FDC 1FE0 1FF0 1FF6 1FFF 200C 200E 2010 2024 2027 2028 2030 2065 20A0 20C2 20D0",
  "20F1 2104 218C 2190 242A 2440 244B 24EB 2B74 2B76 2CF4 2CF9 2D26 2D27 2D28 2D2D 2D2E 2D30",
  "2D68 2D70 2D71 2D7F 2D97 2DA0 2DA7 2DA8 2DAF 2DB0 2DB7 2DB8 2DBF 2DC0 2DC7 2DC8 2DCF 2DD0",
  "2DD7 2DD8 2DDF 2DE0 2E5E 2E80 2E9A 2E9B 2EF4 3001 3040 3041 3097 3099 3100 3105 3130 3190",
  "31E6 31F0 321F 3248 33C2 3400 A48D A490 A4C7 A4D0 A62C A641 A6F8 A700 A7DD A7F6 A82D A830",
  "A83A A840 A878 A880 A8C6 A8CE A8DA A8E0 A954 A95F A97D A980 A9CE A9CF A9DA A9DE A9FF AA00",
  "AA37 AA40 AA4E AA50 AA5A AA5C AAC3 AADB AAF7 AB01 AB07 AB09 AB0F AB11 AB17 AB20 AB27 AB28",
  "AB2F AB30 AB6C ABC0 ABEE ABF0 ABFA AC00 D7A4 D7B0 D7C7 D7CB D7FC FA0E FA6E FB1E FB37 FBB2",
  "FDD0 FDFD FE12 FE20 FE30 FE45 FE52 FE73 FE75 10000 1000C 1000D 10027 10028 1003B 1003C 1003E",
  "1003F 1004E 10050 1005E 10080 100FB 10100 10103 10107 10134 10137 1018F 10190 1019D 101A0",
  "101A1 101D0 101FE 10280 1029D 102A0 102D1 102E0 102FC 10300 10324 1032D 1034B 10350 1037B",
  "10380 1039E 1039F 103C4 103C8 103D6 10428 1049E 104A0 104AA 104D8 104FC 10500 10528 10530",
  "10564 1056F 1057B 10597 105A2 105A3 105B2 105B3 105BA 105BB 105BD 105C0 105F4 10600 10737",
  "10740 10756 10760 10768 10780 10786 10800 10806 10808 10809 1080A 10836 10837 10839 1083C",
  "1083D 1083F 10856 10857 1089F 108A7 108B0 108E0 108F3 108F4 108F6 108FB 1091C 1091F 1093A",
  "1093F 1095A 10980 109B8 109BC 109D0 109D2 10A04 10A05 10A07 10A0C 10A14 10A15 10A18 10A19",
  "10A36 10A38 10A3B 10A3F 10A49 10A50 10A59 10A60 10AA0 10AC0 10AE7 10AEB 10AF7 10B00 10B36",
  "10B39 10B56 10B58 10B73 10B78 10B92 10B99 10B9D 10BA9 10BB0 10C00 10C49 10CC0 10CF3 10CFA",
  "10D28 10D30 10D3A 10D40 10D66 10D69 10D86 10D8E 10D90 10E60 10E7F 10E80 10EAA 10EAB 10EAE",
  "10EB0 10EB2 10EC2 10EC8 10ED0 10ED9 10EFA 10F28 10F30 10F5A 10F70 10F8A 10FB0 10FCC 10FE0",
  "10FF7 11000 1104E 11052 11076 1107F 110BD 110BE 110C3 110D0 110E9 110F0 110FA 11100 11135",
  "11136 11148 11150 11177 11180 111E0 111E1 111F5 11200 11212 11213 11242 11280 11287 11288",
  "11289 1128A 1128E 1128F 1129E 1129F 112AA 112B0 112EB 112F0 112FA 11300 11304 11305 1130D",
  "1130F 11311 11313 11329 1132A 11331 11332 11334 11335 1133A 1133B 11345 11347 11349 1134B",
  "1134E 11350 11351 11357 11358 1135D 11364 11366 1136D 11370 11375 11380 1138A 1138B 1138C",
  "1138E 1138F 11390 113B6 113B7 113C1 113C2 113C3 113C5 113C6 113C7 113CB 113CC 113D6 113D7",
  "113D9 113E1 113E3 11400 1145C 1145D 11462 11480 114C8 114D0 114DA 11580 115B6 115B8 115DE",
  "11600 11645 11650 1165A 11660 1166D 11680 116BA 116C0 116CA 116D0 116E4 11700 1171B 1171D",
  "1172C 11730 11747 11800 1183C 118C0 118F3 118FF 11907 11909 1190A 1190C 11914 11915 11917",
  "11918 11936 11937 11939 1193B 11947 11950 1195A 119A0 119A8 119AA 119D8 119DA 119E5 11A00",
  "11A48 11A50 11AA3 11AB0 11AF9 11B00 11B0A 11B60 11B68 11BC0 11BE2 11BF0 11BFA 11C00 11C09",
  "11C0A 11C37 11C38 11C46 11C50 11C6D 11C70 11C90 11C92 11CA8 11CA9 11CB7 11D00 11D07 11D08",
  "11D0A 11D0B 11D37 11D3A 11D3B 11D3C 11D3E 11D3F 11D48 11D50 11D5A 11D60 11D66 11D67 11D69",
  "11D6A 11D8F 11D90 11D92 11D93 11D99 11DA0 11DAA 11DB0 11DDC 11DE0 11DEA 11EE0 11EF9 11F00",
  "11F11 11F12 11F3B 11F3E 11F5B 11FB0 11FB1 11FC0 11FF2 11FFF 1239A 12400 1246F 12470 12475",
  "12480 12544 12F90 12FF3 13000 13430 13440 13456 13460 143FB 14400 14647 16100 1613A 16800",
  "16A39 16A40 16A5F 16A60 16A6A 16A6E 16ABF 16AC0 16ACA 16AD0 16AEE 16AF0 16AF6 16B00 16B46",
  "16B50 16B5A 16B5B 16B62 16B63 16B78 16B7D 16B90 16D40 16D7A 16E60 16E9B 16EBB 16ED4 16F00",
  "16F4B 16F4F 16F88 16F8F 16FA0 16FE0 16FE5 16FF0 16FF7 17000 18CD6 18CFF 18D1F 18D80 18DF3",
  "1AFF0 1AFF4 1AFF5 1AFFC 1AFFD 1AFFF 1B000 1B123 1B132 1B133 1B150 1B153 1B155 1B156 1B164",
  "1B168 1B170 1B2FC 1BC00 1BC6B 1BC70 1BC7D 1BC80 1BC89 1BC90 1BC9A 1BC9C 1BCA4 1CC00 1CCFD",
  "1CD00 1CEB4 1CEBA 1CED1 1CEE0 1CEF1 1CF00 1CF2E 1CF30 1CF47 1CF50 1CFC4 1D000 1D0F6 1D100",
  "1D127 1D129 1D1EB 1D200 1D246 1D2C0 1D2D4 1D2E0 1D2F4 1D300 1D357 1D360 1D379 1D800 1DA8C",
  "1DA9B 1DAA0 1DAA1 1DAB0 1DF00 1DF1F 1DF25 1DF2B 1E000 1E007 1E008 1E019 1E01B 1E022 1E023",
  "1E025 1E026 1E02B 1E08F 1E090 1E100 1E12D 1E130 1E13E 1E140 1E14A 1E14E 1E150 1E290 1E2AF",
  "1E2C0 1E2FA 1E2FF 1E300 1E4D0 1E4FA 1E5D0 1E5FB 1E5FF 1E600 1E6C0 1E6DF 1E6E0 1E6F6 1E6FE",
  "1E700 1E7E0 1E7E7 1E7E8 1E7EC 1E7ED 1E7EF 1E7F0 1E7FF 1E800 1E8C5 1E8C7 1E8D7 1E922 1E94C",
  "1E950 1E95A 1E95E 1E960 1EC71 1ECB5 1ED01 1ED3E 1EEF0 1EEF2 1F000 1F02C 1F030 1F094 1F0A0",
  "1F0AF 1F0B1 1F0C0 1F0C1 1F0D0 1F0D1 1F0F6 1F10B 1F1AE 1F1E6 1F203 1F260 1F266 1F300 1F6D9",
  "1F6DC 1F6ED 1F6F0 1F6FD 1F700 1F7DA 1F7E0 1F7EC 1F7F0 1F7F1 1F800 1F80C 1F810 1F848 1F850",
  "1F85A 1F860 1F888 1F890 1F8AE 1F8B0 1F8BC 1F8C0 1F8C2 1F8D0 1F8D9 1F900 1FA58 1FA60 1FA6E",
  "1FA70 1FA7D 1FA80 1FA8B 1FA8E 1FAC7 1FAC8 1FAC9 1FACD 1FADD 1FADF 1FAEB 1FAEF 1FAF9 1FB00",
  "1FB93 1FB94 1FBFB 20000 2A6E0 2A700 2B81E 2B820 2CEAE 2CEB0 2EBE1 2EBF0 2EE5E 30000 3134B",
  "31350 3347A"]

/-- may a name hold the character, as it is or as another one? -/
def isKnown (c : Char) : Bool := isWithin c.toNat letterBounds

/-! ## marks -/

/-- what a character is among others -/
inductive Kind where
  /-- a character of its own -/
  | base
  /-- a mark that takes no place -/
  | overlaid
  /-- a mark that takes a place -/
  | spacing
deriving DecidableEq, Repr

/-- where the kind changes: one is a mark that takes no place, two one that does -/
def kindSteps : List (Nat × Nat) := steps [
  "0:0 300:1 371:0 483:1 48B:0 591:1 5BE:0 5BF:1 5C0:0 5C1:1 5C3:0 5C4:1 5C6:0 5C7:1 5D0:0 610:1",
  "61B:0 64B:1 660:0 670:1 671:0 6D6:1 6DE:0 6DF:1 6E5:0 6E7:1 6E9:0 6EA:1 6EE:0 711:1 712:0",
  "730:1 74D:0 7A6:1 7B1:0 7EB:1 7F4:0 7FD:1 7FE:0 816:1 81A:0 81B:1 824:0 825:1 828:0 829:1",
  "830:0 859:1 85E:0 897:1 8A0:0 8CA:1 903:2 904:0 93A:1 93B:2 93C:1 93D:0 93E:2 941:1 949:2",
  "94D:1 94E:2 950:0 951:1 960:0 962:1 964:0 981:1 982:2 985:0 9BC:1 9BD:0 9BE:2 9C1:1 9C7:2",
  "9CD:1 9CE:0 9D7:2 9E0:0 9E2:1 9E6:0 9FE:1 A03:2 A05:0 A3C:1 A3E:2 A41:1 A5C:0 A70:1 A72:0",
  "A75:1 A76:0 A81:1 A83:2 A85:0 ABC:1 ABD:0 ABE:2 AC1:1 AC9:2 ACD:1 AD0:0 AE2:1 AE6:0 AFA:1",
  "B02:2 B05:0 B3C:1 B3D:0 B3E:2 B3F:1 B40:2 B41:1 B47:2 B4D:1 B57:2 B5F:0 B62:1 B66:0 B82:1",
  "B83:0 BBE:2 BC0:1 BC1:2 BCD:1 BD0:0 BD7:2 BE6:0 C00:1 C01:2 C04:1 C05:0 C3C:1 C3D:0 C3E:1",
  "C41:2 C46:1 C58:0 C62:1 C66:0 C81:1 C82:2 C84:0 CBC:1 CBD:0 CBE:2 CBF:1 CC0:2 CC6:1 CC7:2",
  "CCC:1 CD5:2 CDC:0 CE2:1 CE6:0 CF3:2 D00:1 D02:2 D04:0 D3B:1 D3D:0 D3E:2 D41:1 D46:2 D4D:1",
  "D4E:0 D57:2 D58:0 D62:1 D66:0 D81:1 D82:2 D85:0 DCA:1 DCF:2 DD2:1 DD8:2 DE6:0 DF2:2 DF4:0",
  "E31:1 E32:0 E34:1 E3F:0 E47:1 E4F:0 EB1:1 EB2:0 EB4:1 EBD:0 EC8:1 ED0:0 F18:1 F1A:0 F35:1",
  "F36:0 F37:1 F38:0 F39:1 F3A:0 F3E:2 F40:0 F71:1 F7F:2 F80:1 F85:0 F86:1 F88:0 F8D:1 FBE:0",
  "FC6:1 FC7:0 102B:2 102D:1 1031:2 1032:1 1038:2 1039:1 103B:2 103D:1 103F:0 1056:2 1058:1",
  "105A:0 105E:1 1061:0 1062:2 1065:0 1067:2 106E:0 1071:1 1075:0 1082:1 1083:2 1085:1 1087:2",
  "108D:1 108E:0 108F:2 1090:0 109A:2 109D:1 109E:0 135D:1 1360:0 1712:1 1715:2 171F:0 1732:1",
  "1734:2 1735:0 1752:1 1760:0 1772:1 1780:0 17B6:2 17B7:1 17BE:2 17C6:1 17C7:2 17C9:1 17D4:0",
  "17DD:1 17E0:0 1885:1 1887:0 18A9:1 18AA:0 1920:1 1923:2 1927:1 1929:2 1932:1 1933:2 1939:1",
  "1940:0 1A17:1 1A19:2 1A1B:1 1A1E:0 1A55:2 1A56:1 1A57:2 1A58:1 1A61:2 1A62:1 1A63:2 1A65:1",
  "1A6D:2 1A73:1 1A80:0 1AB0:1 1B04:2 1B05:0 1B34:1 1B35:2 1B36:1 1B3B:2 1B3C:1 1B3D:2 1B42:1",
  "1B43:2 1B45:0 1B6B:1 1B74:0 1B80:1 1B82:2 1B83:0 1BA1:2 1BA2:1 1BA6:2 1BA8:1 1BAA:2 1BAB:1",
  "1BAE:0 1BE6:1 1BE7:2 1BE8:1 1BEA:2 1BED:1 1BEE:2 1BEF:1 1BF2:2 1BFC:0 1C24:2 1C2C:1 1C34:2",
  "1C36:1 1C3B:0 1CD0:1 1CD3:0 1CD4:1 1CE1:2 1CE2:1 1CE9:0 1CED:1 1CEE:0 1CF4:1 1CF5:0 1CF7:2",
  "1CF8:1 1CFA:0 1DC0:1 1E01:0 20D0:1 2104:0 2CEF:1 2CF3:0 2D7F:1 2D80:0 2DE0:1 2E00:0 302A:1",
  "302E:2 3030:0 3099:1 309D:0 A66F:1 A673:0 A674:1 A67E:0 A69E:1 A6A0:0 A6F0:1 A6F2:0 A802:1",
  "A803:0 A806:1 A807:0 A80B:1 A80C:0 A823:2 A825:1 A827:2 A828:0 A82C:1 A830:0 A880:2 A882:0",
  "A8B4:2 A8C4:1 A8CE:0 A8E0:1 A8F2:0 A8FF:1 A900:0 A926:1 A92E:0 A947:1 A952:2 A95F:0 A980:1",
  "A983:2 A984:0 A9B3:1 A9B4:2 A9B6:1 A9BA:2 A9BC:1 A9BE:2 A9C1:0 A9E5:1 A9E6:0 AA29:1 AA2F:2",
  "AA31:1 AA33:2 AA35:1 AA40:0 AA43:1 AA44:0 AA4C:1 AA4D:2 AA50:0 AA7B:2 AA7C:1 AA7D:2 AA7E:0",
  "AAB0:1 AAB1:0 AAB2:1 AAB5:0 AAB7:1 AAB9:0 AABE:1 AAC0:0 AAC1:1 AAC2:0 AAEB:2 AAEC:1 AAEE:2",
  "AAF0:0 AAF5:2 AAF6:1 AB01:0 ABE3:2 ABE5:1 ABE6:2 ABE8:1 ABE9:2 ABEB:0 ABEC:2 ABED:1 ABF0:0",
  "FB1E:1 FBB2:0 FE20:1 FE45:0 101FD:1 10280:0 102E0:1 102E1:0 10376:1 10380:0 10A01:1 10A10:0",
  "10A38:1 10A40:0 10AE5:1 10AEB:0 10D24:1 10D30:0 10D69:1 10D6E:0 10EAB:1 10EAD:0 10EFA:1",
  "10F00:0 10F46:1 10F51:0 10F82:1 10F86:0 11000:2 11001:1 11002:2 11003:0 11038:1 11047:0",
  "11070:1 11071:0 11073:1 11075:0 1107F:1 11082:2 11083:0 110B0:2 110B3:1 110B7:2 110B9:1",
  "110BB:0 110C2:1 110D0:0 11100:1 11103:0 11127:1 1112C:2 1112D:1 11136:0 11145:2 11147:0",
  "11173:1 11174:0 11180:1 11182:2 11183:0 111B3:2 111B6:1 111BF:2 111C1:0 111C9:1 111CD:0",
  "111CE:2 111CF:1 111D0:0 1122C:2 1122F:1 11232:2 11234:1 11235:2 11236:1 11238:0 1123E:1",
  "1123F:0 11241:1 11280:0 112DF:1 112E0:2 112E3:1 112F0:0 11300:1 11302:2 11305:0 1133B:1",
  "1133D:0 1133E:2 11340:1 11341:2 11350:0 11357:2 1135D:0 11362:2 11366:1 11380:0 113B8:2",
  "113BB:1 113C2:2 113CE:1 113CF:2 113D0:1 113D1:0 113D2:1 113D3:0 113E1:1 11400:0 11435:2",
  "11438:1 11440:2 11442:1 11445:2 11446:1 11447:0 1145E:1 1145F:0 114B0:2 114B3:1 114B9:2",
  "114BA:1 114BB:2 114BF:1 114C1:2 114C2:1 114C4:0 115AF:2 115B2:1 115B8:2 115BC:1 115BE:2",
  "115BF:1 115C1:0 115DC:1 11600:0 11630:2 11633:1 1163B:2 1163D:1 1163E:2 1163F:1 11641:0",
  "116AB:1 116AC:2 116AD:1 116AE:2 116B0:1 116B6:2 116B7:1 116B8:0 1171D:1 1171E:2 1171F:1",
  "11720:2 11722:1 11726:2 11727:1 11730:0 1182C:2 1182F:1 11838:2 11839:1 1183B:0 11930:2",
  "1193B:1 1193D:2 1193E:1 1193F:0 11940:2 11941:0 11942:2 11943:1 11944:0 119D1:2 119D4:1",
  "119DC:2 119E0:1 119E1:0 119E4:2 11A00:0 11A01:1 11A0B:0 11A33:1 11A39:2 11A3A:0 11A3B:1",
  "11A3F:0 11A47:1 11A50:0 11A51:1 11A57:2 11A59:1 11A5C:0 11A8A:1 11A97:2 11A98:1 11A9A:0",
  "11B60:1 11B61:2 11B62:1 11B65:2 11B66:1 11B67:2 11BC0:0 11C2F:2 11C30:1 11C3E:2 11C3F:1",
  "11C40:0 11C92:1 11CA9:2 11CAA:1 11CB1:2 11CB2:1 11CB4:2 11CB5:1 11D00:0 11D31:1 11D46:0",
  "11D47:1 11D50:0 11D8A:2 11D90:1 11D93:2 11D95:1 11D96:2 11D97:1 11D98:0 11EF3:1 11EF5:2",
  "11EF7:0 11F00:1 11F02:0 11F03:2 11F04:0 11F34:2 11F36:1 11F3E:2 11F40:1 11F41:2 11F42:1",
  "11F43:0 11F5A:1 11FB0:0 13440:1 13441:0 13447:1 13460:0 1611E:1 1612A:2 1612D:1 16130:0",
  "16AF0:1 16AF5:0 16B30:1 16B37:0 16F4F:1 16F50:0 16F51:2 16F8F:1 16F93:0 16FE4:1 16FF0:2",
  "16FF2:0 1BC9D:1 1BC9F:0 1CF00:1 1CF50:0 1D165:2 1D167:1 1D16A:0 1D16D:2 1D17B:1 1D183:0",
  "1D185:1 1D18C:0 1D1AA:1 1D1AE:0 1D242:1 1D245:0 1DA00:1 1DA37:0 1DA3B:1 1DA6D:0 1DA75:1",
  "1DA76:0 1DA84:1 1DA85:0 1DA9B:1 1DF00:0 1E000:1 1E100:0 1E130:1 1E137:0 1E2AE:1 1E2C0:0",
  "1E2EC:1 1E2F0:0 1E4EC:1 1E4F0:0 1E5EE:1 1E5F0:0 1E6E3:1 1E6E4:0 1E6E6:1 1E6E7:0 1E6EE:1",
  "1E6F0:0 1E6F5:1 1E6FE:0 1E8D0:1 1E922:0 1E944:1 1E94B:0"]

def kindOf (c : Char) : Kind :=
  match valueAt c.toNat 0 kindSteps with
  | 1 => .overlaid
  | 2 => .spacing
  | _ => .base

/-- where the place of marks among other marks changes, other characters not counted -/
def markSteps : List (Nat × Nat) := steps [
  "300:E6 315:E8 316:DC 31A:E8 31B:D8 31C:DC 321:CA 323:DC 327:CA 329:DC 334:1 339:DC 33D:E6",
  "347:DC 34A:E6 34D:DC 350:E6 353:DC 357:E6 358:E8 359:DC 35B:E6 35C:E9 35D:EA 35F:E9 360:EA",
  "362:E9 363:E6 488:0 591:DC 592:E6 596:DC 597:E6 59A:DE 59B:DC 59C:E6 5A2:DC 5A8:E6 5AA:DC",
  "5AB:E6 5AD:DE 5AE:E4 5AF:E6 5B0:A 5B1:B 5B2:C 5B3:D 5B4:E 5B5:F 5B6:10 5B7:11 5B8:12 5B9:13",
  "5BB:14 5BC:15 5BD:16 5BF:17 5C1:18 5C2:19 5C4:E6 5C5:DC 5C7:12 610:E6 618:1E 619:1F 61A:20",
  "64B:1B 64C:1C 64D:1D 64E:1E 64F:1F 650:20 651:21 652:22 653:E6 655:DC 657:E6 65C:DC 65D:E6",
  "65F:DC 670:23 6D6:E6 6E3:DC 6E4:E6 6EA:DC 6EB:E6 6ED:DC 711:24 730:E6 731:DC 732:E6 734:DC",
  "735:E6 737:DC 73A:E6 73B:DC 73D:E6 73E:DC 73F:E6 742:DC 743:E6 744:DC 745:E6 746:DC 747:E6",
  "748:DC 749:E6 7A6:0 7EB:E6 7F2:DC 7F3:E6 7FD:DC 816:E6 859:DC 897:E6 899:DC 89C:E6 8CF:DC",
  "8D4:E6 8E3:DC 8E4:E6 8E6:DC 8E7:E6 8E9:DC 8EA:E6 8ED:DC 8F0:1B 8F1:1C 8F2:1D 8F3:E6 8F6:DC",
  "8F7:E6 8F9:DC 8FB:E6 900:0 93C:7 93E:0 94D:9 94E:0 951:E6 952:DC 953:E6 955:0 9BC:7 9BE:0",
  "9CD:9 9D7:0 9FE:E6 A01:0 A3C:7 A3E:0 A4D:9 A51:0 ABC:7 ABE:0 ACD:9 AE2:0 B3C:7 B3E:0 B4D:9",
  "B55:0 BCD:9 BD7:0 C3C:7 C3E:0 C4D:9 C55:54 C56:5B C62:0 CBC:7 CBE:0 CCD:9 CD5:0 D3B:9 D3E:0",
  "D4D:9 D57:0 DCA:9 DCF:0 E38:67 E3A:9 E47:0 E48:6B E4C:0 EB8:76 EBA:9 EBB:0 EC8:7A ECC:0",
  "F18:DC F39:D8 F3E:0 F71:81 F72:82 F74:84 F7A:82 F7E:0 F80:82 F82:E6 F84:9 F86:E6 F8D:0 FC6:DC",
  "102B:0 1037:7 1038:0 1039:9 103B:0 108D:DC 108F:0 135D:E6 1712:0 1714:9 1732:0 1734:9 1752:0",
  "17D2:9 17D3:0 17DD:E6 1885:0 18A9:E4 1920:0 1939:DE 193A:E6 193B:DC 1A17:E6 1A18:DC 1A19:0",
  "1A60:9 1A61:0 1A75:E6 1A7F:DC 1AB0:E6 1AB5:DC 1ABB:E6 1ABD:DC 1ABE:0 1ABF:DC 1AC1:E6 1AC3:DC",
  "1AC5:E6 1ACA:DC 1ACB:E6 1ADD:DC 1AE0:E6 1AE6:DC 1AE7:E6 1AEB:EA 1B00:0 1B34:7 1B35:0 1B44:9",
  "1B6B:E6 1B6C:DC 1B6D:E6 1B80:0 1BAA:9 1BAC:0 1BE6:7 1BE7:0 1BF2:9 1C24:0 1C37:7 1CD0:E6",
  "1CD4:1 1CD5:DC 1CDA:E6 1CDC:DC 1CE0:E6 1CE1:0 1CE2:1 1CED:DC 1CF4:E6 1CF7:0 1CF8:E6 1DC2:DC",
  "1DC3:E6 1DCA:DC 1DCB:E6 1DCD:EA 1DCE:D6 1DCF:DC 1DD0:CA 1DD1:E6 1DF6:E8 1DF7:E4 1DF9:DC",
  "1DFA:DA 1DFB:E6 1DFC:E9 1DFD:DC 1DFE:E6 1DFF:DC 20D0:E6 20D2:1 20D4:E6 20D8:1 20DB:E6 20DD:0",
  "20E1:E6 20E2:0 20E5:1 20E7:E6 20E8:DC 20E9:E6 20EA:1 20EC:DC 20F0:E6 2D7F:9 2DE0:E6 302A:DA",
  "302B:E4 302C:E8 302D:DE 302E:E0 3099:8 A66F:E6 A670:0 A674:E6 A802:0 A806:9 A80B:0 A82C:9",
  "A880:0 A8C4:9 A8C5:0 A8E0:E6 A8FF:0 A92B:DC A947:0 A953:9 A980:0 A9B3:7 A9B4:0 A9C0:9 A9E5:0",
  "AAB0:E6 AAB4:DC AAB7:E6 AAEB:0 AAF6:9 ABE3:0 ABED:9 FB1E:1A FE20:E6 FE27:DC FE2E:E6 101FD:DC",
  "10376:E6 10A01:0 10A0D:DC 10A0E:0 10A0F:E6 10A39:1 10A3A:DC 10A3F:9 10AE5:E6 10AE6:DC",
  "10D24:E6 10EFA:DC 10EFC:0 10EFD:DC 10F48:E6 10F4B:DC 10F4C:E6 10F4D:DC 10F82:E6 10F83:DC",
  "10F84:E6 10F85:DC 11000:0 11046:9 11073:0 1107F:9 11080:0 110B9:9 110BA:7 110C2:0 11100:E6",
  "11127:0 11133:9 11145:0 11173:7 11180:0 111C0:9 111C9:0 111CA:7 111CB:0 11235:9 11236:7",
  "11237:0 112E9:7 112EA:9 11300:0 1133B:7 1133E:0 1134D:9 11357:0 11366:E6 113B8:0 113CE:9",
  "113D2:0 11442:9 11443:0 11446:7 1145E:E6 114B0:0 114C2:9 114C3:7 115AF:0 115BF:9 115C0:7",
  "115DC:0 1163F:9 11640:0 116B6:9 116B7:7 1171D:0 1172B:9 1182C:0 11839:9 1183A:7 11930:0",
  "1193D:9 11940:0 11943:7 119D1:0 119E0:9 119E4:0 11A34:9 11A35:0 11A47:9 11A51:0 11A99:9",
  "11B60:0 11C3F:9 11C92:0 11D42:7 11D43:0 11D44:9 11D47:0 11D97:9 11EF3:0 11F41:9 11F5A:0",
  "1612F:9 16AF0:1 16B30:E6 16F4F:0 16FF0:6 1BC9D:0 1BC9E:1 1CF00:0 1D165:D8 1D167:1 1D16D:E2",
  "1D16E:D8 1D17B:DC 1D185:E6 1D18A:DC 1D1AA:E6 1DA00:0 1E000:E6 1E4EC:E8 1E4EE:DC 1E4EF:E6",
  "1E5EF:DC 1E6E3:E6 1E8D0:DC 1E944:E6 1E94A:7"]

/-- where a mark stands among the marks on one character; zero for no mark -/
def markClass (c : Char) : Nat :=
  if kindOf c = .base then 0 else valueAt c.toNat 0 markSteps

/-- the class of the marks that silence a vowel -/
def silencing : Nat := 9

/-! ## joining -/

/-- the character that asks its neighbours to join -/
def joiner : Char := Char.ofNat 0x200D

/-- the character that asks its neighbours not to join -/
def nonJoiner : Char := Char.ofNat 0x200C

end DroneFleet.Domain
