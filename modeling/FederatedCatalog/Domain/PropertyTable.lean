import FederatedCatalog.Text.RangeTable

/-!
# Property tables of domain names

Properties of the characters that a label may hold; between these, a range may run over characters
that it may not hold.
-/

namespace FederatedCatalog.Domain

open Text

/-- Combining marks. -/
def markRanges : RangeTable := RangeTable.ofLines [
  "300-36F 483-489 591-5BD 5BF 5C1-5C2 5C4-5C5 5C7 610-61A 64B-65F 670 6D6-6DC 6DF-6E4 6E7-6E8",
  "6EA-6ED 711 730-74A 7A6-7B0 7EB-7F3 7FD 816-819 81B-823 825-827 829-82D 859-85B 898-89F",
  "8CA-903 93A-93C 93E-94F 951-957 962-963 981-983 9BC 9BE-9CD 9D7 9E2-9E3 9FE-A03 A3C-A51",
  "A70-A71 A75 A81-A83 ABC ABE-ACD AE2-AE3 AFA-B03 B3C B3E-B57 B62-B63 B82 BBE-BCD BD7 C00-C04",
  "C3C C3E-C56 C62-C63 C81-C83 CBC CBE-CD6 CE2-CE3 CF3-D03 D3B-D3C D3E-D4D D57 D62-D63 D81-D83",
  "DCA-DDF DF2-DF3 E31 E34-E3A E47-E4E EB1 EB4-EBC EC8-ECE F18-F19 F35 F37 F39 F3E-F3F F71-F84",
  "F86-F87 F8D-FBC FC6 102B-103E 1056-1059 105E-1060 1062-1064 1067-106D 1071-1074 1082-108D",
  "108F 109A-109D 135D-135F 1712-1715 1732-1734 1752-1753 1772-1773 17B6-17D3 17DD 1885-1886",
  "18A9 1920-193B 1A17-1A1B 1A55-1A7F 1AB0-1ACE 1B00-1B04 1B34-1B44 1B6B-1B73 1B80-1B82",
  "1BA1-1BAD 1BE6-1BF3 1C24-1C37 1CD0-1CD2 1CD4-1CE8 1CED 1CF4 1CF7-1CF9 1DC0-1DFF 20D0-20F0",
  "2CEF-2CF1 2D7F 2DE0-2DFF 302A-302F 3099-309A A66F-A672 A674-A67D A69E-A69F A6F0-A6F1 A802",
  "A806 A80B A823-A827 A82C A880-A881 A8B4-A8C5 A8E0-A8F1 A8FF A926-A92D A947-A953 A980-A983",
  "A9B3-A9C0 A9E5 AA29-AA36 AA43 AA4C-AA4D AA7B-AA7D AAB0 AAB2-AAB4 AAB7-AAB8 AABE-AABF AAC1",
  "AAEB-AAEF AAF5-AAF6 ABE3-ABEA ABEC-ABED FB1E FE20-FE2F 101FD 102E0 10376-1037A 10A01-10A0F",
  "10A38-10A3F 10AE5-10AE6 10D24-10D27 10EAB-10EAC 10EFD-10EFF 10F46-10F50 10F82-10F85",
  "11000-11002 11038-11046 11070 11073-11074 1107F-11082 110B0-110BA 110C2 11100-11102",
  "11127-11134 11145-11146 11173 11180-11182 111B3-111C0 111C9-111CC 111CE-111CF 1122C-11237",
  "1123E 11241 112DF-112EA 11300-11303 1133B-1133C 1133E-1134D 11357 11362-11374 11435-11446",
  "1145E 114B0-114C3 115AF-115C0 115DC-115DD 11630-11640 116AB-116B7 1171D-1172B 1182C-1183A",
  "11930-1193E 11940 11942-11943 119D1-119E0 119E4 11A01-11A0A 11A33-11A39 11A3B-11A3E 11A47",
  "11A51-11A5B 11A8A-11A99 11C2F-11C3F 11C92-11CB6 11D31-11D45 11D47 11D8A-11D97 11EF3-11EF6",
  "11F00-11F01 11F03 11F34-11F42 13440 13447-13455 16AF0-16AF4 16B30-16B36 16F4F 16F51-16F92",
  "16FE4-16FF1 1BC9D-1BC9E 1CF00-1CF46 1D165-1D169 1D16D-1D182 1D185-1D18B 1D1AA-1D1AD",
  "1D242-1D244 1DA00-1DA36 1DA3B-1DA6C 1DA75 1DA84 1DA9B-1DAAF 1E000-1E08F 1E130-1E136 1E2AE",
  "1E2EC-1E2EF 1E4EC-1E4EF 1E8D0-1E8D6 1E944-1E94A"]

/-- The direction in which characters run: 1 for those that run to the left, 2 for Arabic numbers,
3 for European numbers, 4 for those without a direction and 5 for marks that take no room. All
others run to the right. -/
def directionRanges : RangeTable := RangeTable.ofLines [
  "0-8+4 E-1B+4 21-2F+4 30-39+3 3A-60+4 7B-D7+4 F7+4 2B9-2BA+4 2C2-2CF+4 2D2-2ED+4 2EF-2FF+4",
  "300-36F+5 375+4 3F6+4 483-489+5 58A-58F+4 591-5BD+5 5BE+1 5BF+5 5C0+1 5C1-5C2+5 5C3+1",
  "5C4-5C5+5 5C6+1 5C7+5 5D0-5F4+1 606-607+4 608+1 609-60A+4 60B+1 60C+4 60D+1 60E-60F+4",
  "610-61A+5 61B-64A+1 64B-65F+5 660-669+2 66A+4 66B-66C+2 66D-66F+1 670+5 671-6D5+1 6D6-6DC+5",
  "6DE+4 6DF-6E4+5 6E5-6E6+1 6E7-6E8+5 6E9+4 6EA-6ED+5 6EE-6EF+1 6F0-6F9+3 6FA-710+1 711+5",
  "712-72F+1 730-74A+5 74D-7A5+1 7A6-7B0+5 7B1-7EA+1 7EB-7F3+5 7F4-7F5+1 7F6-7F9+4 7FA+1 7FD+5",
  "7FE-815+1 816-819+5 81A+1 81B-823+5 824+1 825-827+5 828+1 829-82D+5 830-858+1 859-85B+5",
  "85E-897+1 898-89F+5 8A0-8C9+1 8CA-902+5 93A+5 93C+5 941-948+5 94D+5 951-957+5 962-963+5",
  "981+5 9BC+5 9C1-9C4+5 9CD+5 9E2-9E3+5 9F2-9F3+4 9FB+4 9FE-A02+5 A3C+5 A41-A51+5 A70-A71+5",
  "A75+5 A81-A82+5 ABC+5 AC1-AC8+5 ACD+5 AE2-AE3+5 AF1+4 AFA-B01+5 B3C+5 B3F+5 B41-B44+5",
  "B4D-B56+5 B62-B63+5 B82+5 BC0+5 BCD+5 BF3-BFA+4 C00+5 C04+5 C3C+5 C3E-C40+5 C46-C56+5",
  "C62-C63+5 C78-C7E+4 C81+5 CBC+5 CCC-CCD+5 CE2-CE3+5 D00-D01+5 D3B-D3C+5 D41-D44+5 D4D+5",
  "D62-D63+5 D81+5 DCA+5 DD2-DD6+5 E31+5 E34-E3A+5 E3F+4 E47-E4E+5 EB1+5 EB4-EBC+5 EC8-ECE+5",
  "F18-F19+5 F35+5 F37+5 F39+5 F3A-F3D+4 F71-F7E+5 F80-F84+5 F86-F87+5 F8D-FBC+5 FC6+5",
  "102D-1030+5 1032-1037+5 1039-103A+5 103D-103E+5 1058-1059+5 105E-1060+5 1071-1074+5 1082+5",
  "1085-1086+5 108D+5 109D+5 135D-135F+5 1390-1399+4 1400+4 169B-169C+4 1712-1714+5 1732-1733+5",
  "1752-1753+5 1772-1773+5 17B7-17BD+5 17C6+5 17C9-17D3+5 17DB+4 17DD+5 17F0-180A+4 1885-1886+5",
  "18A9+5 1920-1922+5 1927-1928+5 1932+5 1939-193B+5 1940-1945+4 19DE-19FF+4 1A17-1A18+5 1A1B+5",
  "1A56+5 1A58-1A60+5 1A62+5 1A65-1A6C+5 1A73-1A7F+5 1AB0-1ACE+5 1B00-1B03+5 1B34+5 1B36-1B3A+5",
  "1B3C+5 1B42+5 1B6B-1B73+5 1B80-1B81+5 1BA2-1BA5+5 1BA8-1BA9+5 1BAB-1BAD+5 1BE6+5 1BE8-1BE9+5",
  "1BED+5 1BEF-1BF1+5 1C2C-1C33+5 1C36-1C37+5 1CD0-1CD2+5 1CD4-1CE0+5 1CE2-1CE8+5 1CED+5 1CF4+5",
  "1CF8-1CF9+5 1DC0-1DFF+5 200C-20C1+4 20D0-20F0+5 2104-214D+4 218A-2335+4 237B-2394+4",
  "2396-2426+4 2440-26AB+4 26AD-27FF+4 2900-2B95+4 2B97-2BFF+4 2CE5-2CEA+4 2CEF-2CF1+5",
  "2CF9-2CFF+4 2D7F+5 2DE0-2DFF+5 2E00-3004+4 3008-3020+4 302A-302D+5 3030+4 3037+4 303D-303F+4",
  "3099-309A+5 30A0+4 30FB+4 31C0-31E3+4 4DC0-4DFF+4 A490-A4C6+4 A60D-A60F+4 A66F-A672+5 A673+4",
  "A674-A67D+5 A67E-A67F+4 A69E-A69F+5 A6F0-A6F1+5 A700-A721+4 A788+4 A802+5 A806+5 A80B+5",
  "A825-A826+5 A828-A82B+4 A82C+5 A838-A839+4 A874-A877+4 A8C4-A8C5+5 A8E0-A8F1+5 A8FF+5",
  "A926-A92D+5 A947-A951+5 A980-A982+5 A9B3+5 A9B6-A9B9+5 A9BC-A9BD+5 A9E5+5 AA29-AA2E+5",
  "AA31-AA32+5 AA35-AA36+5 AA43+5 AA4C+5 AA7C+5 AAB0+5 AAB2-AAB4+5 AAB7-AAB8+5 AABE-AABF+5",
  "AAC1+5 AAEC-AAED+5 AAF6+5 AB6A-AB6B+4 ABE5+5 ABE8+5 ABED+5 FB1E+5 FBB2-FBD2+1 FD3E-FD4F+4",
  "FD90-FDCE+1 FDCF-FDFF+4 FE20-FE2F+5 FE45-FE46+4 FE73+1 10101+4 10140-1018C+4 10190-101A0+4",
  "101FD+5 102E0+5 102E1-102FB+3 10376-1037A+5 10800-1091B+1 1091F+4 10920-10A00+1",
  "10A01-10A0F+5 10A10-10A35+1 10A38-10A3F+5 10A40-10AE4+1 10AE5-10AE6+5 10AEB-10B35+1",
  "10B39-10B3F+4 10B40-10D23+1 10D24-10D27+5 10D30-10D39+2 10D40-10D8F+1 10E60-10E7E+2",
  "10E80-10EA9+1 10EAB-10EAC+5 10EAD-10EFC+1 10EFD-10EFF+5 10F00-10F45+1 10F46-10F50+5",
  "10F51-10F81+1 10F82-10F85+5 10F86-10FF6+1 11001+5 11038-11046+5 11052-11065+4 11070+5",
  "11073-11074+5 1107F-11081+5 110B3-110B6+5 110B9-110BA+5 110C2+5 11100-11102+5 11127-1112B+5",
  "1112D-11134+5 11173+5 11180-11181+5 111B6-111BE+5 111C9-111CC+5 111CF+5 1122F-11231+5",
  "11234+5 11236-11237+5 1123E+5 11241+5 112DF+5 112E3-112EA+5 11300-11301+5 1133B-1133C+5",
  "11340+5 11366-11374+5 11438-1143F+5 11442-11444+5 11446+5 1145E+5 114B3-114B8+5 114BA+5",
  "114BF-114C0+5 114C2-114C3+5 115B2-115B5+5 115BC-115BD+5 115BF-115C0+5 115DC-115DD+5",
  "11633-1163A+5 1163D+5 1163F-11640+5 11660-1166C+4 116AB+5 116AD+5 116B0-116B5+5 116B7+5",
  "1171D-1171F+5 11722-11725+5 11727-1172B+5 1182F-11837+5 11839-1183A+5 1193B-1193C+5 1193E+5",
  "11943+5 119D4-119DB+5 119E0+5 11A01-11A06+5 11A09-11A0A+5 11A33-11A38+5 11A3B-11A3E+5",
  "11A47+5 11A51-11A56+5 11A59-11A5B+5 11A8A-11A96+5 11A98-11A99+5 11C30-11C3D+5 11C92-11CA7+5",
  "11CAA-11CB0+5 11CB2-11CB3+5 11CB5-11CB6+5 11D31-11D45+5 11D47+5 11D90-11D91+5 11D95+5",
  "11D97+5 11EF3-11EF4+5 11F00-11F01+5 11F36-11F3A+5 11F40+5 11F42+5 11FD5-11FF1+4 13440+5",
  "13447-13455+5 16AF0-16AF4+5 16B30-16B36+5 16F4F+5 16F8F-16F92+5 16FE2+4 16FE4+5",
  "1BC9D-1BC9E+5 1CF00-1CF46+5 1D167-1D169+5 1D17B-1D182+5 1D185-1D18B+5 1D1AA-1D1AD+5",
  "1D1E9-1D241+4 1D242-1D244+5 1D245+4 1D300-1D356+4 1DA00-1DA36+5 1DA3B-1DA6C+5 1DA75+5",
  "1DA84+5 1DA9B-1DAAF+5 1E000-1E08F+5 1E130-1E136+5 1E2AE+5 1E2EC-1E2EF+5 1E2FF+4",
  "1E4EC-1E4EF+5 1E800-1E8CF+1 1E8D0-1E8D6+5 1E922-1E943+1 1E944-1E94A+5 1E94B-1ED3D+1",
  "1EEF0-1F12F+4 1F16D-1F16F+4 1F1AD+4 1F260-1F6D7+4 1F6DC-1F776+4 1F77B-1F8B1+4 1F900-1FA53+4",
  "1FA60-1FA88+4 1FA90-1FABD+4 1FABF-1FAC5+4 1FACE-1FADB+4 1FAE0-1FAE8+4 1FAF0-1FBCA+4"]

/-- How letters join: 1 for those that join on both sides, 2 for those that join what follows them,
3 for those that join what stands before them and 4 for characters that joining looks through. All
others join nothing. -/
def joiningRanges : RangeTable := RangeTable.ofLines [
  "300-36F+4 483-489+4 591-5BD+4 5BF+4 5C1-5C2+4 5C4-5C5+4 5C7+4 610-61A+4 620+1 622-625+3",
  "626+1 627+3 628+1 629+3 62A-62E+1 62F-632+3 633-63F+1 641-647+1 648+3 649-64A+1 64B-65F+4",
  "66E-66F+1 670+4 671-673+3 679-687+1 688-699+3 69A-6BF+1 6C0+3 6C1-6C2+1 6C3-6CB+3 6CC+1",
  "6CD+3 6CE+1 6CF+3 6D0-6D1+1 6D2-6D3+3 6D5+3 6D6-6DC+4 6DF-6E4+4 6E7-6E8+4 6EA-6ED+4",
  "6EE-6EF+3 6FA-6FC+1 6FF+1 710+3 711+4 712-714+1 715-719+3 71A-71D+1 71E+3 71F-727+1 728+3",
  "729+1 72A+3 72B+1 72C+3 72D-72E+1 72F+3 730-74A+4 74D+3 74E-758+1 759-75B+3 75C-76A+1",
  "76B-76C+3 76D-770+1 771+3 772+1 773-774+3 775-777+1 778-779+3 77A-77F+1 7A6-7B0+4 7CA-7EA+1",
  "7EB-7F3+4 7FD+4 816-819+4 81B-823+4 825-827+4 829-82D+4 840+3 841-845+1 846-847+3 848+1",
  "849+3 84A-853+1 854+3 855+1 856-858+3 859-85B+4 860+1 862-865+1 867+3 868+1 869-882+3 886+1",
  "889-88D+1 88E+3 88F+1 898-89F+4 8A0-8A9+1 8AA-8AC+3 8AE+3 8AF-8B0+1 8B1-8B2+3 8B3-8B8+1",
  "8B9+3 8BA-8C8+1 8CA-902+4 93A+4 93C+4 941-948+4 94D+4 951-957+4 962-963+4 981+4 9BC+4",
  "9C1-9C4+4 9CD+4 9E2-9E3+4 9FE-A02+4 A3C+4 A41-A51+4 A70-A71+4 A75+4 A81-A82+4 ABC+4",
  "AC1-AC8+4 ACD+4 AE2-AE3+4 AFA-B01+4 B3C+4 B3F+4 B41-B44+4 B4D-B56+4 B62-B63+4 B82+4 BC0+4",
  "BCD+4 C00+4 C04+4 C3C+4 C3E-C40+4 C46-C56+4 C62-C63+4 C81+4 CBC+4 CBF+4 CC6+4 CCC-CCD+4",
  "CE2-CE3+4 D00-D01+4 D3B-D3C+4 D41-D44+4 D4D+4 D62-D63+4 D81+4 DCA+4 DD2-DD6+4 E31+4",
  "E34-E3A+4 E47-E4E+4 EB1+4 EB4-EBC+4 EC8-ECE+4 F18-F19+4 F35+4 F37+4 F39+4 F71-F7E+4",
  "F80-F84+4 F86-F87+4 F8D-FBC+4 FC6+4 102D-1030+4 1032-1037+4 1039-103A+4 103D-103E+4",
  "1058-1059+4 105E-1060+4 1071-1074+4 1082+4 1085-1086+4 108D+4 109D+4 135D-135F+4 1712-1714+4",
  "1732-1733+4 1752-1753+4 1772-1773+4 17B7-17BD+4 17C6+4 17C9-17D3+4 17DD+4 1807+1 1820-1878+1",
  "1885-1886+4 1887-18A8+1 18A9+4 18AA+1 1920-1922+4 1927-1928+4 1932+4 1939-193B+4 1A17-1A18+4",
  "1A1B+4 1A56+4 1A58-1A60+4 1A62+4 1A65-1A6C+4 1A73-1A7F+4 1AB0-1ACE+4 1B00-1B03+4 1B34+4",
  "1B36-1B3A+4 1B3C+4 1B42+4 1B6B-1B73+4 1B80-1B81+4 1BA2-1BA5+4 1BA8-1BA9+4 1BAB-1BAD+4 1BE6+4",
  "1BE8-1BE9+4 1BED+4 1BEF-1BF1+4 1C2C-1C33+4 1C36-1C37+4 1CD0-1CD2+4 1CD4-1CE0+4 1CE2-1CE8+4",
  "1CED+4 1CF4+4 1CF8-1CF9+4 1DC0-1DFF+4 20D0-20F0+4 2CEF-2CF1+4 2D7F+4 2DE0-2DFF+4 302A-302D+4",
  "3099-309A+4 A66F-A672+4 A674-A67D+4 A69E-A69F+4 A6F0-A6F1+4 A802+4 A806+4 A80B+4 A825-A826+4",
  "A82C+4 A840-A871+1 A872+2 A8C4-A8C5+4 A8E0-A8F1+4 A8FF+4 A926-A92D+4 A947-A951+4 A980-A982+4",
  "A9B3+4 A9B6-A9B9+4 A9BC-A9BD+4 A9E5+4 AA29-AA2E+4 AA31-AA32+4 AA35-AA36+4 AA43+4 AA4C+4",
  "AA7C+4 AAB0+4 AAB2-AAB4+4 AAB7-AAB8+4 AABE-AABF+4 AAC1+4 AAEC-AAED+4 AAF6+4 ABE5+4 ABE8+4",
  "ABED+4 FB1E+4 FE20-FE2F+4 101FD+4 102E0+4 10376-1037A+4 10A01-10A0F+4 10A38-10A3F+4",
  "10AC0-10AC4+1 10AC5+3 10AC7+3 10AC9-10ACA+3 10ACD+2 10ACE-10AD2+3 10AD3-10AD6+1 10AD7+2",
  "10AD8-10ADC+1 10ADD+3 10ADE-10AE0+1 10AE1+3 10AE4+3 10AE5-10AE6+4 10AEB-10AEE+1 10AEF+3",
  "10B80+1 10B81+3 10B82+1 10B83-10B85+3 10B86-10B88+1 10B89+3 10B8A-10B8B+1 10B8C+3 10B8D+1",
  "10B8E-10B8F+3 10B90+1 10B91+3 10BA9-10BAC+3 10BAD-10BAE+1 10D00+2 10D01-10D21+1 10D22+3",
  "10D23+1 10D24-10D27+4 10EAB-10EAC+4 10EC2+3 10EC3-10EC4+1 10EC6-10EC7+1 10EFD-10EFF+4",
  "10F30-10F32+1 10F33+3 10F34-10F44+1 10F46-10F50+4 10F51-10F53+1 10F54+3 10F70-10F73+1",
  "10F74-10F75+3 10F76-10F81+1 10F82-10F85+4 10FB0+1 10FB2-10FB3+1 10FB4-10FB6+3 10FB8+1",
  "10FB9-10FBA+3 10FBB-10FBC+1 10FBD+3 10FBE-10FBF+1 10FC1+1 10FC2-10FC3+3 10FC4+1 10FC9+3",
  "10FCA+1 10FCB+2 11001+4 11038-11046+4 11070+4 11073-11074+4 1107F-11081+4 110B3-110B6+4",
  "110B9-110BA+4 110C2+4 11100-11102+4 11127-1112B+4 1112D-11134+4 11173+4 11180-11181+4",
  "111B6-111BE+4 111C9-111CC+4 111CF+4 1122F-11231+4 11234+4 11236-11237+4 1123E+4 11241+4",
  "112DF+4 112E3-112EA+4 11300-11301+4 1133B-1133C+4 11340+4 11366-11374+4 11438-1143F+4",
  "11442-11444+4 11446+4 1145E+4 114B3-114B8+4 114BA+4 114BF-114C0+4 114C2-114C3+4",
  "115B2-115B5+4 115BC-115BD+4 115BF-115C0+4 115DC-115DD+4 11633-1163A+4 1163D+4 1163F-11640+4",
  "116AB+4 116AD+4 116B0-116B5+4 116B7+4 1171D-1171F+4 11722-11725+4 11727-1172B+4",
  "1182F-11837+4 11839-1183A+4 1193B-1193C+4 1193E+4 11943+4 119D4-119DB+4 119E0+4",
  "11A01-11A0A+4 11A33-11A38+4 11A3B-11A3E+4 11A47+4 11A51-11A56+4 11A59-11A5B+4 11A8A-11A96+4",
  "11A98-11A99+4 11C30-11C3D+4 11C3F+4 11C92-11CA7+4 11CAA-11CB0+4 11CB2-11CB3+4 11CB5-11CB6+4",
  "11D31-11D45+4 11D47+4 11D90-11D91+4 11D95+4 11D97+4 11EF3-11EF4+4 11F00-11F01+4",
  "11F36-11F3A+4 11F40+4 11F42+4 13440+4 13447-13455+4 16AF0-16AF4+4 16B30-16B36+4 16F4F+4",
  "16F8F-16F92+4 16FE4+4 1BC9D-1BC9E+4 1CF00-1CF46+4 1D167-1D169+4 1D17B-1D182+4 1D185-1D18B+4",
  "1D1AA-1D1AD+4 1D242-1D244+4 1DA00-1DA36+4 1DA3B-1DA6C+4 1DA75+4 1DA84+4 1DA9B-1DAAF+4",
  "1E000-1E08F+4 1E130-1E136+4 1E2AE+4 1E2EC-1E2EF+4 1E4EC-1E4EF+4 1E8D0-1E8D6+4 1E922-1E943+1",
  "1E944-1E94B+4"]

end FederatedCatalog.Domain
