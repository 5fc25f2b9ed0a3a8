import Pipescript.Text.CharTable

/-!
# Classes of characters

Properties of the plain characters of domain names (Unicode 17.0) that decide about their order and
their neighbours.
-/

namespace Pipescript

/-- The combining classes other than zero, in decimal digits. -/
def combiningClasses : CharTable :=
  .ofText "
300-314=230 315=232 316-319=220 31A=232 31B=216 31C-320=220 321-322=202 323-326=220 327-328=202
329-333=220 334-338=1 339-33C=220 33D-33F=230 342=230 346=230 347-349=220 34A-34C=230 34D-34E=220
350-352=230 353-356=220 357=230 358=232 359-35A=220 35B=230 35C=233 35D-35E=234 35F=233
360-361=234 362=233 363-36F=230 483-487=230 591=220 592-595=230 596=220 597-599=230 59A=222
59B=220 59C-5A1=230 5A2-5A7=220 5A8-5A9=230 5AA=220 5AB-5AC=230 5AD=222 5AE=228 5AF=230 5B0=10
5B1=11 5B2=12 5B3=13 5B4=14 5B5=15 5B6=16 5B7=17 5B8=18 5B9-5BA=19 5BB=20 5BC=21 5BD=22 5BF=23
5C1=24 5C2=25 5C4=230 5C5=220 5C7=18 610-617=230 618=30 619=31 61A=32 64B=27 64C=28 64D=29 64E=30
64F=31 650=32 651=33 652=34 653-654=230 655-656=220 657-65B=230 65C=220 65D-65E=230 65F=220 670=35
6D6-6DC=230 6DF-6E2=230 6E3=220 6E4=230 6E7-6E8=230 6EA=220 6EB-6EC=230 6ED=220 711=36 730=230
731=220 732-733=230 734=220 735-736=230 737-739=220 73A=230 73B-73C=220 73D=230 73E=220
73F-741=230 742=220 743=230 744=220 745=230 746=220 747=230 748=220 749-74A=230 7EB-7F1=230
7F2=220 7F3=230 7FD=220 816-819=230 81B-823=230 825-827=230 829-82D=230 859-85B=220 897-898=230
899-89B=220 89C-89F=230 8CA-8CE=230 8CF-8D3=220 8D4-8E1=230 8E3=220 8E4-8E5=230 8E6=220
8E7-8E8=230 8E9=220 8EA-8EC=230 8ED-8EF=220 8F0=27 8F1=28 8F2=29 8F3-8F5=230 8F6=220 8F7-8F8=230
8F9-8FA=220 8FB-8FF=230 93C=7 94D=9 951=230 952=220 953-954=230 9BC=7 9CD=9 9FE=230 A3C=7 A4D=9
ABC=7 ACD=9 B3C=7 B4D=9 BCD=9 C3C=7 C4D=9 C55=84 C56=91 CBC=7 CCD=9 D3B-D3C=9 D4D=9 DCA=9
E38-E39=103 E3A=9 E48-E4B=107 EB8-EB9=118 EBA=9 EC8-ECB=122 F18-F19=220 F35=220 F37=220 F39=216
F71=129 F72=130 F74=132 F7A-F7D=130 F80=130 F82-F83=230 F84=9 F86-F87=230 FC6=220 1037=7
1039-103A=9 108D=220 135D-135F=230 1714-1715=9 1734=9 17D2=9 17DD=230 18A9=228 1939=222 193A=230
193B=220 1A17=230 1A18=220 1A60=9 1A75-1A7C=230 1A7F=220 1AB0-1AB4=230 1AB5-1ABA=220 1ABB-1ABC=230
1ABD=220 1ABF-1AC0=220 1AC1-1AC2=230 1AC3-1AC4=220 1AC5-1AC9=230 1ACA=220 1ACB-1ADC=230 1ADD=220
1AE0-1AE5=230 1AE6=220 1AE7-1AEA=230 1AEB=234 1B34=7 1B44=9 1B6B=230 1B6C=220 1B6D-1B73=230
1BAA-1BAB=9 1BE6=7 1BF2-1BF3=9 1C37=7 1CD0-1CD2=230 1CD4=1 1CD5-1CD9=220 1CDA-1CDB=230
1CDC-1CDF=220 1CE0=230 1CE2-1CE8=1 1CED=220 1CF4=230 1CF8-1CF9=230 1DC0-1DC1=230 1DC2=220
1DC3-1DC9=230 1DCA=220 1DCB-1DCC=230 1DCD=234 1DCE=214 1DCF=220 1DD0=202 1DD1-1DF5=230 1DF6=232
1DF7-1DF8=228 1DF9=220 1DFA=218 1DFB=230 1DFC=233 1DFD=220 1DFE=230 1DFF=220 20D0-20D1=230
20D2-20D3=1 20D4-20D7=230 20D8-20DA=1 20DB-20DC=230 20E1=230 20E5-20E6=1 20E7=230 20E8=220
20E9=230 20EA-20EB=1 20EC-20EF=220 20F0=230 2CEF-2CF1=230 2D7F=9 2DE0-2DFF=230 302A=218 302B=228
302C=232 302D=222 302E-302F=224 3099-309A=8 A66F=230 A674-A67D=230 A69E-A69F=230 A6F0-A6F1=230
A806=9 A82C=9 A8C4=9 A8E0-A8F1=230 A92B-A92D=220 A953=9 A9B3=7 A9C0=9 AAB0=230 AAB2-AAB3=230
AAB4=220 AAB7-AAB8=230 AABE-AABF=230 AAC1=230 AAF6=9 ABED=9 FB1E=26 FE20-FE26=230 FE27-FE2D=220
FE2E-FE2F=230 101FD=220 102E0=220 10376-1037A=230 10A0D=220 10A0F=230 10A38=230 10A39=1 10A3A=220
10A3F=9 10AE5=230 10AE6=220 10D24-10D27=230 10D69-10D6D=230 10EAB-10EAC=230 10EFA-10EFB=220
10EFD-10EFF=220 10F46-10F47=220 10F48-10F4A=230 10F4B=220 10F4C=230 10F4D-10F50=220 10F82=230
10F83=220 10F84=230 10F85=220 11046=9 11070=9 1107F=9 110B9=9 110BA=7 11100-11102=230
11133-11134=9 11173=7 111C0=9 111CA=7 11235=9 11236=7 112E9=7 112EA=9 1133B-1133C=7 1134D=9
11366-1136C=230 11370-11374=230 113CE-113D0=9 11442=9 11446=7 1145E=230 114C2=9 114C3=7 115BF=9
115C0=7 1163F=9 116B6=9 116B7=7 1172B=9 11839=9 1183A=7 1193D-1193E=9 11943=7 119E0=9 11A34=9
11A47=9 11A99=9 11C3F=9 11D42=7 11D44-11D45=9 11D97=9 11F41-11F42=9 1612F=9 16AF0-16AF4=1
16B30-16B36=230 16FF0-16FF1=6 1BC9E=1 1D165-1D166=216 1D167-1D169=1 1D16D=226 1D16E-1D172=216
1D17B-1D182=220 1D185-1D189=230 1D18A-1D18B=220 1D1AA-1D1AD=230 1D242-1D244=230 1E000-1E006=230
1E008-1E018=230 1E01B-1E021=230 1E023-1E024=230 1E026-1E02A=230 1E08F=230 1E130-1E136=230
1E2AE=230 1E2EC-1E2EF=230 1E4EC-1E4ED=232 1E4EE=220 1E4EF=230 1E5EE=230 1E5EF=220 1E6E3=230
1E6E6=230 1E6EE-1E6EF=230 1E6F5=230 1E8D0-1E8D6=220 1E944-1E949=230 1E94A=7"

/-- The combining marks. -/
def combiningMarks : CharTable :=
  .ofText "
300-33F 342 346-34E 350-36F 483-489 591-5BD 5BF 5C1-5C2 5C4-5C5 5C7 610-61A 64B-65F 670 6D6-6DC
6DF-6E4 6E7-6E8 6EA-6ED 711 730-74A 7A6-7B0 7EB-7F3 7FD 816-819 81B-823 825-827 829-82D 859-85B
897-89F 8CA-8E1 8E3-903 93A-93C 93E-94F 951-957 962-963 981-983 9BC 9BE-9C4 9C7-9C8 9CB-9CD 9D7
9E2-9E3 9FE A01-A03 A3C A3E-A42 A47-A48 A4B-A4D A51 A70-A71 A75 A81-A83 ABC ABE-AC5 AC7-AC9
ACB-ACD AE2-AE3 AFA-AFF B01-B03 B3C B3E-B44 B47-B48 B4B-B4D B55-B57 B62-B63 B82 BBE-BC2 BC6-BC8
BCA-BCD BD7 C00-C04 C3C C3E-C44 C46-C48 C4A-C4D C55-C56 C62-C63 C81-C83 CBC CBE-CC4 CC6-CC8
CCA-CCD CD5-CD6 CE2-CE3 CF3 D00-D03 D3B-D3C D3E-D44 D46-D48 D4A-D4D D57 D62-D63 D81-D83 DCA
DCF-DD4 DD6 DD8-DDF DF2-DF3 E31 E34-E3A E47-E4E EB1 EB4-EBC EC8-ECE F18-F19 F35 F37 F39 F3E-F3F
F71-F72 F74 F7A-F80 F82-F84 F86-F87 F8D-F92 F94-F97 F99-F9C F9E-FA1 FA3-FA6 FA8-FAB FAD-FB8
FBA-FBC FC6 102B-103E 1056-1059 105E-1060 1062-1064 1067-106D 1071-1074 1082-108D 108F 109A-109D
135D-135F 1712-1715 1732-1734 1752-1753 1772-1773 17B6-17D3 17DD 1885-1886 18A9 1920-192B
1930-193B 1A17-1A1B 1A55-1A5E 1A60-1A7C 1A7F 1AB0-1ADD 1AE0-1AEB 1B00-1B04 1B34-1B44 1B6B-1B73
1B80-1B82 1BA1-1BAD 1BE6-1BF3 1C24-1C37 1CD0-1CD2 1CD4-1CE8 1CED 1CF4 1CF7-1CF9 1DC0-1DFF
20D0-20F0 2CEF-2CF1 2D7F 2DE0-2DFF 302A-302F 3099-309A A66F-A672 A674-A67D A69E-A69F A6F0-A6F1
A802 A806 A80B A823-A827 A82C A880-A881 A8B4-A8C5 A8E0-A8F1 A8FF A926-A92D A947-A953 A980-A983
A9B3-A9C0 A9E5 AA29-AA36 AA43 AA4C-AA4D AA7B-AA7D AAB0 AAB2-AAB4 AAB7-AAB8 AABE-AABF AAC1
AAEB-AAEF AAF5-AAF6 ABE3-ABEA ABEC-ABED FB1E FE20-FE2F 101FD 102E0 10376-1037A 10A01-10A03
10A05-10A06 10A0C-10A0F 10A38-10A3A 10A3F 10AE5-10AE6 10D24-10D27 10D69-10D6D 10EAB-10EAC
10EFA-10EFF 10F46-10F50 10F82-10F85 11000-11002 11038-11046 11070 11073-11074 1107F-11082
110B0-110BA 110C2 11100-11102 11127-11134 11145-11146 11173 11180-11182 111B3-111C0 111C9-111CC
111CE-111CF 1122C-11237 1123E 11241 112DF-112EA 11300-11303 1133B-1133C 1133E-11344 11347-11348
1134B-1134D 11357 11362-11363 11366-1136C 11370-11374 113B8-113C0 113C2 113C5 113C7-113CA
113CC-113D0 113D2 113E1-113E2 11435-11446 1145E 114B0-114C3 115AF-115B5 115B8-115C0 115DC-115DD
11630-11640 116AB-116B7 1171D-1172B 1182C-1183A 11930-11935 11937-11938 1193B-1193E 11940
11942-11943 119D1-119D7 119DA-119E0 119E4 11A01-11A0A 11A33-11A39 11A3B-11A3E 11A47 11A51-11A5B
11A8A-11A99 11B60-11B67 11C2F-11C36 11C38-11C3F 11C92-11CA7 11CA9-11CB6 11D31-11D36 11D3A
11D3C-11D3D 11D3F-11D45 11D47 11D8A-11D8E 11D90-11D91 11D93-11D97 11EF3-11EF6 11F00-11F01 11F03
11F34-11F3A 11F3E-11F42 11F5A 13440 13447-13455 1611E-1612F 16AF0-16AF4 16B30-16B36 16F4F
16F51-16F87 16F8F-16F92 16FE4 16FF0-16FF1 1BC9D-1BC9E 1CF00-1CF2D 1CF30-1CF46 1D165-1D169
1D16D-1D172 1D17B-1D182 1D185-1D18B 1D1AA-1D1AD 1D242-1D244 1DA00-1DA36 1DA3B-1DA6C 1DA75 1DA84
1DA9B-1DA9F 1DAA1-1DAAF 1E000-1E006 1E008-1E018 1E01B-1E021 1E023-1E024 1E026-1E02A 1E08F
1E130-1E136 1E2AE 1E2EC-1E2EF 1E4EC-1E4EF 1E5EE-1E5EF 1E6E3 1E6E6 1E6EE-1E6EF 1E6F5 1E8D0-1E8D6
1E944-1E94A"

/-- The joining types other than none: `L`, `R` and `D` for characters that join to the next one, to
the one before or to both, and `T` for characters that are passed over. -/
def joiningTypes : CharTable :=
  .ofText "
300-33F=T 342=T 346-34E=T 350-36F=T 483-489=T 591-5BD=T 5BF=T 5C1-5C2=T 5C4-5C5=T 5C7=T 610-61A=T
620=D 622-625=R 626=D 627=R 628=D 629=R 62A-62E=D 62F-632=R 633-63F=D 641-647=D 648=R 649-64A=D
64B-65F=T 66E-66F=D 670=T 671-673=R 679-687=D 688-699=R 69A-6BF=D 6C0=R 6C1-6C2=D 6C3-6CB=R 6CC=D
6CD=R 6CE=D 6CF=R 6D0-6D1=D 6D2-6D3=R 6D5=R 6D6-6DC=T 6DF-6E4=T 6E7-6E8=T 6EA-6ED=T 6EE-6EF=R
6FA-6FC=D 6FF=D 710=R 711=T 712-714=D 715-719=R 71A-71D=D 71E=R 71F-727=D 728=R 729=D 72A=R 72B=D
72C=R 72D-72E=D 72F=R 730-74A=T 74D=R 74E-758=D 759-75B=R 75C-76A=D 76B-76C=R 76D-770=D 771=R
772=D 773-774=R 775-777=D 778-779=R 77A-77F=D 7A6-7B0=T 7CA-7EA=D 7EB-7F3=T 7FD=T 816-819=T
81B-823=T 825-827=T 829-82D=T 840=R 841-845=D 846-847=R 848=D 849=R 84A-853=D 854=R 855=D
856-858=R 859-85B=T 860=D 862-865=D 867=R 868=D 869-86A=R 870-882=R 886=D 889-88D=D 88E=R 88F=D
897-89F=T 8A0-8A9=D 8AA-8AC=R 8AE=R 8AF-8B0=D 8B1-8B2=R 8B3-8B8=D 8B9=R 8BA-8C8=D 8CA-8E1=T
8E3-902=T 93A=T 93C=T 941-948=T 94D=T 951-957=T 962-963=T 981=T 9BC=T 9C1-9C4=T 9CD=T 9E2-9E3=T
9FE=T A01-A02=T A3C=T A41-A42=T A47-A48=T A4B-A4D=T A51=T A70-A71=T A75=T A81-A82=T ABC=T
AC1-AC5=T AC7-AC8=T ACD=T AE2-AE3=T AFA-AFF=T B01=T B3C=T B3F=T B41-B44=T B4D=T B55-B56=T
B62-B63=T B82=T BC0=T BCD=T C00=T C04=T C3C=T C3E-C40=T C46-C48=T C4A-C4D=T C55-C56=T C62-C63=T
C81=T CBC=T CBF=T CC6=T CCC-CCD=T CE2-CE3=T D00-D01=T D3B-D3C=T D41-D44=T D4D=T D62-D63=T D81=T
DCA=T DD2-DD4=T DD6=T E31=T E34-E3A=T E47-E4E=T EB1=T EB4-EBC=T EC8-ECE=T F18-F19=T F35=T F37=T
F39=T F71-F72=T F74=T F7A-F7E=T F80=T F82-F84=T F86-F87=T F8D-F92=T F94-F97=T F99-F9C=T F9E-FA1=T
FA3-FA6=T FA8-FAB=T FAD-FB8=T FBA-FBC=T FC6=T 102D-1030=T 1032-1037=T 1039-103A=T 103D-103E=T
1058-1059=T 105E-1060=T 1071-1074=T 1082=T 1085-1086=T 108D=T 109D=T 135D-135F=T 1712-1714=T
1732-1733=T 1752-1753=T 1772-1773=T 17B7-17BD=T 17C6=T 17C9-17D3=T 17DD=T 1807=D 1820-1878=D
1885-1886=T 1887-18A8=D 18A9=T 18AA=D 1920-1922=T 1927-1928=T 1932=T 1939-193B=T 1A17-1A18=T
1A1B=T 1A56=T 1A58-1A5E=T 1A60=T 1A62=T 1A65-1A6C=T 1A73-1A7C=T 1A7F=T 1AB0-1ADD=T 1AE0-1AEB=T
1B00-1B03=T 1B34=T 1B36-1B3A=T 1B3C=T 1B42=T 1B6B-1B73=T 1B80-1B81=T 1BA2-1BA5=T 1BA8-1BA9=T
1BAB-1BAD=T 1BE6=T 1BE8-1BE9=T 1BED=T 1BEF-1BF1=T 1C2C-1C33=T 1C36-1C37=T 1CD0-1CD2=T 1CD4-1CE0=T
1CE2-1CE8=T 1CED=T 1CF4=T 1CF8-1CF9=T 1DC0-1DFF=T 20D0-20F0=T 2CEF-2CF1=T 2D7F=T 2DE0-2DFF=T
302A-302D=T 3099-309A=T A66F-A672=T A674-A67D=T A69E-A69F=T A6F0-A6F1=T A802=T A806=T A80B=T
A825-A826=T A82C=T A840-A871=D A872=L A8C4-A8C5=T A8E0-A8F1=T A8FF=T A926-A92D=T A947-A951=T
A980-A982=T A9B3=T A9B6-A9B9=T A9BC-A9BD=T A9E5=T AA29-AA2E=T AA31-AA32=T AA35-AA36=T AA43=T
AA4C=T AA7C=T AAB0=T AAB2-AAB4=T AAB7-AAB8=T AABE-AABF=T AAC1=T AAEC-AAED=T AAF6=T ABE5=T ABE8=T
ABED=T FB1E=T FE20-FE2F=T 101FD=T 102E0=T 10376-1037A=T 10A01-10A03=T 10A05-10A06=T 10A0C-10A0F=T
10A38-10A3A=T 10A3F=T 10AC0-10AC4=D 10AC5=R 10AC7=R 10AC9-10ACA=R 10ACD=L 10ACE-10AD2=R
10AD3-10AD6=D 10AD7=L 10AD8-10ADC=D 10ADD=R 10ADE-10AE0=D 10AE1=R 10AE4=R 10AE5-10AE6=T
10AEB-10AEE=D 10AEF=R 10B80=D 10B81=R 10B82=D 10B83-10B85=R 10B86-10B88=D 10B89=R 10B8A-10B8B=D
10B8C=R 10B8D=D 10B8E-10B8F=R 10B90=D 10B91=R 10BA9-10BAC=R 10BAD-10BAE=D 10D00=L 10D01-10D21=D
10D22=R 10D23=D 10D24-10D27=T 10D69-10D6D=T 10EAB-10EAC=T 10EC2=R 10EC3-10EC4=D 10EC6-10EC7=D
10EFA-10EFF=T 10F30-10F32=D 10F33=R 10F34-10F44=D 10F46-10F50=T 10F51-10F53=D 10F54=R
10F70-10F73=D 10F74-10F75=R 10F76-10F81=D 10F82-10F85=T 10FB0=D 10FB2-10FB3=D 10FB4-10FB6=R
10FB8=D 10FB9-10FBA=R 10FBB-10FBC=D 10FBD=R 10FBE-10FBF=D 10FC1=D 10FC2-10FC3=R 10FC4=D 10FC9=R
10FCA=D 10FCB=L 11001=T 11038-11046=T 11070=T 11073-11074=T 1107F-11081=T 110B3-110B6=T
110B9-110BA=T 110C2=T 11100-11102=T 11127-1112B=T 1112D-11134=T 11173=T 11180-11181=T
111B6-111BE=T 111C9-111CC=T 111CF=T 1122F-11231=T 11234=T 11236-11237=T 1123E=T 11241=T 112DF=T
112E3-112EA=T 11300-11301=T 1133B-1133C=T 11340=T 11366-1136C=T 11370-11374=T 113BB-113C0=T
113CE=T 113D0=T 113D2=T 113E1-113E2=T 11438-1143F=T 11442-11444=T 11446=T 1145E=T 114B3-114B8=T
114BA=T 114BF-114C0=T 114C2-114C3=T 115B2-115B5=T 115BC-115BD=T 115BF-115C0=T 115DC-115DD=T
11633-1163A=T 1163D=T 1163F-11640=T 116AB=T 116AD=T 116B0-116B5=T 116B7=T 1171D=T 1171F=T
11722-11725=T 11727-1172B=T 1182F-11837=T 11839-1183A=T 1193B-1193C=T 1193E=T 11943=T
119D4-119D7=T 119DA-119DB=T 119E0=T 11A01-11A0A=T 11A33-11A38=T 11A3B-11A3E=T 11A47=T
11A51-11A56=T 11A59-11A5B=T 11A8A-11A96=T 11A98-11A99=T 11B60=T 11B62-11B64=T 11B66=T
11C30-11C36=T 11C38-11C3D=T 11C3F=T 11C92-11CA7=T 11CAA-11CB0=T 11CB2-11CB3=T 11CB5-11CB6=T
11D31-11D36=T 11D3A=T 11D3C-11D3D=T 11D3F-11D45=T 11D47=T 11D90-11D91=T 11D95=T 11D97=T
11EF3-11EF4=T 11F00-11F01=T 11F36-11F3A=T 11F40=T 11F42=T 11F5A=T 13440=T 13447-13455=T
1611E-16129=T 1612D-1612F=T 16AF0-16AF4=T 16B30-16B36=T 16F4F=T 16F8F-16F92=T 16FE4=T
1BC9D-1BC9E=T 1CF00-1CF2D=T 1CF30-1CF46=T 1D167-1D169=T 1D17B-1D182=T 1D185-1D18B=T 1D1AA-1D1AD=T
1D242-1D244=T 1DA00-1DA36=T 1DA3B-1DA6C=T 1DA75=T 1DA84=T 1DA9B-1DA9F=T 1DAA1-1DAAF=T
1E000-1E006=T 1E008-1E018=T 1E01B-1E021=T 1E023-1E024=T 1E026-1E02A=T 1E08F=T 1E130-1E136=T
1E2AE=T 1E2EC-1E2EF=T 1E4EC-1E4EF=T 1E5EE-1E5EF=T 1E6E3=T 1E6E6=T 1E6EE-1E6EF=T 1E6F5=T
1E8D0-1E8D6=T 1E922-1E943=D 1E944-1E94B=T"

/-- The directions other than left to right: `R` for characters from right to left, `E` and `A` for
European and Arabic numbers, `M` for marks without a direction, and `N` for other characters without
one. -/
def directions : CharTable :=
  .ofText "
21-22=N 24=N 26-2E=N 30-39=E 3B=N 3D=N 5F-60=N 7B=N 7D-7E=N A1-A7=N A9=N AB-AC=N AE=N B0-B1=N
B6-B7=N BB=N BF=N D7=N F7=N 2B9-2BA=N 2C2-2CF=N 2D2-2D7=N 2DE-2DF=N 2E5-2ED=N 2EF-2FF=N 300-33F=M
342=M 346-34E=M 350-36F=M 375=N 3F6=N 483-489=M 58A=N 58D-58F=N 591-5BD=M 5BE=R 5BF=M 5C0=R
5C1-5C2=M 5C3=R 5C4-5C5=M 5C6=R 5C7=M 5D0-5EA=R 5EF-5F4=R 606-607=N 608=R 609-60A=N 60B=R 60C=N
60D=R 60E-60F=N 610-61A=M 61B=R 61D-64A=R 64B-65F=M 660-669=A 66A=N 66B-66C=A 66D-66F=R 670=M
671-674=R 679-6D5=R 6D6-6DC=M 6DE=N 6DF-6E4=M 6E5-6E6=R 6E7-6E8=M 6E9=N 6EA-6ED=M 6EE-6EF=R
6F0-6F9=E 6FA-70D=R 710=R 711=M 712-72F=R 730-74A=M 74D-7A5=R 7A6-7B0=M 7B1=R 7C0-7EA=R 7EB-7F3=M
7F4-7F5=R 7F6-7F9=N 7FA=R 7FD=M 7FE-815=R 816-819=M 81A=R 81B-823=M 824=R 825-827=M 828=R
829-82D=M 830-83E=R 840-858=R 859-85B=M 85E=R 860-86A=R 870-88F=R 897-89F=M 8A0-8C9=R 8CA-8E1=M
8E3-902=M 93A=M 93C=M 941-948=M 94D=M 951-957=M 962-963=M 981=M 9BC=M 9C1-9C4=M 9CD=M 9E2-9E3=M
9F2-9F3=N 9FB=N 9FE=M A01-A02=M A3C=M A41-A42=M A47-A48=M A4B-A4D=M A51=M A70-A71=M A75=M
A81-A82=M ABC=M AC1-AC5=M AC7-AC8=M ACD=M AE2-AE3=M AF1=N AFA-AFF=M B01=M B3C=M B3F=M B41-B44=M
B4D=M B55-B56=M B62-B63=M B82=M BC0=M BCD=M BF3-BFA=N C00=M C04=M C3C=M C3E-C40=M C46-C48=M
C4A-C4D=M C55-C56=M C62-C63=M C78-C7E=N C81=M CBC=M CCC-CCD=M CE2-CE3=M D00-D01=M D3B-D3C=M
D41-D44=M D4D=M D62-D63=M D81=M DCA=M DD2-DD4=M DD6=M E31=M E34-E3A=M E3F=N E47-E4E=M EB1=M
EB4-EBC=M EC8-ECE=M F18-F19=M F35=M F37=M F39=M F3A-F3D=N F71-F72=M F74=M F7A-F7E=M F80=M
F82-F84=M F86-F87=M F8D-F92=M F94-F97=M F99-F9C=M F9E-FA1=M FA3-FA6=M FA8-FAB=M FAD-FB8=M
FBA-FBC=M FC6=M 102D-1030=M 1032-1037=M 1039-103A=M 103D-103E=M 1058-1059=M 105E-1060=M
1071-1074=M 1082=M 1085-1086=M 108D=M 109D=M 135D-135F=M 1390-1399=N 1400=N 169B-169C=N
1712-1714=M 1732-1733=M 1752-1753=M 1772-1773=M 17B7-17BD=M 17C6=M 17C9-17D3=M 17DB=N 17DD=M
17F0-17F9=N 1800-180A=N 1885-1886=M 18A9=M 1920-1922=M 1927-1928=M 1932=M 1939-193B=M 1940=N
1944-1945=N 19DE-19FF=N 1A17-1A18=M 1A1B=M 1A56=M 1A58-1A5E=M 1A60=M 1A62=M 1A65-1A6C=M
1A73-1A7C=M 1A7F=M 1AB0-1ADD=M 1AE0-1AEB=M 1B00-1B03=M 1B34=M 1B36-1B3A=M 1B3C=M 1B42=M
1B6B-1B73=M 1B80-1B81=M 1BA2-1BA5=M 1BA8-1BA9=M 1BAB-1BAD=M 1BE6=M 1BE8-1BE9=M 1BED=M 1BEF-1BF1=M
1C2C-1C33=M 1C36-1C37=M 1CD0-1CD2=M 1CD4-1CE0=M 1CE2-1CE8=M 1CED=M 1CF4=M 1CF8-1CF9=M 1DC0-1DFF=M
200C-200D=N 2010=N 2012-2016=N 2018-2023=N 2027=N 2030-2032=N 2035=N 2038-203B=N 203D=N
203F-2046=N 204A-2056=N 2058-205E=N 20A0-20A7=N 20A9-20C1=N 20D0-20F0=M 2104=N 2108=N 2114=N
2117-2118=N 211E-211F=N 2123=N 2125=N 2127=N 2129=N 212E=N 213A=N 2141-2144=N 214A-214D=N
218A-218B=N 2190-222B=N 222E=N 2231-2328=N 232B-2335=N 237B-2394=N 2396-2429=N 2440-244A=N
24EB-26AB=N 26AD-27FF=N 2900-2A0B=N 2A0D-2A73=N 2A77-2ADB=N 2ADD-2B73=N 2B76-2BFF=N 2CE5-2CEA=N
2CEF-2CF1=M 2CF9-2CFF=N 2D7F=M 2DE0-2DFF=M 2E00-2E5D=N 2E80-2E99=N 2E9B-2E9E=N 2EA0-2EF2=N 3001=N
3003-3004=N 3008-3020=N 302A-302D=M 3030=N 3037=N 303D-303F=N 3099-309A=M 30A0=N 30FB=N
31C0-31E5=N 4DC0-4DFF=N A490-A4C6=N A60D-A60F=N A66F-A672=M A673=N A674-A67D=M A67E-A67F=N
A69E-A69F=M A6F0-A6F1=M A700-A721=N A788=N A802=M A806=M A80B=M A825-A826=M A828-A82B=N A82C=M
A838-A839=N A874-A877=N A8C4-A8C5=M A8E0-A8F1=M A8FF=M A926-A92D=M A947-A951=M A980-A982=M A9B3=M
A9B6-A9B9=M A9BC-A9BD=M A9E5=M AA29-AA2E=M AA31-AA32=M AA35-AA36=M AA43=M AA4C=M AA7C=M AAB0=M
AAB2-AAB4=M AAB7-AAB8=M AABE-AABF=M AAC1=M AAEC-AAED=M AAF6=M AB6A-AB6B=N ABE5=M ABE8=M ABED=M
FB1E=M FBB2-FBC2=R FBC3-FBD2=N FD3E-FD4F=N FD90-FD91=N FDC8-FDCF=N FDFD-FDFF=N FE20-FE2F=M
FE45-FE46=N FE73=R 10101=N 10140-1018C=N 10190-1019C=N 101A0=N 101FD=M 102E0=M 102E1-102FB=E
10376-1037A=M 10800-10805=R 10808=R 1080A-10835=R 10837-10838=R 1083C=R 1083F-10855=R
10857-1089E=R 108A7-108AF=R 108E0-108F2=R 108F4-108F5=R 108FB-1091B=R 1091F=N 10920-10939=R
1093F-10959=R 10980-109B7=R 109BC-109CF=R 109D2-10A00=R 10A01-10A03=M 10A05-10A06=M 10A0C-10A0F=M
10A10-10A13=R 10A15-10A17=R 10A19-10A35=R 10A38-10A3A=M 10A3F=M 10A40-10A48=R 10A50-10A58=R
10A60-10A9F=R 10AC0-10AE4=R 10AE5-10AE6=M 10AEB-10AF6=R 10B00-10B35=R 10B39-10B3F=N 10B40-10B55=R
10B58-10B72=R 10B78-10B91=R 10B99-10B9C=R 10BA9-10BAF=R 10C00-10C48=R 10CC0-10CF2=R 10CFA-10D23=R
10D24-10D27=M 10D30-10D39=A 10D40-10D4F=R 10D69-10D6D=M 10D6E=N 10D6F-10D85=R 10D8E-10D8F=R
10E60-10E7E=A 10E80-10EA9=R 10EAB-10EAC=M 10EAD=R 10EB0-10EB1=R 10EC2-10EC7=R 10ED0-10ED8=N
10EFA-10EFF=M 10F00-10F27=R 10F30-10F45=R 10F46-10F50=M 10F51-10F59=R 10F70-10F81=R 10F82-10F85=M
10F86-10F89=R 10FB0-10FCB=R 10FE0-10FF6=R 11001=M 11038-11046=M 11052-11065=N 11070=M
11073-11074=M 1107F-11081=M 110B3-110B6=M 110B9-110BA=M 110C2=M 11100-11102=M 11127-1112B=M
1112D-11134=M 11173=M 11180-11181=M 111B6-111BE=M 111C9-111CC=M 111CF=M 1122F-11231=M 11234=M
11236-11237=M 1123E=M 11241=M 112DF=M 112E3-112EA=M 11300-11301=M 1133B-1133C=M 11340=M
11366-1136C=M 11370-11374=M 113BB-113C0=M 113CE=M 113D0=M 113D2=M 113E1-113E2=M 11438-1143F=M
11442-11444=M 11446=M 1145E=M 114B3-114B8=M 114BA=M 114BF-114C0=M 114C2-114C3=M 115B2-115B5=M
115BC-115BD=M 115BF-115C0=M 115DC-115DD=M 11633-1163A=M 1163D=M 1163F-11640=M 11660-1166C=N
116AB=M 116AD=M 116B0-116B5=M 116B7=M 1171D-1171F=M 11722-11725=M 11727-1172B=M 1182F-11837=M
11839-1183A=M 1193B-1193C=M 1193E=M 11943=M 119D4-119D7=M 119DA-119DB=M 119E0=M 11A01-11A06=M
11A09-11A0A=M 11A33-11A38=M 11A3B-11A3E=M 11A47=M 11A51-11A56=M 11A59-11A5B=M 11A8A-11A96=M
11A98-11A99=M 11B60=M 11B62-11B64=M 11B66=M 11C30-11C36=M 11C38-11C3D=M 11C92-11CA7=M
11CAA-11CB0=M 11CB2-11CB3=M 11CB5-11CB6=M 11D31-11D36=M 11D3A=M 11D3C-11D3D=M 11D3F-11D45=M
11D47=M 11D90-11D91=M 11D95=M 11D97=M 11EF3-11EF4=M 11F00-11F01=M 11F36-11F3A=M 11F40=M 11F42=M
11F5A=M 11FD5-11FF1=N 13440=M 13447-13455=M 1611E-16129=M 1612D-1612F=M 16AF0-16AF4=M
16B30-16B36=M 16F4F=M 16F8F-16F92=M 16FE2=N 16FE4=M 1BC9D-1BC9E=M 1CC00-1CCD5=N 1CCFA-1CCFC=N
1CD00-1CEB3=N 1CEBA-1CED0=N 1CEE0-1CEF0=N 1CF00-1CF2D=M 1CF30-1CF46=M 1D167-1D169=M 1D17B-1D182=M
1D185-1D18B=M 1D1AA-1D1AD=M 1D1E9-1D1EA=N 1D200-1D241=N 1D242-1D244=M 1D245=N 1D300-1D356=N
1DA00-1DA36=M 1DA3B-1DA6C=M 1DA75=M 1DA84=M 1DA9B-1DA9F=M 1DAA1-1DAAF=M 1E000-1E006=M
1E008-1E018=M 1E01B-1E021=M 1E023-1E024=M 1E026-1E02A=M 1E08F=M 1E130-1E136=M 1E2AE=M
1E2EC-1E2EF=M 1E2FF=N 1E4EC-1E4EF=M 1E5EE-1E5EF=M 1E6E3=M 1E6E6=M 1E6EE-1E6EF=M 1E6F5=M
1E800-1E8C4=R 1E8C7-1E8CF=R 1E8D0-1E8D6=M 1E922-1E943=R 1E944-1E94A=M 1E94B=R 1E950-1E959=R
1E95E-1E95F=R 1EC71-1ECB4=R 1ED01-1ED3D=R 1EEF0-1EEF1=N 1F000-1F02B=N 1F030-1F093=N 1F0A0-1F0AE=N
1F0B1-1F0BF=N 1F0C1-1F0CF=N 1F0D1-1F0F5=N 1F10B-1F10F=N 1F12F=N 1F16D-1F16F=N 1F1AD=N
1F260-1F265=N 1F300-1F6D8=N 1F6DC-1F6EC=N 1F6F0-1F6FC=N 1F700-1F7D9=N 1F7E0-1F7EB=N 1F7F0=N
1F800-1F80B=N 1F810-1F847=N 1F850-1F859=N 1F860-1F887=N 1F890-1F8AD=N 1F8B0-1F8BB=N 1F8C0-1F8C1=N
1F8D0-1F8D8=N 1F900-1FA57=N 1FA60-1FA6D=N 1FA70-1FA7C=N 1FA80-1FA8A=N 1FA8E-1FAC6=N 1FAC8=N
1FACD-1FADC=N 1FADF-1FAEA=N 1FAEF-1FAF8=N 1FB00-1FB92=N 1FB94-1FBEF=N 1FBFA=N"

end Pipescript
