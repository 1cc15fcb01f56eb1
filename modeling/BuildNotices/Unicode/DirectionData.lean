/-!
The directions of characters that do not run from left to right.
-/

namespace BuildNotices
namespace Unicode

/-- The numbers of the directions, which are those of their order in the type of directions. -/
def directionText : String :=
"0-8=9 E-1B=9 21-22=8 23-25=7 26-2A=8 2B=5 2C=6 2D=5 2E-2F=6 30-39=4 3A=6 3B-40=8 5B-60=8 7B-7E=8
7F=9 A1=8 A2-A5=7 A6-A7=8 A9=8 AB-AC=8 AE=8 B0-B1=7 B6-B7=8 BB=8 BF=8 D7=8 F7=8 2B9-2BA=8
2C2-2CF=8 2D2-2D7=8 2DE-2DF=8 2E5-2ED=8 2EF-2FF=8 300-33F=A 342=A 346-34E=A 350-36F=A 375=8
3F6=8 483-489=A 58A=8 58D-58E=8 58F=7 591-5BD=A 5BE=1 5BF=A 5C0=1 5C1-5C2=A 5C3=1 5C4-5C5=A
5C6=1 5C7=A 5D0-5EA=1 5EF-5F4=1 606-607=8 608=2 609-60A=7 60B=2 60C=6 60D=2 60E-60F=8 610-61A=A
61B=2 61D-64A=2 64B-65F=A 660-669=3 66A=7 66B-66C=3 66D-66F=2 670=A 671-674=2 679-6D5=2
6D6-6DC=A 6DE=8 6DF-6E4=A 6E5-6E6=2 6E7-6E8=A 6E9=8 6EA-6ED=A 6EE-6EF=2 6F0-6F9=4 6FA-70D=2
710=2 711=A 712-72F=2 730-74A=A 74D-7A5=2 7A6-7B0=A 7B1=2 7C0-7EA=1 7EB-7F3=A 7F4-7F5=1
7F6-7F9=8 7FA=1 7FD=A 7FE-815=1 816-819=A 81A=1 81B-823=A 824=1 825-827=A 828=1 829-82D=A
830-83E=1 840-858=1 859-85B=A 85E=1 860-86A=2 870-88E=2 88F=2 897=A 898-89F=A 8A0-8C9=2
8CA-8E1=A 8E3-902=A 93A=A 93C=A 941-948=A 94D=A 951-957=A 962-963=A 981=A 9BC=A 9C1-9C4=A 9CD=A
9E2-9E3=A 9F2-9F3=7 9FB=7 9FE=A A01-A02=A A3C=A A41-A42=A A47-A48=A A4B-A4D=A A51=A A70-A71=A
A75=A A81-A82=A ABC=A AC1-AC5=A AC7-AC8=A ACD=A AE2-AE3=A AF1=7 AFA-AFF=A B01=A B3C=A B3F=A
B41-B44=A B4D=A B55-B56=A B62-B63=A B82=A BC0=A BCD=A BF3-BF8=8 BF9=7 BFA=8 C00=A C04=A C3C=A
C3E-C40=A C46-C48=A C4A-C4D=A C55-C56=A C62-C63=A C78-C7E=8 C81=A CBC=A CCC-CCD=A CE2-CE3=A
D00-D01=A D3B-D3C=A D41-D44=A D4D=A D62-D63=A D81=A DCA=A DD2-DD4=A DD6=A E31=A E34-E3A=A E3F=7
E47-E4E=A EB1=A EB4-EBC=A EC8-ECD=A ECE=A F18-F19=A F35=A F37=A F39=A F3A-F3D=8 F71-F72=A F74=A
F7A-F7E=A F80=A F82-F84=A F86-F87=A F8D-F92=A F94-F97=A F99-F9C=A F9E-FA1=A FA3-FA6=A FA8-FAB=A
FAD-FB8=A FBA-FBC=A FC6=A 102D-1030=A 1032-1037=A 1039-103A=A 103D-103E=A 1058-1059=A
105E-1060=A 1071-1074=A 1082=A 1085-1086=A 108D=A 109D=A 135D-135F=A 1390-1399=8 1400=8
169B-169C=8 1712-1714=A 1732-1733=A 1752-1753=A 1772-1773=A 17B7-17BD=A 17C6=A 17C9-17D3=A
17DB=7 17DD=A 17F0-17F9=8 1800-180A=8 1885-1886=A 18A9=A 1920-1922=A 1927-1928=A 1932=A
1939-193B=A 1940=8 1944-1945=8 19DE-19FF=8 1A17-1A18=A 1A1B=A 1A56=A 1A58-1A5E=A 1A60=A 1A62=A
1A65-1A6C=A 1A73-1A7C=A 1A7F=A 1AB0-1ACE=A 1B00-1B03=A 1B34=A 1B36-1B3A=A 1B3C=A 1B42=A
1B6B-1B73=A 1B80-1B81=A 1BA2-1BA5=A 1BA8-1BA9=A 1BAB-1BAD=A 1BE6=A 1BE8-1BE9=A 1BED=A
1BEF-1BF1=A 1C2C-1C33=A 1C36-1C37=A 1CD0-1CD2=A 1CD4-1CE0=A 1CE2-1CE8=A 1CED=A 1CF4=A
1CF8-1CF9=A 1DC0-1DFF=A 200C-200D=9 2010=8 2012-2016=8 2018-2023=8 2027=8 2030-2032=7 2035=8
2038-203B=8 203D=8 203F-2043=8 2044=6 2045-2046=8 204A-2056=8 2058-205E=8 20A0-20A7=7
20A9-20C0=7 20D0-20F0=A 2104=8 2108=8 2114=8 2117-2118=8 211E-211F=8 2123=8 2125=8 2127=8 2129=8
212E=7 213A=8 2141-2144=8 214A-214D=8 218A-218B=8 2190-2211=8 2212=5 2213=7 2214-222B=8 222E=8
2231-2328=8 232B-2335=8 237B-2394=8 2396-2426=8 2440-244A=8 24EB-26AB=8 26AD-27FF=8 2900-2A0B=8
2A0D-2A73=8 2A77-2ADB=8 2ADD-2B73=8 2B76-2B95=8 2B97-2BFF=8 2CE5-2CEA=8 2CEF-2CF1=A 2CF9-2CFF=8
2D7F=A 2DE0-2DFF=A 2E00-2E5D=8 2E80-2E99=8 2E9B-2E9E=8 2EA0-2EF2=8 3001=8 3003-3004=8
3008-3020=8 302A-302D=A 3030=8 3037=8 303D-303F=8 3099-309A=A 30A0=8 30FB=8 31C0-31E3=8
4DC0-4DFF=8 A490-A4C6=8 A60D-A60F=8 A66F-A672=A A673=8 A674-A67D=A A67E-A67F=8 A69E-A69F=A
A6F0-A6F1=A A700-A721=8 A788=8 A802=A A806=A A80B=A A825-A826=A A828-A82B=8 A82C=A A838-A839=7
A874-A877=8 A8C4-A8C5=A A8E0-A8F1=A A8FF=A A926-A92D=A A947-A951=A A980-A982=A A9B3=A
A9B6-A9B9=A A9BC-A9BD=A A9E5=A AA29-AA2E=A AA31-AA32=A AA35-AA36=A AA43=A AA4C=A AA7C=A AAB0=A
AAB2-AAB4=A AAB7-AAB8=A AABE-AABF=A AAC1=A AAEC-AAED=A AAF6=A AB6A-AB6B=8 ABE5=A ABE8=A ABED=A
FB1E=A FBB2-FBC2=2 FD3E-FD4F=8 FDCF=8 FDFD-FDFF=8 FE20-FE2F=A FE45-FE46=8 FE73=2 10101=8
10140-1018C=8 10190-1019C=8 101A0=8 101FD=A 102E0=A 102E1-102FB=4 10376-1037A=A 10800-10805=1
10808=1 1080A-10835=1 10837-10838=1 1083C=1 1083F-10855=1 10857-1089E=1 108A7-108AF=1
108E0-108F2=1 108F4-108F5=1 108FB-1091B=1 1091F=8 10920-10939=1 1093F=1 10980-109B7=1
109BC-109CF=1 109D2-10A00=1 10A01-10A03=A 10A05-10A06=A 10A0C-10A0F=A 10A10-10A13=1
10A15-10A17=1 10A19-10A35=1 10A38-10A3A=A 10A3F=A 10A40-10A48=1 10A50-10A58=1 10A60-10A9F=1
10AC0-10AE4=1 10AE5-10AE6=A 10AEB-10AF6=1 10B00-10B35=1 10B39-10B3F=8 10B40-10B55=1
10B58-10B72=1 10B78-10B91=1 10B99-10B9C=1 10BA9-10BAF=1 10C00-10C48=1 10CC0-10CF2=1
10CFA-10CFF=1 10D00-10D23=2 10D24-10D27=A 10D30-10D39=3 10D40-10D68=1 10D69-10D6D=A
10D6F-10D85=1 10D8E-10D8F=1 10E60-10E7E=3 10E80-10EA9=1 10EAB-10EAC=A 10EAD=1 10EB0-10EB1=1
10EC2-10EC4=2 10EFC-10EFF=A 10F00-10F27=1 10F30-10F45=2 10F46-10F50=A 10F51-10F59=2
10F70-10F81=1 10F82-10F85=A 10F86-10F89=1 10FB0-10FCB=1 10FE0-10FF6=1 11001=A 11038-11046=A
11052-11065=8 11070=A 11073-11074=A 1107F-11081=A 110B3-110B6=A 110B9-110BA=A 110C2=A
11100-11102=A 11127-1112B=A 1112D-11134=A 11173=A 11180-11181=A 111B6-111BE=A 111C9-111CC=A
111CF=A 1122F-11231=A 11234=A 11236-11237=A 1123E=A 11241=A 112DF=A 112E3-112EA=A 11300-11301=A
1133B-1133C=A 11340=A 11366-1136C=A 11370-11374=A 11438-1143F=A 11442-11444=A 11446=A 1145E=A
114B3-114B8=A 114BA=A 114BF-114C0=A 114C2-114C3=A 115B2-115B5=A 115BC-115BD=A 115BF-115C0=A
115DC-115DD=A 11633-1163A=A 1163D=A 1163F-11640=A 11660-1166C=8 116AB=A 116AD=A 116B0-116B5=A
116B7=A 1171D-1171F=A 11722-11725=A 11727-1172B=A 1182F-11837=A 11839-1183A=A 1193B-1193C=A
1193E=A 11943=A 119D4-119D7=A 119DA-119DB=A 119E0=A 11A01-11A06=A 11A09-11A0A=A 11A33-11A38=A
11A3B-11A3E=A 11A47=A 11A51-11A56=A 11A59-11A5B=A 11A8A-11A96=A 11A98-11A99=A 11C30-11C36=A
11C38-11C3D=A 11C92-11CA7=A 11CAA-11CB0=A 11CB2-11CB3=A 11CB5-11CB6=A 11D31-11D36=A 11D3A=A
11D3C-11D3D=A 11D3F-11D45=A 11D47=A 11D90-11D91=A 11D95=A 11D97=A 11EF3-11EF4=A 11FD5-11FDC=8
11FDD-11FE0=7 11FE1-11FF1=8 13440=A 13447-13455=A 16AF0-16AF4=A 16B30-16B36=A 16F4F=A
16F8F-16F92=A 16FE2=8 16FE4=A 1BC9D-1BC9E=A 1CF00-1CF2D=A 1CF30-1CF46=A 1D167-1D169=A
1D17B-1D182=A 1D185-1D18B=A 1D1AA-1D1AD=A 1D1E9-1D1EA=8 1D200-1D241=8 1D242-1D244=A 1D245=8
1D300-1D356=8 1DA00-1DA36=A 1DA3B-1DA6C=A 1DA75=A 1DA84=A 1DA9B-1DA9F=A 1DAA1-1DAAF=A
1E000-1E006=A 1E008-1E018=A 1E01B-1E021=A 1E023-1E024=A 1E026-1E02A=A 1E130-1E136=A 1E2AE=A
1E2EC-1E2EF=A 1E2FF=7 1E800-1E8C4=1 1E8C7-1E8CF=1 1E8D0-1E8D6=A 1E922-1E943=1 1E944-1E94A=A
1E94B=1 1E950-1E959=1 1E95E-1E95F=1 1EC71-1ECB4=2 1ED01-1ED3D=2 1EEF0-1EEF1=8 1F000-1F02B=8
1F030-1F093=8 1F0A0-1F0AE=8 1F0B1-1F0BF=8 1F0C1-1F0CF=8 1F0D1-1F0F5=8 1F10B-1F10F=8 1F12F=8
1F16D-1F16F=8 1F1AD=8 1F260-1F265=8 1F300-1F6D7=8 1F6DD-1F6EC=8 1F6F0-1F6FC=8 1F700-1F773=8
1F780-1F7D8=8 1F7E0-1F7EB=8 1F7F0=8 1F800-1F80B=8 1F810-1F847=8 1F850-1F859=8 1F860-1F887=8
1F890-1F8AD=8 1F8B0-1F8B1=8 1F900-1FA53=8 1FA60-1FA6D=8 1FA70-1FA74=8 1FA78-1FA7C=8
1FA80-1FA86=8 1FA90-1FAAC=8 1FAB0-1FABA=8 1FAC0-1FAC5=8 1FAD0-1FAD9=8 1FAE0-1FAE7=8
1FAF0-1FAF6=8 1FB00-1FB92=8 1FB94-1FBCA=8"

end Unicode
end BuildNotices
