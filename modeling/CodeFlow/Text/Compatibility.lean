import CodeFlow.Text.Table

/-!
# `CodeFlow.Text.Compatibility` — names up to compatibility

Two spellings of a name that differ only in compatibility forms (ligatures, full-width letters,
letters with separate accents) are the same name. `compose (decompose t)` is the common form: every
character is decomposed, marks are put in canonical order, and what can be composed is composed again
(normal form KC, for the characters that names may hold).

## Contents
- `decomposeChar`, `combiningClass`, `sortMarks`, `decompose`.
- `composePair?`, `compose`.
- `foldName`.
-/

namespace CodeFlow.Text

/-! ## Decomposition -/

/-- Runs of characters that stand for a single other one: first, last, and what the first stands for. -/
def singleForms : List Nat := Table.numbers "
AA AA 61 B5 B5 3BC BA BA 6F 17F 17F 73 2B0 2B0 68 2B1 2B1 266 2B2 2B2 6A 2B3 2B3 72 2B4 2B4 279
2B5 2B5 27B 2B6 2B6 281 2B7 2B7 77 2B8 2B8 79 2E0 2E0 263 2E1 2E1 6C 2E2 2E2 73 2E3 2E3 78
2E4 2E4 295 340 341 300 343 343 313 374 374 2B9 387 387 B7 3D0 3D0 3B2 3D1 3D1 3B8 3D2 3D2 3A5
3D5 3D5 3C6 3D6 3D6 3C0 3F0 3F0 3BA 3F1 3F2 3C1 3F4 3F4 398 3F5 3F5 3B5 3F9 3F9 3A3
10FC 10FC 10DC 1D2C 1D2C 41 1D2D 1D2D C6 1D2E 1D2E 42 1D30 1D31 44 1D32 1D32 18E 1D33 1D3A 47
1D3C 1D3C 4F 1D3D 1D3D 222 1D3E 1D3E 50 1D3F 1D3F 52 1D40 1D41 54 1D42 1D42 57 1D43 1D43 61
1D44 1D45 250 1D46 1D46 1D02 1D47 1D47 62 1D48 1D49 64 1D4A 1D4A 259 1D4B 1D4C 25B 1D4D 1D4D 67
1D4F 1D4F 6B 1D50 1D50 6D 1D51 1D51 14B 1D52 1D52 6F 1D53 1D53 254 1D54 1D55 1D16 1D56 1D56 70
1D57 1D58 74 1D59 1D59 1D1D 1D5A 1D5A 26F 1D5B 1D5B 76 1D5C 1D5C 1D25 1D5D 1D5F 3B2
1D60 1D61 3C6 1D62 1D62 69 1D63 1D63 72 1D64 1D65 75 1D66 1D67 3B2 1D68 1D68 3C1 1D69 1D6A 3C6
1D78 1D78 43D 1D9B 1D9B 252 1D9C 1D9C 63 1D9D 1D9D 255 1D9E 1D9E F0 1D9F 1D9F 25C 1DA0 1DA0 66
1DA1 1DA1 25F 1DA2 1DA2 261 1DA3 1DA3 265 1DA4 1DA6 268 1DA7 1DA7 1D7B 1DA8 1DA8 29D
1DA9 1DA9 26D 1DAA 1DAA 1D85 1DAB 1DAB 29F 1DAC 1DAC 271 1DAD 1DAD 270 1DAE 1DB1 272
1DB2 1DB2 278 1DB3 1DB4 282 1DB5 1DB5 1AB 1DB6 1DB7 289 1DB8 1DB8 1D1C 1DB9 1DBA 28B
1DBB 1DBB 7A 1DBC 1DBE 290 1DBF 1DBF 3B8 1FBE 1FBE 3B9 2071 2071 69 207F 207F 6E 2090 2090 61
2091 2091 65 2092 2092 6F 2093 2093 78 2094 2094 259 2095 2095 68 2096 2099 6B 209A 209A 70
209B 209C 73 2102 2102 43 2107 2107 190 210A 210A 67 210B 210B 48 210C 210C 48 210D 210D 48
210E 210E 68 210F 210F 127 2110 2110 49 2111 2111 49 2112 2112 4C 2113 2113 6C 2115 2115 4E
2119 211B 50 211C 211C 52 211D 211D 52 2124 2124 5A 2126 2126 3A9 2128 2128 5A 212A 212A 4B
212C 212D 42 212F 212F 65 2130 2131 45 2133 2133 4D 2134 2134 6F 2135 2138 5D0 2139 2139 69
213C 213C 3C0 213D 213D 3B3 213E 213E 393 213F 213F 3A0 2145 2145 44 2146 2147 64 2148 2149 69
2160 2160 49 2164 2164 56 2169 2169 58 216C 216C 4C 216D 216E 43 216F 216F 4D 2170 2170 69
2174 2174 76 2179 2179 78 217C 217C 6C 217D 217E 63 217F 217F 6D 2C7C 2C7C 6A 2C7D 2C7D 56
2D6F 2D6F 2D61 3038 3038 5341 3039 303A 5344 3131 3132 1100 3133 3133 11AA 3134 3134 1102
3135 3136 11AC 3137 3139 1103 313A 313F 11B0 3140 3140 111A 3141 3143 1106 3144 3144 1121
3145 314E 1109 314F 3163 1161 3164 3164 1160 3165 3166 1114 3167 3168 11C7 3169 3169 11CC
316A 316A 11CE 316B 316B 11D3 316C 316C 11D7 316D 316D 11D9 316E 316E 111C 316F 316F 11DD
3170 3170 11DF 3171 3172 111D 3173 3173 1120 3174 3175 1122 3176 3176 1127 3177 3177 1129
3178 317C 112B 317D 317D 1132 317E 317E 1136 317F 317F 1140 3180 3180 1147 3181 3181 114C
3182 3183 11F1 3184 3186 1157 3187 3188 1184 3189 3189 1188 318A 318B 1191 318C 318C 1194
318D 318D 119E 318E 318E 11A1 A69C A69C 44A A69D A69D 44C A770 A770 A76F A7F2 A7F2 43
A7F3 A7F3 46 A7F4 A7F4 51 A7F8 A7F8 126 A7F9 A7F9 153 AB5C AB5C A727 AB5D AB5D AB37
AB5E AB5E 26B AB5F AB5F AB52 AB69 AB69 28D F900 F900 8C48 F901 F901 66F4 F902 F902 8ECA
F903 F903 8CC8 F904 F904 6ED1 F905 F905 4E32 F906 F906 53E5 F907 F907 9F9C F908 F908 9F9C
F909 F909 5951 F90A F90A 91D1 F90B F90B 5587 F90C F90C 5948 F90D F90D 61F6 F90E F90E 7669
F90F F90F 7F85 F910 F910 863F F911 F911 87BA F912 F912 88F8 F913 F913 908F F914 F914 6A02
F915 F915 6D1B F916 F916 70D9 F917 F917 73DE F918 F918 843D F919 F919 916A F91A F91A 99F1
F91B F91B 4E82 F91C F91C 5375 F91D F91D 6B04 F91E F91E 721B F91F F91F 862D F920 F920 9E1E
F921 F921 5D50 F922 F922 6FEB F923 F923 85CD F924 F924 8964 F925 F925 62C9 F926 F926 81D8
F927 F927 881F F928 F928 5ECA F929 F929 6717 F92A F92A 6D6A F92B F92B 72FC F92C F92C 90CE
F92D F92D 4F86 F92E F92E 51B7 F92F F92F 52DE F930 F930 64C4 F931 F931 6AD3 F932 F932 7210
F933 F933 76E7 F934 F934 8001 F935 F935 8606 F936 F936 865C F937 F937 8DEF F938 F938 9732
F939 F939 9B6F F93A F93A 9DFA F93B F93B 788C F93C F93C 797F F93D F93D 7DA0 F93E F93E 83C9
F93F F93F 9304 F940 F940 9E7F F941 F941 8AD6 F942 F942 58DF F943 F943 5F04 F944 F944 7C60
F945 F945 807E F946 F946 7262 F947 F947 78CA F948 F948 8CC2 F949 F949 96F7 F94A F94A 58D8
F94B F94B 5C62 F94C F94C 6A13 F94D F94D 6DDA F94E F94E 6F0F F94F F94F 7D2F F950 F950 7E37
F951 F951 964B F952 F952 52D2 F953 F953 808B F954 F954 51DC F955 F955 51CC F956 F956 7A1C
F957 F957 7DBE F958 F958 83F1 F959 F959 9675 F95A F95A 8B80 F95B F95B 62CF F95C F95C 6A02
F95D F95D 8AFE F95E F95E 4E39 F95F F95F 5BE7 F960 F960 6012 F961 F961 7387 F962 F962 7570
F963 F963 5317 F964 F964 78FB F965 F965 4FBF F966 F966 5FA9 F967 F967 4E0D F968 F968 6CCC
F969 F969 6578 F96A F96A 7D22 F96B F96B 53C3 F96C F96C 585E F96D F96D 7701 F96E F96E 8449
F96F F96F 8AAA F970 F970 6BBA F971 F971 8FB0 F972 F972 6C88 F973 F973 62FE F974 F974 82E5
F975 F975 63A0 F976 F976 7565 F977 F977 4EAE F978 F978 5169 F979 F979 51C9 F97A F97A 6881
F97B F97B 7CE7 F97C F97C 826F F97D F97D 8AD2 F97E F97E 91CF F97F F97F 52F5 F980 F980 5442
F981 F981 5973 F982 F982 5EEC F983 F983 65C5 F984 F984 6FFE F985 F985 792A F986 F986 95AD
F987 F987 9A6A F988 F988 9E97 F989 F989 9ECE F98A F98A 529B F98B F98B 66C6 F98C F98C 6B77
F98D F98D 8F62 F98E F98E 5E74 F98F F98F 6190 F990 F990 6200 F991 F991 649A F992 F992 6F23
F993 F993 7149 F994 F994 7489 F995 F995 79CA F996 F996 7DF4 F997 F997 806F F998 F998 8F26
F999 F999 84EE F99A F99A 9023 F99B F99B 934A F99C F99C 5217 F99D F99D 52A3 F99E F99E 54BD
F99F F99F 70C8 F9A0 F9A0 88C2 F9A1 F9A1 8AAA F9A2 F9A2 5EC9 F9A3 F9A3 5FF5 F9A4 F9A4 637B
F9A5 F9A5 6BAE F9A6 F9A6 7C3E F9A7 F9A7 7375 F9A8 F9A8 4EE4 F9A9 F9A9 56F9 F9AA F9AA 5BE7
F9AB F9AB 5DBA F9AC F9AC 601C F9AD F9AD 73B2 F9AE F9AE 7469 F9AF F9AF 7F9A F9B0 F9B0 8046
F9B1 F9B1 9234 F9B2 F9B2 96F6 F9B3 F9B3 9748 F9B4 F9B4 9818 F9B5 F9B5 4F8B F9B6 F9B6 79AE
F9B7 F9B7 91B4 F9B8 F9B8 96B8 F9B9 F9B9 60E1 F9BA F9BA 4E86 F9BB F9BB 50DA F9BC F9BC 5BEE
F9BD F9BD 5C3F F9BE F9BE 6599 F9BF F9BF 6A02 F9C0 F9C0 71CE F9C1 F9C1 7642 F9C2 F9C2 84FC
F9C3 F9C3 907C F9C4 F9C4 9F8D F9C5 F9C5 6688 F9C6 F9C6 962E F9C7 F9C7 5289 F9C8 F9C8 677B
F9C9 F9C9 67F3 F9CA F9CA 6D41 F9CB F9CB 6E9C F9CC F9CC 7409 F9CD F9CD 7559 F9CE F9CE 786B
F9CF F9CF 7D10 F9D0 F9D0 985E F9D1 F9D1 516D F9D2 F9D2 622E F9D3 F9D3 9678 F9D4 F9D4 502B
F9D5 F9D5 5D19 F9D6 F9D6 6DEA F9D7 F9D7 8F2A F9D8 F9D8 5F8B F9D9 F9D9 6144 F9DA F9DA 6817
F9DB F9DB 7387 F9DC F9DC 9686 F9DD F9DD 5229 F9DE F9DE 540F F9DF F9DF 5C65 F9E0 F9E0 6613
F9E1 F9E1 674E F9E2 F9E2 68A8 F9E3 F9E3 6CE5 F9E4 F9E4 7406 F9E5 F9E5 75E2 F9E6 F9E6 7F79
F9E7 F9E7 88CF F9E8 F9E8 88E1 F9E9 F9E9 91CC F9EA F9EA 96E2 F9EB F9EB 533F F9EC F9EC 6EBA
F9ED F9ED 541D F9EE F9EE 71D0 F9EF F9EF 7498 F9F0 F9F0 85FA F9F1 F9F1 96A3 F9F2 F9F2 9C57
F9F3 F9F3 9E9F F9F4 F9F4 6797 F9F5 F9F5 6DCB F9F6 F9F6 81E8 F9F7 F9F7 7ACB F9F8 F9F8 7B20
F9F9 F9F9 7C92 F9FA F9FA 72C0 F9FB F9FB 7099 F9FC F9FC 8B58 F9FD F9FD 4EC0 F9FE F9FE 8336
F9FF F9FF 523A FA00 FA00 5207 FA01 FA01 5EA6 FA02 FA02 62D3 FA03 FA03 7CD6 FA04 FA04 5B85
FA05 FA05 6D1E FA06 FA06 66B4 FA07 FA07 8F3B FA08 FA08 884C FA09 FA09 964D FA0A FA0A 898B
FA0B FA0B 5ED3 FA0C FA0C 5140 FA0D FA0D 55C0 FA10 FA10 585A FA12 FA12 6674 FA15 FA15 51DE
FA16 FA16 732A FA17 FA17 76CA FA18 FA18 793C FA19 FA19 795E FA1A FA1A 7965 FA1B FA1B 798F
FA1C FA1C 9756 FA1D FA1D 7CBE FA1E FA1E 7FBD FA20 FA20 8612 FA22 FA22 8AF8 FA25 FA25 9038
FA26 FA26 90FD FA2A FA2A 98EF FA2B FA2B 98FC FA2C FA2C 9928 FA2D FA2D 9DB4 FA2E FA2E 90DE
FA2F FA2F 96B7 FA30 FA30 4FAE FA31 FA31 50E7 FA32 FA32 514D FA33 FA33 52C9 FA34 FA34 52E4
FA35 FA35 5351 FA36 FA36 559D FA37 FA37 5606 FA38 FA38 5668 FA39 FA39 5840 FA3A FA3A 58A8
FA3B FA3B 5C64 FA3C FA3C 5C6E FA3D FA3D 6094 FA3E FA3E 6168 FA3F FA3F 618E FA40 FA40 61F2
FA41 FA41 654F FA42 FA42 65E2 FA43 FA43 6691 FA44 FA44 6885 FA45 FA45 6D77 FA46 FA46 6E1A
FA47 FA47 6F22 FA48 FA48 716E FA49 FA49 722B FA4A FA4A 7422 FA4B FA4B 7891 FA4C FA4C 793E
FA4D FA4D 7949 FA4E FA4E 7948 FA4F FA4F 7950 FA50 FA50 7956 FA51 FA51 795D FA52 FA53 798D
FA54 FA54 7A40 FA55 FA55 7A81 FA56 FA56 7BC0 FA57 FA57 7DF4 FA58 FA58 7E09 FA59 FA59 7E41
FA5A FA5A 7F72 FA5B FA5B 8005 FA5C FA5C 81ED FA5D FA5D 8279 FA5E FA5E 8279 FA5F FA5F 8457
FA60 FA60 8910 FA61 FA61 8996 FA62 FA62 8B01 FA63 FA63 8B39 FA64 FA64 8CD3 FA65 FA65 8D08
FA66 FA66 8FB6 FA67 FA67 9038 FA68 FA68 96E3 FA69 FA69 97FF FA6A FA6A 983B FA6B FA6B 6075
FA6C FA6C 242EE FA6D FA6D 8218 FA70 FA70 4E26 FA71 FA71 51B5 FA72 FA72 5168 FA73 FA73 4F80
FA74 FA74 5145 FA75 FA75 5180 FA76 FA76 52C7 FA77 FA77 52FA FA78 FA78 559D FA79 FA79 5555
FA7A FA7A 5599 FA7B FA7B 55E2 FA7C FA7C 585A FA7D FA7D 58B3 FA7E FA7E 5944 FA7F FA7F 5954
FA80 FA80 5A62 FA81 FA81 5B28 FA82 FA82 5ED2 FA83 FA83 5ED9 FA84 FA84 5F69 FA85 FA85 5FAD
FA86 FA86 60D8 FA87 FA87 614E FA88 FA88 6108 FA89 FA89 618E FA8A FA8A 6160 FA8B FA8B 61F2
FA8C FA8C 6234 FA8D FA8D 63C4 FA8E FA8E 641C FA8F FA8F 6452 FA90 FA90 6556 FA91 FA91 6674
FA92 FA92 6717 FA93 FA93 671B FA94 FA94 6756 FA95 FA95 6B79 FA96 FA96 6BBA FA97 FA97 6D41
FA98 FA98 6EDB FA99 FA99 6ECB FA9A FA9A 6F22 FA9B FA9B 701E FA9C FA9C 716E FA9D FA9D 77A7
FA9E FA9E 7235 FA9F FA9F 72AF FAA0 FAA0 732A FAA1 FAA1 7471 FAA2 FAA2 7506 FAA3 FAA3 753B
FAA4 FAA4 761D FAA5 FAA5 761F FAA6 FAA6 76CA FAA7 FAA7 76DB FAA8 FAA8 76F4 FAA9 FAA9 774A
FAAA FAAA 7740 FAAB FAAB 78CC FAAC FAAC 7AB1 FAAD FAAD 7BC0 FAAE FAAE 7C7B FAAF FAAF 7D5B
FAB0 FAB0 7DF4 FAB1 FAB1 7F3E FAB2 FAB2 8005 FAB3 FAB3 8352 FAB4 FAB4 83EF FAB5 FAB5 8779
FAB6 FAB6 8941 FAB7 FAB7 8986 FAB8 FAB8 8996 FAB9 FAB9 8ABF FABA FABA 8AF8 FABB FABB 8ACB
FABC FABC 8B01 FABD FABD 8AFE FABE FABE 8AED FABF FABF 8B39 FAC0 FAC0 8B8A FAC1 FAC1 8D08
FAC2 FAC2 8F38 FAC3 FAC3 9072 FAC4 FAC4 9199 FAC5 FAC5 9276 FAC6 FAC6 967C FAC7 FAC7 96E3
FAC8 FAC8 9756 FAC9 FAC9 97DB FACA FACA 97FF FACB FACB 980B FACC FACC 983B FACD FACD 9B12
FACE FACE 9F9C FACF FACF 2284A FAD0 FAD0 22844 FAD1 FAD1 233D5 FAD2 FAD2 3B9D FAD3 FAD3 4018
FAD4 FAD4 4039 FAD5 FAD5 25249 FAD6 FAD6 25CD0 FAD7 FAD7 27ED3 FAD8 FAD8 9F43 FAD9 FAD9 9F8E
FB20 FB20 5E2 FB21 FB21 5D0 FB22 FB23 5D3 FB24 FB26 5DB FB27 FB27 5E8 FB28 FB28 5EA
FB50 FB50 671 FB51 FB51 671 FB52 FB52 67B FB53 FB53 67B FB54 FB54 67B FB55 FB55 67B
FB56 FB56 67E FB57 FB57 67E FB58 FB58 67E FB59 FB59 67E FB5A FB5A 680 FB5B FB5B 680
FB5C FB5C 680 FB5D FB5D 680 FB5E FB5E 67A FB5F FB5F 67A FB60 FB60 67A FB61 FB61 67A
FB62 FB62 67F FB63 FB63 67F FB64 FB64 67F FB65 FB65 67F FB66 FB66 679 FB67 FB67 679
FB68 FB68 679 FB69 FB69 679 FB6A FB6A 6A4 FB6B FB6B 6A4 FB6C FB6C 6A4 FB6D FB6D 6A4
FB6E FB6E 6A6 FB6F FB6F 6A6 FB70 FB70 6A6 FB71 FB71 6A6 FB72 FB72 684 FB73 FB73 684
FB74 FB74 684 FB75 FB75 684 FB76 FB76 683 FB77 FB77 683 FB78 FB78 683 FB79 FB79 683
FB7A FB7A 686 FB7B FB7B 686 FB7C FB7C 686 FB7D FB7E 686 FB7F FB7F 687 FB80 FB80 687
FB81 FB81 687 FB82 FB82 68D FB83 FB83 68D FB84 FB84 68C FB85 FB85 68C FB86 FB86 68E
FB87 FB87 68E FB88 FB88 688 FB89 FB89 688 FB8A FB8A 698 FB8B FB8B 698 FB8C FB8C 691
FB8D FB8D 691 FB8E FB8E 6A9 FB8F FB8F 6A9 FB90 FB90 6A9 FB91 FB91 6A9 FB92 FB92 6AF
FB93 FB93 6AF FB94 FB94 6AF FB95 FB95 6AF FB96 FB96 6B3 FB97 FB97 6B3 FB98 FB98 6B3
FB99 FB99 6B3 FB9A FB9A 6B1 FB9B FB9B 6B1 FB9C FB9C 6B1 FB9D FB9D 6B1 FB9E FB9E 6BA
FB9F FBA0 6BA FBA1 FBA1 6BB FBA2 FBA2 6BB FBA3 FBA3 6BB FBA6 FBA6 6C1 FBA7 FBA7 6C1
FBA8 FBA8 6C1 FBA9 FBA9 6C1 FBAA FBAA 6BE FBAB FBAB 6BE FBAC FBAC 6BE FBAD FBAD 6BE
FBAE FBAE 6D2 FBAF FBAF 6D2 FBD3 FBD3 6AD FBD4 FBD4 6AD FBD5 FBD5 6AD FBD6 FBD6 6AD
FBD7 FBD7 6C7 FBD8 FBD8 6C7 FBD9 FBD9 6C6 FBDA FBDA 6C6 FBDB FBDB 6C8 FBDC FBDC 6C8
FBDE FBDE 6CB FBDF FBDF 6CB FBE0 FBE0 6C5 FBE1 FBE1 6C5 FBE2 FBE2 6C9 FBE3 FBE3 6C9
FBE4 FBE4 6D0 FBE5 FBE5 6D0 FBE6 FBE6 6D0 FBE7 FBE7 6D0 FBE8 FBE8 649 FBE9 FBE9 649
FBFC FBFC 6CC FBFD FBFD 6CC FBFE FBFE 6CC FBFF FBFF 6CC FE33 FE33 5F FE34 FE34 5F FE4D FE4D 5F
FE4E FE4E 5F FE4F FE4F 5F FE80 FE80 621 FE8D FE8D 627 FE8E FE8F 627 FE90 FE90 628 FE91 FE91 628
FE92 FE93 628 FE94 FE95 629 FE96 FE96 62A FE97 FE97 62A FE98 FE99 62A FE9A FE9A 62B
FE9B FE9B 62B FE9C FE9D 62B FE9E FE9E 62C FE9F FE9F 62C FEA0 FEA1 62C FEA2 FEA2 62D
FEA3 FEA3 62D FEA4 FEA5 62D FEA6 FEA6 62E FEA7 FEA7 62E FEA8 FEA9 62E FEAA FEAB 62F
FEAC FEAD 630 FEAE FEAF 631 FEB0 FEB1 632 FEB2 FEB2 633 FEB3 FEB3 633 FEB4 FEB5 633
FEB6 FEB6 634 FEB7 FEB7 634 FEB8 FEB9 634 FEBA FEBA 635 FEBB FEBB 635 FEBC FEBD 635
FEBE FEBE 636 FEBF FEBF 636 FEC0 FEC1 636 FEC2 FEC2 637 FEC3 FEC3 637 FEC4 FEC5 637
FEC6 FEC6 638 FEC7 FEC7 638 FEC8 FEC9 638 FECA FECA 639 FECB FECB 639 FECC FECD 639
FECE FECE 63A FECF FECF 63A FED0 FED0 63A FED1 FED1 641 FED2 FED2 641 FED3 FED3 641
FED4 FED5 641 FED6 FED6 642 FED7 FED7 642 FED8 FED9 642 FEDA FEDA 643 FEDB FEDB 643
FEDC FEDD 643 FEDE FEDE 644 FEDF FEDF 644 FEE0 FEE1 644 FEE2 FEE2 645 FEE3 FEE3 645
FEE4 FEE5 645 FEE6 FEE6 646 FEE7 FEE7 646 FEE8 FEE9 646 FEEA FEEA 647 FEEB FEEB 647
FEEC FEED 647 FEEE FEEF 648 FEF0 FEF1 649 FEF2 FEF2 64A FEF3 FEF3 64A FEF4 FEF4 64A FF10 FF19 30
FF21 FF3A 41 FF3F FF3F 5F FF41 FF5A 61 FF66 FF66 30F2 FF67 FF67 30A1 FF68 FF68 30A3
FF69 FF69 30A5 FF6A FF6A 30A7 FF6B FF6B 30A9 FF6C FF6C 30E3 FF6D FF6D 30E5 FF6E FF6E 30E7
FF6F FF6F 30C3 FF70 FF70 30FC FF71 FF71 30A2 FF72 FF72 30A4 FF73 FF73 30A6 FF74 FF74 30A8
FF75 FF76 30AA FF77 FF77 30AD FF78 FF78 30AF FF79 FF79 30B1 FF7A FF7A 30B3 FF7B FF7B 30B5
FF7C FF7C 30B7 FF7D FF7D 30B9 FF7E FF7E 30BB FF7F FF7F 30BD FF80 FF80 30BF FF81 FF81 30C1
FF82 FF82 30C4 FF83 FF83 30C6 FF84 FF84 30C8 FF85 FF8A 30CA FF8B FF8B 30D2 FF8C FF8C 30D5
FF8D FF8D 30D8 FF8E FF8E 30DB FF8F FF93 30DE FF94 FF94 30E4 FF95 FF95 30E6 FF96 FF9B 30E8
FF9C FF9C 30EF FF9D FF9D 30F3 FF9E FF9F 3099 FFA0 FFA0 1160 FFA1 FFA2 1100 FFA3 FFA3 11AA
FFA4 FFA4 1102 FFA5 FFA6 11AC FFA7 FFA9 1103 FFAA FFAF 11B0 FFB0 FFB0 111A FFB1 FFB3 1106
FFB4 FFB4 1121 FFB5 FFBE 1109 FFC2 FFC7 1161 FFCA FFCF 1167 FFD2 FFD7 116D FFDA FFDC 1173
10781 10782 2D0 10783 10783 E6 10784 10784 299 10785 10785 253 10787 10787 2A3 10788 10788 AB66
10789 10789 2A5 1078A 1078A 2A4 1078B 1078C 256 1078D 1078D 1D91 1078E 1078E 258 1078F 1078F 25E
10790 10790 2A9 10791 10791 264 10792 10792 262 10793 10793 260 10794 10794 29B 10795 10795 127
10796 10796 29C 10797 10797 267 10798 10798 284 10799 1079A 2AA 1079B 1079B 26C
1079C 1079C 1DF04 1079D 1079D A78E 1079E 1079E 26E 1079F 1079F 1DF05 107A0 107A0 28E
107A1 107A1 1DF06 107A2 107A2 F8 107A3 107A4 276 107A5 107A5 71 107A6 107A6 27A
107A7 107A7 1DF08 107A8 107A9 27D 107AA 107AA 280 107AB 107AB 2A8 107AC 107AC 2A6
107AD 107AD AB67 107AE 107AE 2A7 107AF 107AF 288 107B0 107B0 2C71 107B2 107B2 28F
107B3 107B4 2A1 107B5 107B5 298 107B6 107B8 1C0 107B9 107B9 1DF0A 107BA 107BA 1DF1E
1D400 1D419 41 1D41A 1D433 61 1D434 1D44D 41 1D44E 1D454 61 1D456 1D467 69 1D468 1D481 41
1D482 1D49B 61 1D49C 1D49C 41 1D49E 1D49F 43 1D4A2 1D4A2 47 1D4A5 1D4A6 4A 1D4A9 1D4AC 4E
1D4AE 1D4B5 53 1D4B6 1D4B9 61 1D4BB 1D4BB 66 1D4BD 1D4C3 68 1D4C5 1D4CF 70 1D4D0 1D4E9 41
1D4EA 1D503 61 1D504 1D505 41 1D507 1D50A 44 1D50D 1D514 4A 1D516 1D51C 53 1D51E 1D537 61
1D538 1D539 41 1D53B 1D53E 44 1D540 1D544 49 1D546 1D546 4F 1D54A 1D550 53 1D552 1D56B 61
1D56C 1D585 41 1D586 1D59F 61 1D5A0 1D5B9 41 1D5BA 1D5D3 61 1D5D4 1D5ED 41 1D5EE 1D607 61
1D608 1D621 41 1D622 1D63B 61 1D63C 1D655 41 1D656 1D66F 61 1D670 1D689 41 1D68A 1D6A3 61
1D6A4 1D6A4 131 1D6A5 1D6A5 237 1D6A8 1D6B8 391 1D6B9 1D6B9 398 1D6BA 1D6C0 3A3 1D6C2 1D6DA 3B1
1D6DC 1D6DC 3B5 1D6DD 1D6DD 3B8 1D6DE 1D6DE 3BA 1D6DF 1D6DF 3C6 1D6E0 1D6E0 3C1 1D6E1 1D6E1 3C0
1D6E2 1D6F2 391 1D6F3 1D6F3 398 1D6F4 1D6FA 3A3 1D6FC 1D714 3B1 1D716 1D716 3B5 1D717 1D717 3B8
1D718 1D718 3BA 1D719 1D719 3C6 1D71A 1D71A 3C1 1D71B 1D71B 3C0 1D71C 1D72C 391 1D72D 1D72D 398
1D72E 1D734 3A3 1D736 1D74E 3B1 1D750 1D750 3B5 1D751 1D751 3B8 1D752 1D752 3BA 1D753 1D753 3C6
1D754 1D754 3C1 1D755 1D755 3C0 1D756 1D766 391 1D767 1D767 398 1D768 1D76E 3A3 1D770 1D788 3B1
1D78A 1D78A 3B5 1D78B 1D78B 3B8 1D78C 1D78C 3BA 1D78D 1D78D 3C6 1D78E 1D78E 3C1 1D78F 1D78F 3C0
1D790 1D7A0 391 1D7A1 1D7A1 398 1D7A2 1D7A8 3A3 1D7AA 1D7C2 3B1 1D7C4 1D7C4 3B5 1D7C5 1D7C5 3B8
1D7C6 1D7C6 3BA 1D7C7 1D7C7 3C6 1D7C8 1D7C8 3C1 1D7C9 1D7C9 3C0 1D7CA 1D7CB 3DC 1D7CE 1D7D7 30
1D7D8 1D7E1 30 1D7E2 1D7EB 30 1D7EC 1D7F5 30 1D7F6 1D7FF 30 1EE00 1EE01 627 1EE02 1EE02 62C
1EE03 1EE03 62F 1EE05 1EE05 648 1EE06 1EE06 632 1EE07 1EE07 62D 1EE08 1EE08 637 1EE09 1EE09 64A
1EE0A 1EE0D 643 1EE0E 1EE0E 633 1EE0F 1EE0F 639 1EE10 1EE10 641 1EE11 1EE11 635 1EE12 1EE12 642
1EE13 1EE13 631 1EE14 1EE14 634 1EE15 1EE16 62A 1EE17 1EE17 62E 1EE18 1EE18 630 1EE19 1EE19 636
1EE1A 1EE1A 638 1EE1B 1EE1B 63A 1EE1C 1EE1C 66E 1EE1D 1EE1D 6BA 1EE1E 1EE1E 6A1 1EE1F 1EE1F 66F
1EE21 1EE21 628 1EE22 1EE22 62C 1EE24 1EE24 647 1EE27 1EE27 62D 1EE29 1EE29 64A 1EE2A 1EE2D 643
1EE2E 1EE2E 633 1EE2F 1EE2F 639 1EE30 1EE30 641 1EE31 1EE31 635 1EE32 1EE32 642 1EE34 1EE34 634
1EE35 1EE36 62A 1EE37 1EE37 62E 1EE39 1EE39 636 1EE3B 1EE3B 63A 1EE42 1EE42 62C 1EE47 1EE47 62D
1EE49 1EE49 64A 1EE4B 1EE4B 644 1EE4D 1EE4D 646 1EE4E 1EE4E 633 1EE4F 1EE4F 639 1EE51 1EE51 635
1EE52 1EE52 642 1EE54 1EE54 634 1EE57 1EE57 62E 1EE59 1EE59 636 1EE5B 1EE5B 63A 1EE5D 1EE5D 6BA
1EE5F 1EE5F 66F 1EE61 1EE61 628 1EE62 1EE62 62C 1EE64 1EE64 647 1EE67 1EE67 62D 1EE68 1EE68 637
1EE69 1EE69 64A 1EE6A 1EE6A 643 1EE6C 1EE6D 645 1EE6E 1EE6E 633 1EE6F 1EE6F 639 1EE70 1EE70 641
1EE71 1EE71 635 1EE72 1EE72 642 1EE74 1EE74 634 1EE75 1EE76 62A 1EE77 1EE77 62E 1EE79 1EE79 636
1EE7A 1EE7A 638 1EE7B 1EE7B 63A 1EE7C 1EE7C 66E 1EE7E 1EE7E 6A1 1EE80 1EE81 627 1EE82 1EE82 62C
1EE83 1EE83 62F 1EE84 1EE85 647 1EE86 1EE86 632 1EE87 1EE87 62D 1EE88 1EE88 637 1EE89 1EE89 64A
1EE8B 1EE8D 644 1EE8E 1EE8E 633 1EE8F 1EE8F 639 1EE90 1EE90 641 1EE91 1EE91 635 1EE92 1EE92 642
1EE93 1EE93 631 1EE94 1EE94 634 1EE95 1EE96 62A 1EE97 1EE97 62E 1EE98 1EE98 630 1EE99 1EE99 636
1EE9A 1EE9A 638 1EE9B 1EE9B 63A 1EEA1 1EEA1 628 1EEA2 1EEA2 62C 1EEA3 1EEA3 62F 1EEA5 1EEA5 648
1EEA6 1EEA6 632 1EEA7 1EEA7 62D 1EEA8 1EEA8 637 1EEA9 1EEA9 64A 1EEAB 1EEAD 644 1EEAE 1EEAE 633
1EEAF 1EEAF 639 1EEB0 1EEB0 641 1EEB1 1EEB1 635 1EEB2 1EEB2 642 1EEB3 1EEB3 631 1EEB4 1EEB4 634
1EEB5 1EEB6 62A 1EEB7 1EEB7 62E 1EEB8 1EEB8 630 1EEB9 1EEB9 636 1EEBA 1EEBA 638 1EEBB 1EEBB 63A
1FBF0 1FBF9 30 2F800 2F800 4E3D 2F801 2F801 4E38 2F802 2F802 4E41 2F803 2F803 20122
2F804 2F804 4F60 2F805 2F805 4FAE 2F806 2F806 4FBB 2F807 2F807 5002 2F808 2F808 507A
2F809 2F809 5099 2F80A 2F80A 50E7 2F80B 2F80B 50CF 2F80C 2F80C 349E 2F80D 2F80D 2063A
2F80E 2F80E 514D 2F80F 2F80F 5154 2F810 2F810 5164 2F811 2F811 5177 2F812 2F812 2051C
2F813 2F813 34B9 2F814 2F814 5167 2F815 2F815 518D 2F816 2F816 2054B 2F817 2F817 5197
2F818 2F818 51A4 2F819 2F819 4ECC 2F81A 2F81A 51AC 2F81B 2F81B 51B5 2F81C 2F81C 291DF
2F81D 2F81D 51F5 2F81E 2F81E 5203 2F81F 2F81F 34DF 2F820 2F820 523B 2F821 2F821 5246
2F822 2F822 5272 2F823 2F823 5277 2F824 2F824 3515 2F825 2F825 52C7 2F826 2F826 52C9
2F827 2F827 52E4 2F828 2F828 52FA 2F829 2F82A 5305 2F82B 2F82B 5317 2F82C 2F82C 5349
2F82D 2F82D 5351 2F82E 2F82E 535A 2F82F 2F82F 5373 2F830 2F830 537D 2F831 2F831 537F
2F832 2F832 537F 2F833 2F833 537F 2F834 2F834 20A2C 2F835 2F835 7070 2F836 2F836 53CA
2F837 2F837 53DF 2F838 2F838 20B63 2F839 2F839 53EB 2F83A 2F83A 53F1 2F83B 2F83B 5406
2F83C 2F83C 549E 2F83D 2F83D 5438 2F83E 2F83E 5448 2F83F 2F83F 5468 2F840 2F840 54A2
2F841 2F841 54F6 2F842 2F842 5510 2F843 2F843 5553 2F844 2F844 5563 2F845 2F845 5584
2F846 2F846 5584 2F847 2F847 5599 2F848 2F848 55AB 2F849 2F849 55B3 2F84A 2F84A 55C2
2F84B 2F84B 5716 2F84C 2F84C 5606 2F84D 2F84D 5717 2F84E 2F84E 5651 2F84F 2F84F 5674
2F850 2F850 5207 2F851 2F851 58EE 2F852 2F852 57CE 2F853 2F853 57F4 2F854 2F854 580D
2F855 2F855 578B 2F856 2F856 5832 2F857 2F857 5831 2F858 2F858 58AC 2F859 2F859 214E4
2F85A 2F85A 58F2 2F85B 2F85B 58F7 2F85C 2F85C 5906 2F85D 2F85D 591A 2F85E 2F85E 5922
2F85F 2F85F 5962 2F860 2F860 216A8 2F861 2F861 216EA 2F862 2F862 59EC 2F863 2F863 5A1B
2F864 2F864 5A27 2F865 2F865 59D8 2F866 2F866 5A66 2F867 2F867 36EE 2F868 2F868 36FC
2F869 2F869 5B08 2F86A 2F86A 5B3E 2F86B 2F86B 5B3E 2F86C 2F86C 219C8 2F86D 2F86D 5BC3
2F86E 2F86E 5BD8 2F86F 2F86F 5BE7 2F870 2F870 5BF3 2F871 2F871 21B18 2F872 2F872 5BFF
2F873 2F873 5C06 2F874 2F874 5F53 2F875 2F875 5C22 2F876 2F876 3781 2F877 2F877 5C60
2F878 2F878 5C6E 2F879 2F879 5CC0 2F87A 2F87A 5C8D 2F87B 2F87B 21DE4 2F87C 2F87C 5D43
2F87D 2F87D 21DE6 2F87E 2F87E 5D6E 2F87F 2F87F 5D6B 2F880 2F880 5D7C 2F881 2F882 5DE1
2F883 2F883 382F 2F884 2F884 5DFD 2F885 2F885 5E28 2F886 2F886 5E3D 2F887 2F887 5E69
2F888 2F888 3862 2F889 2F889 22183 2F88A 2F88A 387C 2F88B 2F88B 5EB0 2F88C 2F88C 5EB3
2F88D 2F88D 5EB6 2F88E 2F88E 5ECA 2F88F 2F88F 2A392 2F890 2F890 5EFE 2F891 2F891 22331
2F892 2F892 22331 2F893 2F893 8201 2F894 2F894 5F22 2F895 2F895 5F22 2F896 2F896 38C7
2F897 2F897 232B8 2F898 2F898 261DA 2F899 2F899 5F62 2F89A 2F89A 5F6B 2F89B 2F89B 38E3
2F89C 2F89C 5F9A 2F89D 2F89D 5FCD 2F89E 2F89E 5FD7 2F89F 2F89F 5FF9 2F8A0 2F8A0 6081
2F8A1 2F8A1 393A 2F8A2 2F8A2 391C 2F8A3 2F8A3 6094 2F8A4 2F8A4 226D4 2F8A5 2F8A5 60C7
2F8A6 2F8A6 6148 2F8A7 2F8A7 614C 2F8A8 2F8A8 614E 2F8A9 2F8A9 614C 2F8AA 2F8AA 617A
2F8AB 2F8AB 618E 2F8AC 2F8AC 61B2 2F8AD 2F8AD 61A4 2F8AE 2F8AE 61AF 2F8AF 2F8AF 61DE
2F8B0 2F8B0 61F2 2F8B1 2F8B1 61F6 2F8B2 2F8B2 6210 2F8B3 2F8B3 621B 2F8B4 2F8B4 625D
2F8B5 2F8B5 62B1 2F8B6 2F8B6 62D4 2F8B7 2F8B7 6350 2F8B8 2F8B8 22B0C 2F8B9 2F8B9 633D
2F8BA 2F8BA 62FC 2F8BB 2F8BB 6368 2F8BC 2F8BC 6383 2F8BD 2F8BD 63E4 2F8BE 2F8BE 22BF1
2F8BF 2F8BF 6422 2F8C0 2F8C0 63C5 2F8C1 2F8C1 63A9 2F8C2 2F8C2 3A2E 2F8C3 2F8C3 6469
2F8C4 2F8C4 647E 2F8C5 2F8C5 649D 2F8C6 2F8C6 6477 2F8C7 2F8C7 3A6C 2F8C8 2F8C8 654F
2F8C9 2F8C9 656C 2F8CA 2F8CA 2300A 2F8CB 2F8CB 65E3 2F8CC 2F8CC 66F8 2F8CD 2F8CD 6649
2F8CE 2F8CE 3B19 2F8CF 2F8CF 6691 2F8D0 2F8D0 3B08 2F8D1 2F8D1 3AE4 2F8D2 2F8D2 5192
2F8D3 2F8D3 5195 2F8D4 2F8D4 6700 2F8D5 2F8D5 669C 2F8D6 2F8D6 80AD 2F8D7 2F8D7 43D9
2F8D8 2F8D8 6717 2F8D9 2F8D9 671B 2F8DA 2F8DA 6721 2F8DB 2F8DB 675E 2F8DC 2F8DC 6753
2F8DD 2F8DD 233C3 2F8DE 2F8DE 3B49 2F8DF 2F8DF 67FA 2F8E0 2F8E0 6785 2F8E1 2F8E1 6852
2F8E2 2F8E2 6885 2F8E3 2F8E3 2346D 2F8E4 2F8E4 688E 2F8E5 2F8E5 681F 2F8E6 2F8E6 6914
2F8E7 2F8E7 3B9D 2F8E8 2F8E8 6942 2F8E9 2F8E9 69A3 2F8EA 2F8EA 69EA 2F8EB 2F8EB 6AA8
2F8EC 2F8EC 236A3 2F8ED 2F8ED 6ADB 2F8EE 2F8EE 3C18 2F8EF 2F8EF 6B21 2F8F0 2F8F0 238A7
2F8F1 2F8F1 6B54 2F8F2 2F8F2 3C4E 2F8F3 2F8F3 6B72 2F8F4 2F8F4 6B9F 2F8F5 2F8F6 6BBA
2F8F7 2F8F7 23A8D 2F8F8 2F8F8 21D0B 2F8F9 2F8F9 23AFA 2F8FA 2F8FA 6C4E 2F8FB 2F8FB 23CBC
2F8FC 2F8FC 6CBF 2F8FD 2F8FD 6CCD 2F8FE 2F8FE 6C67 2F8FF 2F8FF 6D16 2F900 2F900 6D3E
2F901 2F901 6D77 2F902 2F902 6D41 2F903 2F903 6D69 2F904 2F904 6D78 2F905 2F905 6D85
2F906 2F906 23D1E 2F907 2F907 6D34 2F908 2F908 6E2F 2F909 2F909 6E6E 2F90A 2F90A 3D33
2F90B 2F90B 6ECB 2F90C 2F90C 6EC7 2F90D 2F90D 23ED1 2F90E 2F90E 6DF9 2F90F 2F90F 6F6E
2F910 2F910 23F5E 2F911 2F911 23F8E 2F912 2F912 6FC6 2F913 2F913 7039 2F914 2F914 701E
2F915 2F915 701B 2F916 2F916 3D96 2F917 2F917 704A 2F918 2F918 707D 2F919 2F919 7077
2F91A 2F91A 70AD 2F91B 2F91B 20525 2F91C 2F91C 7145 2F91D 2F91D 24263 2F91E 2F91E 719C
2F91F 2F91F 243AB 2F920 2F920 7228 2F921 2F921 7235 2F922 2F922 7250 2F923 2F923 24608
2F924 2F924 7280 2F925 2F925 7295 2F926 2F926 24735 2F927 2F927 24814 2F928 2F928 737A
2F929 2F929 738B 2F92A 2F92A 3EAC 2F92B 2F92B 73A5 2F92C 2F92C 3EB8 2F92D 2F92D 3EB8
2F92E 2F92E 7447 2F92F 2F92F 745C 2F930 2F930 7471 2F931 2F931 7485 2F932 2F932 74CA
2F933 2F933 3F1B 2F934 2F934 7524 2F935 2F935 24C36 2F936 2F936 753E 2F937 2F937 24C92
2F938 2F938 7570 2F939 2F939 2219F 2F93A 2F93A 7610 2F93B 2F93B 24FA1 2F93C 2F93C 24FB8
2F93D 2F93D 25044 2F93E 2F93E 3FFC 2F93F 2F93F 4008 2F940 2F940 76F4 2F941 2F941 250F3
2F942 2F942 250F2 2F943 2F943 25119 2F944 2F944 25133 2F945 2F946 771E 2F947 2F947 771F
2F948 2F948 774A 2F949 2F949 4039 2F94A 2F94A 778B 2F94B 2F94B 4046 2F94C 2F94C 4096
2F94D 2F94D 2541D 2F94E 2F94E 784E 2F94F 2F94F 788C 2F950 2F950 78CC 2F951 2F951 40E3
2F952 2F952 25626 2F953 2F953 7956 2F954 2F954 2569A 2F955 2F955 256C5 2F956 2F956 798F
2F957 2F957 79EB 2F958 2F958 412F 2F959 2F959 7A40 2F95A 2F95A 7A4A 2F95B 2F95B 7A4F
2F95C 2F95C 2597C 2F95D 2F95D 25AA7 2F95E 2F95E 25AA7 2F95F 2F95F 7AEE 2F960 2F960 4202
2F961 2F961 25BAB 2F962 2F962 7BC6 2F963 2F963 7BC9 2F964 2F964 4227 2F965 2F965 25C80
2F966 2F966 7CD2 2F967 2F967 42A0 2F968 2F968 7CE8 2F969 2F969 7CE3 2F96A 2F96A 7D00
2F96B 2F96B 25F86 2F96C 2F96C 7D63 2F96D 2F96D 4301 2F96E 2F96E 7DC7 2F96F 2F96F 7E02
2F970 2F970 7E45 2F971 2F971 4334 2F972 2F972 26228 2F973 2F973 26247 2F974 2F974 4359
2F975 2F975 262D9 2F976 2F976 7F7A 2F977 2F977 2633E 2F978 2F978 7F95 2F979 2F979 7FFA
2F97A 2F97A 8005 2F97B 2F97B 264DA 2F97C 2F97C 26523 2F97D 2F97D 8060 2F97E 2F97E 265A8
2F97F 2F97F 8070 2F980 2F980 2335F 2F981 2F981 43D5 2F982 2F982 80B2 2F983 2F983 8103
2F984 2F984 440B 2F985 2F985 813E 2F986 2F986 5AB5 2F987 2F987 267A7 2F988 2F988 267B5
2F989 2F989 23393 2F98A 2F98A 2339C 2F98B 2F98B 8201 2F98C 2F98C 8204 2F98D 2F98D 8F9E
2F98E 2F98E 446B 2F98F 2F98F 8291 2F990 2F990 828B 2F991 2F991 829D 2F992 2F992 52B3
2F993 2F993 82B1 2F994 2F994 82B3 2F995 2F995 82BD 2F996 2F996 82E6 2F997 2F997 26B3C
2F998 2F998 82E5 2F999 2F999 831D 2F99A 2F99A 8363 2F99B 2F99B 83AD 2F99C 2F99C 8323
2F99D 2F99D 83BD 2F99E 2F99E 83E7 2F99F 2F99F 8457 2F9A0 2F9A0 8353 2F9A1 2F9A1 83CA
2F9A2 2F9A2 83CC 2F9A3 2F9A3 83DC 2F9A4 2F9A4 26C36 2F9A5 2F9A5 26D6B 2F9A6 2F9A6 26CD5
2F9A7 2F9A7 452B 2F9A8 2F9A8 84F1 2F9A9 2F9A9 84F3 2F9AA 2F9AA 8516 2F9AB 2F9AB 273CA
2F9AC 2F9AC 8564 2F9AD 2F9AD 26F2C 2F9AE 2F9AE 455D 2F9AF 2F9AF 4561 2F9B0 2F9B0 26FB1
2F9B1 2F9B1 270D2 2F9B2 2F9B2 456B 2F9B3 2F9B3 8650 2F9B4 2F9B4 865C 2F9B5 2F9B5 8667
2F9B6 2F9B6 8669 2F9B7 2F9B7 86A9 2F9B8 2F9B8 8688 2F9B9 2F9B9 870E 2F9BA 2F9BA 86E2
2F9BB 2F9BB 8779 2F9BC 2F9BC 8728 2F9BD 2F9BD 876B 2F9BE 2F9BE 8786 2F9BF 2F9BF 45D7
2F9C0 2F9C0 87E1 2F9C1 2F9C1 8801 2F9C2 2F9C2 45F9 2F9C3 2F9C3 8860 2F9C4 2F9C4 8863
2F9C5 2F9C5 27667 2F9C6 2F9C6 88D7 2F9C7 2F9C7 88DE 2F9C8 2F9C8 4635 2F9C9 2F9C9 88FA
2F9CA 2F9CA 34BB 2F9CB 2F9CB 278AE 2F9CC 2F9CC 27966 2F9CD 2F9CD 46BE 2F9CE 2F9CE 46C7
2F9CF 2F9CF 8AA0 2F9D0 2F9D0 8AED 2F9D1 2F9D1 8B8A 2F9D2 2F9D2 8C55 2F9D3 2F9D3 27CA8
2F9D4 2F9D4 8CAB 2F9D5 2F9D5 8CC1 2F9D6 2F9D6 8D1B 2F9D7 2F9D7 8D77 2F9D8 2F9D8 27F2F
2F9D9 2F9D9 20804 2F9DA 2F9DA 8DCB 2F9DB 2F9DB 8DBC 2F9DC 2F9DC 8DF0 2F9DD 2F9DD 208DE
2F9DE 2F9DE 8ED4 2F9DF 2F9DF 8F38 2F9E0 2F9E0 285D2 2F9E1 2F9E1 285ED 2F9E2 2F9E2 9094
2F9E3 2F9E3 90F1 2F9E4 2F9E4 9111 2F9E5 2F9E5 2872E 2F9E6 2F9E6 911B 2F9E7 2F9E7 9238
2F9E8 2F9E9 92D7 2F9EA 2F9EA 927C 2F9EB 2F9EB 93F9 2F9EC 2F9EC 9415 2F9ED 2F9ED 28BFA
2F9EE 2F9EE 958B 2F9EF 2F9EF 4995 2F9F0 2F9F0 95B7 2F9F1 2F9F1 28D77 2F9F2 2F9F2 49E6
2F9F3 2F9F3 96C3 2F9F4 2F9F4 5DB2 2F9F5 2F9F5 9723 2F9F6 2F9F6 29145 2F9F7 2F9F7 2921A
2F9F8 2F9F8 4A6E 2F9F9 2F9F9 4A76 2F9FA 2F9FA 97E0 2F9FB 2F9FB 2940A 2F9FC 2F9FC 4AB2
2F9FD 2F9FD 29496 2F9FE 2F9FE 980B 2F9FF 2F9FF 980B 2FA00 2FA00 9829 2FA01 2FA01 295B6
2FA02 2FA02 98E2 2FA03 2FA03 4B33 2FA04 2FA04 9929 2FA05 2FA05 99A7 2FA06 2FA06 99C2
2FA07 2FA07 99FE 2FA08 2FA08 4BCE 2FA09 2FA09 29B30 2FA0A 2FA0A 9B12 2FA0B 2FA0B 9C40
2FA0C 2FA0C 9CFD 2FA0D 2FA0D 4CCE 2FA0E 2FA0E 4CED 2FA0F 2FA0F 9D67 2FA10 2FA10 2A0CE
2FA11 2FA11 4CF8 2FA12 2FA12 2A105 2FA13 2FA13 2A20E 2FA14 2FA14 2A291 2FA15 2FA15 9EBB
2FA16 2FA16 4D56 2FA17 2FA17 9EF9 2FA18 2FA18 9EFE 2FA19 2FA19 9F05 2FA1A 2FA1A 9F0F
2FA1B 2FA1B 9F16 2FA1C 2FA1C 9F3B 2FA1D 2FA1D 2A600"

/-- Characters that stand for several: the character, how many it stands for, and those. -/
def multipleForms : List Nat := Table.numbers "
C0 2 41 300 C1 2 41 301 C2 2 41 302 C3 2 41 303 C4 2 41 308 C5 2 41 30A C7 2 43 327 C8 2 45 300
C9 2 45 301 CA 2 45 302 CB 2 45 308 CC 2 49 300 CD 2 49 301 CE 2 49 302 CF 2 49 308 D1 2 4E 303
D2 2 4F 300 D3 2 4F 301 D4 2 4F 302 D5 2 4F 303 D6 2 4F 308 D9 2 55 300 DA 2 55 301 DB 2 55 302
DC 2 55 308 DD 2 59 301 E0 2 61 300 E1 2 61 301 E2 2 61 302 E3 2 61 303 E4 2 61 308 E5 2 61 30A
E7 2 63 327 E8 2 65 300 E9 2 65 301 EA 2 65 302 EB 2 65 308 EC 2 69 300 ED 2 69 301 EE 2 69 302
EF 2 69 308 F1 2 6E 303 F2 2 6F 300 F3 2 6F 301 F4 2 6F 302 F5 2 6F 303 F6 2 6F 308 F9 2 75 300
FA 2 75 301 FB 2 75 302 FC 2 75 308 FD 2 79 301 FF 2 79 308 100 2 41 304 101 2 61 304
102 2 41 306 103 2 61 306 104 2 41 328 105 2 61 328 106 2 43 301 107 2 63 301 108 2 43 302
109 2 63 302 10A 2 43 307 10B 2 63 307 10C 2 43 30C 10D 2 63 30C 10E 2 44 30C 10F 2 64 30C
112 2 45 304 113 2 65 304 114 2 45 306 115 2 65 306 116 2 45 307 117 2 65 307 118 2 45 328
119 2 65 328 11A 2 45 30C 11B 2 65 30C 11C 2 47 302 11D 2 67 302 11E 2 47 306 11F 2 67 306
120 2 47 307 121 2 67 307 122 2 47 327 123 2 67 327 124 2 48 302 125 2 68 302 128 2 49 303
129 2 69 303 12A 2 49 304 12B 2 69 304 12C 2 49 306 12D 2 69 306 12E 2 49 328 12F 2 69 328
130 2 49 307 132 2 49 4A 133 2 69 6A 134 2 4A 302 135 2 6A 302 136 2 4B 327 137 2 6B 327
139 2 4C 301 13A 2 6C 301 13B 2 4C 327 13C 2 6C 327 13D 2 4C 30C 13E 2 6C 30C 13F 2 4C B7
140 2 6C B7 143 2 4E 301 144 2 6E 301 145 2 4E 327 146 2 6E 327 147 2 4E 30C 148 2 6E 30C
149 2 2BC 6E 14C 2 4F 304 14D 2 6F 304 14E 2 4F 306 14F 2 6F 306 150 2 4F 30B 151 2 6F 30B
154 2 52 301 155 2 72 301 156 2 52 327 157 2 72 327 158 2 52 30C 159 2 72 30C 15A 2 53 301
15B 2 73 301 15C 2 53 302 15D 2 73 302 15E 2 53 327 15F 2 73 327 160 2 53 30C 161 2 73 30C
162 2 54 327 163 2 74 327 164 2 54 30C 165 2 74 30C 168 2 55 303 169 2 75 303 16A 2 55 304
16B 2 75 304 16C 2 55 306 16D 2 75 306 16E 2 55 30A 16F 2 75 30A 170 2 55 30B 171 2 75 30B
172 2 55 328 173 2 75 328 174 2 57 302 175 2 77 302 176 2 59 302 177 2 79 302 178 2 59 308
179 2 5A 301 17A 2 7A 301 17B 2 5A 307 17C 2 7A 307 17D 2 5A 30C 17E 2 7A 30C 1A0 2 4F 31B
1A1 2 6F 31B 1AF 2 55 31B 1B0 2 75 31B 1C4 3 44 5A 30C 1C5 3 44 7A 30C 1C6 3 64 7A 30C
1C7 2 4C 4A 1C8 2 4C 6A 1C9 2 6C 6A 1CA 2 4E 4A 1CB 2 4E 6A 1CC 2 6E 6A 1CD 2 41 30C
1CE 2 61 30C 1CF 2 49 30C 1D0 2 69 30C 1D1 2 4F 30C 1D2 2 6F 30C 1D3 2 55 30C 1D4 2 75 30C
1D5 3 55 308 304 1D6 3 75 308 304 1D7 3 55 308 301 1D8 3 75 308 301 1D9 3 55 308 30C
1DA 3 75 308 30C 1DB 3 55 308 300 1DC 3 75 308 300 1DE 3 41 308 304 1DF 3 61 308 304
1E0 3 41 307 304 1E1 3 61 307 304 1E2 2 C6 304 1E3 2 E6 304 1E6 2 47 30C 1E7 2 67 30C
1E8 2 4B 30C 1E9 2 6B 30C 1EA 2 4F 328 1EB 2 6F 328 1EC 3 4F 328 304 1ED 3 6F 328 304
1EE 2 1B7 30C 1EF 2 292 30C 1F0 2 6A 30C 1F1 2 44 5A 1F2 2 44 7A 1F3 2 64 7A 1F4 2 47 301
1F5 2 67 301 1F8 2 4E 300 1F9 2 6E 300 1FA 3 41 30A 301 1FB 3 61 30A 301 1FC 2 C6 301
1FD 2 E6 301 1FE 2 D8 301 1FF 2 F8 301 200 2 41 30F 201 2 61 30F 202 2 41 311 203 2 61 311
204 2 45 30F 205 2 65 30F 206 2 45 311 207 2 65 311 208 2 49 30F 209 2 69 30F 20A 2 49 311
20B 2 69 311 20C 2 4F 30F 20D 2 6F 30F 20E 2 4F 311 20F 2 6F 311 210 2 52 30F 211 2 72 30F
212 2 52 311 213 2 72 311 214 2 55 30F 215 2 75 30F 216 2 55 311 217 2 75 311 218 2 53 326
219 2 73 326 21A 2 54 326 21B 2 74 326 21E 2 48 30C 21F 2 68 30C 226 2 41 307 227 2 61 307
228 2 45 327 229 2 65 327 22A 3 4F 308 304 22B 3 6F 308 304 22C 3 4F 303 304 22D 3 6F 303 304
22E 2 4F 307 22F 2 6F 307 230 3 4F 307 304 231 3 6F 307 304 232 2 59 304 233 2 79 304
344 2 308 301 386 2 391 301 388 2 395 301 389 2 397 301 38A 2 399 301 38C 2 39F 301
38E 2 3A5 301 38F 2 3A9 301 390 3 3B9 308 301 3AA 2 399 308 3AB 2 3A5 308 3AC 2 3B1 301
3AD 2 3B5 301 3AE 2 3B7 301 3AF 2 3B9 301 3B0 3 3C5 308 301 3CA 2 3B9 308 3CB 2 3C5 308
3CC 2 3BF 301 3CD 2 3C5 301 3CE 2 3C9 301 3D3 2 3A5 301 3D4 2 3A5 308 400 2 415 300
401 2 415 308 403 2 413 301 407 2 406 308 40C 2 41A 301 40D 2 418 300 40E 2 423 306
419 2 418 306 439 2 438 306 450 2 435 300 451 2 435 308 453 2 433 301 457 2 456 308
45C 2 43A 301 45D 2 438 300 45E 2 443 306 476 2 474 30F 477 2 475 30F 4C1 2 416 306
4C2 2 436 306 4D0 2 410 306 4D1 2 430 306 4D2 2 410 308 4D3 2 430 308 4D6 2 415 306
4D7 2 435 306 4DA 2 4D8 308 4DB 2 4D9 308 4DC 2 416 308 4DD 2 436 308 4DE 2 417 308
4DF 2 437 308 4E2 2 418 304 4E3 2 438 304 4E4 2 418 308 4E5 2 438 308 4E6 2 41E 308
4E7 2 43E 308 4EA 2 4E8 308 4EB 2 4E9 308 4EC 2 42D 308 4ED 2 44D 308 4EE 2 423 304
4EF 2 443 304 4F0 2 423 308 4F1 2 443 308 4F2 2 423 30B 4F3 2 443 30B 4F4 2 427 308
4F5 2 447 308 4F8 2 42B 308 4F9 2 44B 308 587 2 565 582 622 2 627 653 623 2 627 654
624 2 648 654 625 2 627 655 626 2 64A 654 675 2 627 674 676 2 648 674 677 2 6C7 674
678 2 64A 674 6C0 2 6D5 654 6C2 2 6C1 654 6D3 2 6D2 654 929 2 928 93C 931 2 930 93C
934 2 933 93C 958 2 915 93C 959 2 916 93C 95A 2 917 93C 95B 2 91C 93C 95C 2 921 93C
95D 2 922 93C 95E 2 92B 93C 95F 2 92F 93C 9CB 2 9C7 9BE 9CC 2 9C7 9D7 9DC 2 9A1 9BC
9DD 2 9A2 9BC 9DF 2 9AF 9BC A33 2 A32 A3C A36 2 A38 A3C A59 2 A16 A3C A5A 2 A17 A3C
A5B 2 A1C A3C A5E 2 A2B A3C B48 2 B47 B56 B4B 2 B47 B3E B4C 2 B47 B57 B5C 2 B21 B3C
B5D 2 B22 B3C B94 2 B92 BD7 BCA 2 BC6 BBE BCB 2 BC7 BBE BCC 2 BC6 BD7 C48 2 C46 C56
CC0 2 CBF CD5 CC7 2 CC6 CD5 CC8 2 CC6 CD6 CCA 2 CC6 CC2 CCB 3 CC6 CC2 CD5 D4A 2 D46 D3E
D4B 2 D47 D3E D4C 2 D46 D57 DDA 2 DD9 DCA DDC 2 DD9 DCF DDD 3 DD9 DCF DCA DDE 2 DD9 DDF
E33 2 E4D E32 EB3 2 ECD EB2 EDC 2 EAB E99 EDD 2 EAB EA1 F43 2 F42 FB7 F4D 2 F4C FB7
F52 2 F51 FB7 F57 2 F56 FB7 F5C 2 F5B FB7 F69 2 F40 FB5 F73 2 F71 F72 F75 2 F71 F74
F76 2 FB2 F80 F77 3 FB2 F71 F80 F78 2 FB3 F80 F79 3 FB3 F71 F80 F81 2 F71 F80 F93 2 F92 FB7
F9D 2 F9C FB7 FA2 2 FA1 FB7 FA7 2 FA6 FB7 FAC 2 FAB FB7 FB9 2 F90 FB5 1026 2 1025 102E
1B06 2 1B05 1B35 1B08 2 1B07 1B35 1B0A 2 1B09 1B35 1B0C 2 1B0B 1B35 1B0E 2 1B0D 1B35
1B12 2 1B11 1B35 1B3B 2 1B3A 1B35 1B3D 2 1B3C 1B35 1B40 2 1B3E 1B35 1B41 2 1B3F 1B35
1B43 2 1B42 1B35 1E00 2 41 325 1E01 2 61 325 1E02 2 42 307 1E03 2 62 307 1E04 2 42 323
1E05 2 62 323 1E06 2 42 331 1E07 2 62 331 1E08 3 43 327 301 1E09 3 63 327 301 1E0A 2 44 307
1E0B 2 64 307 1E0C 2 44 323 1E0D 2 64 323 1E0E 2 44 331 1E0F 2 64 331 1E10 2 44 327
1E11 2 64 327 1E12 2 44 32D 1E13 2 64 32D 1E14 3 45 304 300 1E15 3 65 304 300 1E16 3 45 304 301
1E17 3 65 304 301 1E18 2 45 32D 1E19 2 65 32D 1E1A 2 45 330 1E1B 2 65 330 1E1C 3 45 327 306
1E1D 3 65 327 306 1E1E 2 46 307 1E1F 2 66 307 1E20 2 47 304 1E21 2 67 304 1E22 2 48 307
1E23 2 68 307 1E24 2 48 323 1E25 2 68 323 1E26 2 48 308 1E27 2 68 308 1E28 2 48 327
1E29 2 68 327 1E2A 2 48 32E 1E2B 2 68 32E 1E2C 2 49 330 1E2D 2 69 330 1E2E 3 49 308 301
1E2F 3 69 308 301 1E30 2 4B 301 1E31 2 6B 301 1E32 2 4B 323 1E33 2 6B 323 1E34 2 4B 331
1E35 2 6B 331 1E36 2 4C 323 1E37 2 6C 323 1E38 3 4C 323 304 1E39 3 6C 323 304 1E3A 2 4C 331
1E3B 2 6C 331 1E3C 2 4C 32D 1E3D 2 6C 32D 1E3E 2 4D 301 1E3F 2 6D 301 1E40 2 4D 307
1E41 2 6D 307 1E42 2 4D 323 1E43 2 6D 323 1E44 2 4E 307 1E45 2 6E 307 1E46 2 4E 323
1E47 2 6E 323 1E48 2 4E 331 1E49 2 6E 331 1E4A 2 4E 32D 1E4B 2 6E 32D 1E4C 3 4F 303 301
1E4D 3 6F 303 301 1E4E 3 4F 303 308 1E4F 3 6F 303 308 1E50 3 4F 304 300 1E51 3 6F 304 300
1E52 3 4F 304 301 1E53 3 6F 304 301 1E54 2 50 301 1E55 2 70 301 1E56 2 50 307 1E57 2 70 307
1E58 2 52 307 1E59 2 72 307 1E5A 2 52 323 1E5B 2 72 323 1E5C 3 52 323 304 1E5D 3 72 323 304
1E5E 2 52 331 1E5F 2 72 331 1E60 2 53 307 1E61 2 73 307 1E62 2 53 323 1E63 2 73 323
1E64 3 53 301 307 1E65 3 73 301 307 1E66 3 53 30C 307 1E67 3 73 30C 307 1E68 3 53 323 307
1E69 3 73 323 307 1E6A 2 54 307 1E6B 2 74 307 1E6C 2 54 323 1E6D 2 74 323 1E6E 2 54 331
1E6F 2 74 331 1E70 2 54 32D 1E71 2 74 32D 1E72 2 55 324 1E73 2 75 324 1E74 2 55 330
1E75 2 75 330 1E76 2 55 32D 1E77 2 75 32D 1E78 3 55 303 301 1E79 3 75 303 301 1E7A 3 55 304 308
1E7B 3 75 304 308 1E7C 2 56 303 1E7D 2 76 303 1E7E 2 56 323 1E7F 2 76 323 1E80 2 57 300
1E81 2 77 300 1E82 2 57 301 1E83 2 77 301 1E84 2 57 308 1E85 2 77 308 1E86 2 57 307
1E87 2 77 307 1E88 2 57 323 1E89 2 77 323 1E8A 2 58 307 1E8B 2 78 307 1E8C 2 58 308
1E8D 2 78 308 1E8E 2 59 307 1E8F 2 79 307 1E90 2 5A 302 1E91 2 7A 302 1E92 2 5A 323
1E93 2 7A 323 1E94 2 5A 331 1E95 2 7A 331 1E96 2 68 331 1E97 2 74 308 1E98 2 77 30A
1E99 2 79 30A 1E9A 2 61 2BE 1E9B 2 73 307 1EA0 2 41 323 1EA1 2 61 323 1EA2 2 41 309
1EA3 2 61 309 1EA4 3 41 302 301 1EA5 3 61 302 301 1EA6 3 41 302 300 1EA7 3 61 302 300
1EA8 3 41 302 309 1EA9 3 61 302 309 1EAA 3 41 302 303 1EAB 3 61 302 303 1EAC 3 41 323 302
1EAD 3 61 323 302 1EAE 3 41 306 301 1EAF 3 61 306 301 1EB0 3 41 306 300 1EB1 3 61 306 300
1EB2 3 41 306 309 1EB3 3 61 306 309 1EB4 3 41 306 303 1EB5 3 61 306 303 1EB6 3 41 323 306
1EB7 3 61 323 306 1EB8 2 45 323 1EB9 2 65 323 1EBA 2 45 309 1EBB 2 65 309 1EBC 2 45 303
1EBD 2 65 303 1EBE 3 45 302 301 1EBF 3 65 302 301 1EC0 3 45 302 300 1EC1 3 65 302 300
1EC2 3 45 302 309 1EC3 3 65 302 309 1EC4 3 45 302 303 1EC5 3 65 302 303 1EC6 3 45 323 302
1EC7 3 65 323 302 1EC8 2 49 309 1EC9 2 69 309 1ECA 2 49 323 1ECB 2 69 323 1ECC 2 4F 323
1ECD 2 6F 323 1ECE 2 4F 309 1ECF 2 6F 309 1ED0 3 4F 302 301 1ED1 3 6F 302 301 1ED2 3 4F 302 300
1ED3 3 6F 302 300 1ED4 3 4F 302 309 1ED5 3 6F 302 309 1ED6 3 4F 302 303 1ED7 3 6F 302 303
1ED8 3 4F 323 302 1ED9 3 6F 323 302 1EDA 3 4F 31B 301 1EDB 3 6F 31B 301 1EDC 3 4F 31B 300
1EDD 3 6F 31B 300 1EDE 3 4F 31B 309 1EDF 3 6F 31B 309 1EE0 3 4F 31B 303 1EE1 3 6F 31B 303
1EE2 3 4F 31B 323 1EE3 3 6F 31B 323 1EE4 2 55 323 1EE5 2 75 323 1EE6 2 55 309 1EE7 2 75 309
1EE8 3 55 31B 301 1EE9 3 75 31B 301 1EEA 3 55 31B 300 1EEB 3 75 31B 300 1EEC 3 55 31B 309
1EED 3 75 31B 309 1EEE 3 55 31B 303 1EEF 3 75 31B 303 1EF0 3 55 31B 323 1EF1 3 75 31B 323
1EF2 2 59 300 1EF3 2 79 300 1EF4 2 59 323 1EF5 2 79 323 1EF6 2 59 309 1EF7 2 79 309
1EF8 2 59 303 1EF9 2 79 303 1F00 2 3B1 313 1F01 2 3B1 314 1F02 3 3B1 313 300 1F03 3 3B1 314 300
1F04 3 3B1 313 301 1F05 3 3B1 314 301 1F06 3 3B1 313 342 1F07 3 3B1 314 342 1F08 2 391 313
1F09 2 391 314 1F0A 3 391 313 300 1F0B 3 391 314 300 1F0C 3 391 313 301 1F0D 3 391 314 301
1F0E 3 391 313 342 1F0F 3 391 314 342 1F10 2 3B5 313 1F11 2 3B5 314 1F12 3 3B5 313 300
1F13 3 3B5 314 300 1F14 3 3B5 313 301 1F15 3 3B5 314 301 1F18 2 395 313 1F19 2 395 314
1F1A 3 395 313 300 1F1B 3 395 314 300 1F1C 3 395 313 301 1F1D 3 395 314 301 1F20 2 3B7 313
1F21 2 3B7 314 1F22 3 3B7 313 300 1F23 3 3B7 314 300 1F24 3 3B7 313 301 1F25 3 3B7 314 301
1F26 3 3B7 313 342 1F27 3 3B7 314 342 1F28 2 397 313 1F29 2 397 314 1F2A 3 397 313 300
1F2B 3 397 314 300 1F2C 3 397 313 301 1F2D 3 397 314 301 1F2E 3 397 313 342 1F2F 3 397 314 342
1F30 2 3B9 313 1F31 2 3B9 314 1F32 3 3B9 313 300 1F33 3 3B9 314 300 1F34 3 3B9 313 301
1F35 3 3B9 314 301 1F36 3 3B9 313 342 1F37 3 3B9 314 342 1F38 2 399 313 1F39 2 399 314
1F3A 3 399 313 300 1F3B 3 399 314 300 1F3C 3 399 313 301 1F3D 3 399 314 301 1F3E 3 399 313 342
1F3F 3 399 314 342 1F40 2 3BF 313 1F41 2 3BF 314 1F42 3 3BF 313 300 1F43 3 3BF 314 300
1F44 3 3BF 313 301 1F45 3 3BF 314 301 1F48 2 39F 313 1F49 2 39F 314 1F4A 3 39F 313 300
1F4B 3 39F 314 300 1F4C 3 39F 313 301 1F4D 3 39F 314 301 1F50 2 3C5 313 1F51 2 3C5 314
1F52 3 3C5 313 300 1F53 3 3C5 314 300 1F54 3 3C5 313 301 1F55 3 3C5 314 301 1F56 3 3C5 313 342
1F57 3 3C5 314 342 1F59 2 3A5 314 1F5B 3 3A5 314 300 1F5D 3 3A5 314 301 1F5F 3 3A5 314 342
1F60 2 3C9 313 1F61 2 3C9 314 1F62 3 3C9 313 300 1F63 3 3C9 314 300 1F64 3 3C9 313 301
1F65 3 3C9 314 301 1F66 3 3C9 313 342 1F67 3 3C9 314 342 1F68 2 3A9 313 1F69 2 3A9 314
1F6A 3 3A9 313 300 1F6B 3 3A9 314 300 1F6C 3 3A9 313 301 1F6D 3 3A9 314 301 1F6E 3 3A9 313 342
1F6F 3 3A9 314 342 1F70 2 3B1 300 1F71 2 3B1 301 1F72 2 3B5 300 1F73 2 3B5 301 1F74 2 3B7 300
1F75 2 3B7 301 1F76 2 3B9 300 1F77 2 3B9 301 1F78 2 3BF 300 1F79 2 3BF 301 1F7A 2 3C5 300
1F7B 2 3C5 301 1F7C 2 3C9 300 1F7D 2 3C9 301 1F80 3 3B1 313 345 1F81 3 3B1 314 345
1F82 4 3B1 313 300 345 1F83 4 3B1 314 300 345 1F84 4 3B1 313 301 345 1F85 4 3B1 314 301 345
1F86 4 3B1 313 342 345 1F87 4 3B1 314 342 345 1F88 3 391 313 345 1F89 3 391 314 345
1F8A 4 391 313 300 345 1F8B 4 391 314 300 345 1F8C 4 391 313 301 345 1F8D 4 391 314 301 345
1F8E 4 391 313 342 345 1F8F 4 391 314 342 345 1F90 3 3B7 313 345 1F91 3 3B7 314 345
1F92 4 3B7 313 300 345 1F93 4 3B7 314 300 345 1F94 4 3B7 313 301 345 1F95 4 3B7 314 301 345
1F96 4 3B7 313 342 345 1F97 4 3B7 314 342 345 1F98 3 397 313 345 1F99 3 397 314 345
1F9A 4 397 313 300 345 1F9B 4 397 314 300 345 1F9C 4 397 313 301 345 1F9D 4 397 314 301 345
1F9E 4 397 313 342 345 1F9F 4 397 314 342 345 1FA0 3 3C9 313 345 1FA1 3 3C9 314 345
1FA2 4 3C9 313 300 345 1FA3 4 3C9 314 300 345 1FA4 4 3C9 313 301 345 1FA5 4 3C9 314 301 345
1FA6 4 3C9 313 342 345 1FA7 4 3C9 314 342 345 1FA8 3 3A9 313 345 1FA9 3 3A9 314 345
1FAA 4 3A9 313 300 345 1FAB 4 3A9 314 300 345 1FAC 4 3A9 313 301 345 1FAD 4 3A9 314 301 345
1FAE 4 3A9 313 342 345 1FAF 4 3A9 314 342 345 1FB0 2 3B1 306 1FB1 2 3B1 304 1FB2 3 3B1 300 345
1FB3 2 3B1 345 1FB4 3 3B1 301 345 1FB6 2 3B1 342 1FB7 3 3B1 342 345 1FB8 2 391 306
1FB9 2 391 304 1FBA 2 391 300 1FBB 2 391 301 1FBC 2 391 345 1FC2 3 3B7 300 345 1FC3 2 3B7 345
1FC4 3 3B7 301 345 1FC6 2 3B7 342 1FC7 3 3B7 342 345 1FC8 2 395 300 1FC9 2 395 301
1FCA 2 397 300 1FCB 2 397 301 1FCC 2 397 345 1FD0 2 3B9 306 1FD1 2 3B9 304 1FD2 3 3B9 308 300
1FD3 3 3B9 308 301 1FD6 2 3B9 342 1FD7 3 3B9 308 342 1FD8 2 399 306 1FD9 2 399 304
1FDA 2 399 300 1FDB 2 399 301 1FE0 2 3C5 306 1FE1 2 3C5 304 1FE2 3 3C5 308 300
1FE3 3 3C5 308 301 1FE4 2 3C1 313 1FE5 2 3C1 314 1FE6 2 3C5 342 1FE7 3 3C5 308 342
1FE8 2 3A5 306 1FE9 2 3A5 304 1FEA 2 3A5 300 1FEB 2 3A5 301 1FEC 2 3A1 314 1FF2 3 3C9 300 345
1FF3 2 3C9 345 1FF4 3 3C9 301 345 1FF6 2 3C9 342 1FF7 3 3C9 342 345 1FF8 2 39F 300
1FF9 2 39F 301 1FFA 2 3A9 300 1FFB 2 3A9 301 1FFC 2 3A9 345 212B 2 41 30A 2161 2 49 49
2162 3 49 49 49 2163 2 49 56 2165 2 56 49 2166 3 56 49 49 2167 4 56 49 49 49 2168 2 49 58
216A 2 58 49 216B 3 58 49 49 2171 2 69 69 2172 3 69 69 69 2173 2 69 76 2175 2 76 69
2176 3 76 69 69 2177 4 76 69 69 69 2178 2 69 78 217A 2 78 69 217B 3 78 69 69 304C 2 304B 3099
304E 2 304D 3099 3050 2 304F 3099 3052 2 3051 3099 3054 2 3053 3099 3056 2 3055 3099
3058 2 3057 3099 305A 2 3059 3099 305C 2 305B 3099 305E 2 305D 3099 3060 2 305F 3099
3062 2 3061 3099 3065 2 3064 3099 3067 2 3066 3099 3069 2 3068 3099 3070 2 306F 3099
3071 2 306F 309A 3073 2 3072 3099 3074 2 3072 309A 3076 2 3075 3099 3077 2 3075 309A
3079 2 3078 3099 307A 2 3078 309A 307C 2 307B 3099 307D 2 307B 309A 3094 2 3046 3099
309E 2 309D 3099 309F 2 3088 308A 30AC 2 30AB 3099 30AE 2 30AD 3099 30B0 2 30AF 3099
30B2 2 30B1 3099 30B4 2 30B3 3099 30B6 2 30B5 3099 30B8 2 30B7 3099 30BA 2 30B9 3099
30BC 2 30BB 3099 30BE 2 30BD 3099 30C0 2 30BF 3099 30C2 2 30C1 3099 30C5 2 30C4 3099
30C7 2 30C6 3099 30C9 2 30C8 3099 30D0 2 30CF 3099 30D1 2 30CF 309A 30D3 2 30D2 3099
30D4 2 30D2 309A 30D6 2 30D5 3099 30D7 2 30D5 309A 30D9 2 30D8 3099 30DA 2 30D8 309A
30DC 2 30DB 3099 30DD 2 30DB 309A 30F4 2 30A6 3099 30F7 2 30EF 3099 30F8 2 30F0 3099
30F9 2 30F1 3099 30FA 2 30F2 3099 30FE 2 30FD 3099 30FF 2 30B3 30C8 FB00 2 66 66 FB01 2 66 69
FB02 2 66 6C FB03 3 66 66 69 FB04 3 66 66 6C FB05 2 73 74 FB06 2 73 74 FB13 2 574 576
FB14 2 574 565 FB15 2 574 56B FB16 2 57E 576 FB17 2 574 56D FB1D 2 5D9 5B4 FB1F 2 5F2 5B7
FB2A 2 5E9 5C1 FB2B 2 5E9 5C2 FB2C 3 5E9 5BC 5C1 FB2D 3 5E9 5BC 5C2 FB2E 2 5D0 5B7
FB2F 2 5D0 5B8 FB30 2 5D0 5BC FB31 2 5D1 5BC FB32 2 5D2 5BC FB33 2 5D3 5BC FB34 2 5D4 5BC
FB35 2 5D5 5BC FB36 2 5D6 5BC FB38 2 5D8 5BC FB39 2 5D9 5BC FB3A 2 5DA 5BC FB3B 2 5DB 5BC
FB3C 2 5DC 5BC FB3E 2 5DE 5BC FB40 2 5E0 5BC FB41 2 5E1 5BC FB43 2 5E3 5BC FB44 2 5E4 5BC
FB46 2 5E6 5BC FB47 2 5E7 5BC FB48 2 5E8 5BC FB49 2 5E9 5BC FB4A 2 5EA 5BC FB4B 2 5D5 5B9
FB4C 2 5D1 5BF FB4D 2 5DB 5BF FB4E 2 5E4 5BF FB4F 2 5D0 5DC FBA4 2 6D5 654 FBA5 2 6D5 654
FBB0 2 6D2 654 FBB1 2 6D2 654 FBDD 2 6C7 674 FBEA 3 64A 654 627 FBEB 3 64A 654 627
FBEC 3 64A 654 6D5 FBED 3 64A 654 6D5 FBEE 3 64A 654 648 FBEF 3 64A 654 648 FBF0 3 64A 654 6C7
FBF1 3 64A 654 6C7 FBF2 3 64A 654 6C6 FBF3 3 64A 654 6C6 FBF4 3 64A 654 6C8 FBF5 3 64A 654 6C8
FBF6 3 64A 654 6D0 FBF7 3 64A 654 6D0 FBF8 3 64A 654 6D0 FBF9 3 64A 654 649 FBFA 3 64A 654 649
FBFB 3 64A 654 649 FC00 3 64A 654 62C FC01 3 64A 654 62D FC02 3 64A 654 645 FC03 3 64A 654 649
FC04 3 64A 654 64A FC05 2 628 62C FC06 2 628 62D FC07 2 628 62E FC08 2 628 645 FC09 2 628 649
FC0A 2 628 64A FC0B 2 62A 62C FC0C 2 62A 62D FC0D 2 62A 62E FC0E 2 62A 645 FC0F 2 62A 649
FC10 2 62A 64A FC11 2 62B 62C FC12 2 62B 645 FC13 2 62B 649 FC14 2 62B 64A FC15 2 62C 62D
FC16 2 62C 645 FC17 2 62D 62C FC18 2 62D 645 FC19 2 62E 62C FC1A 2 62E 62D FC1B 2 62E 645
FC1C 2 633 62C FC1D 2 633 62D FC1E 2 633 62E FC1F 2 633 645 FC20 2 635 62D FC21 2 635 645
FC22 2 636 62C FC23 2 636 62D FC24 2 636 62E FC25 2 636 645 FC26 2 637 62D FC27 2 637 645
FC28 2 638 645 FC29 2 639 62C FC2A 2 639 645 FC2B 2 63A 62C FC2C 2 63A 645 FC2D 2 641 62C
FC2E 2 641 62D FC2F 2 641 62E FC30 2 641 645 FC31 2 641 649 FC32 2 641 64A FC33 2 642 62D
FC34 2 642 645 FC35 2 642 649 FC36 2 642 64A FC37 2 643 627 FC38 2 643 62C FC39 2 643 62D
FC3A 2 643 62E FC3B 2 643 644 FC3C 2 643 645 FC3D 2 643 649 FC3E 2 643 64A FC3F 2 644 62C
FC40 2 644 62D FC41 2 644 62E FC42 2 644 645 FC43 2 644 649 FC44 2 644 64A FC45 2 645 62C
FC46 2 645 62D FC47 2 645 62E FC48 2 645 645 FC49 2 645 649 FC4A 2 645 64A FC4B 2 646 62C
FC4C 2 646 62D FC4D 2 646 62E FC4E 2 646 645 FC4F 2 646 649 FC50 2 646 64A FC51 2 647 62C
FC52 2 647 645 FC53 2 647 649 FC54 2 647 64A FC55 2 64A 62C FC56 2 64A 62D FC57 2 64A 62E
FC58 2 64A 645 FC59 2 64A 649 FC5A 2 64A 64A FC5B 2 630 670 FC5C 2 631 670 FC5D 2 649 670
FC64 3 64A 654 631 FC65 3 64A 654 632 FC66 3 64A 654 645 FC67 3 64A 654 646 FC68 3 64A 654 649
FC69 3 64A 654 64A FC6A 2 628 631 FC6B 2 628 632 FC6C 2 628 645 FC6D 2 628 646 FC6E 2 628 649
FC6F 2 628 64A FC70 2 62A 631 FC71 2 62A 632 FC72 2 62A 645 FC73 2 62A 646 FC74 2 62A 649
FC75 2 62A 64A FC76 2 62B 631 FC77 2 62B 632 FC78 2 62B 645 FC79 2 62B 646 FC7A 2 62B 649
FC7B 2 62B 64A FC7C 2 641 649 FC7D 2 641 64A FC7E 2 642 649 FC7F 2 642 64A FC80 2 643 627
FC81 2 643 644 FC82 2 643 645 FC83 2 643 649 FC84 2 643 64A FC85 2 644 645 FC86 2 644 649
FC87 2 644 64A FC88 2 645 627 FC89 2 645 645 FC8A 2 646 631 FC8B 2 646 632 FC8C 2 646 645
FC8D 2 646 646 FC8E 2 646 649 FC8F 2 646 64A FC90 2 649 670 FC91 2 64A 631 FC92 2 64A 632
FC93 2 64A 645 FC94 2 64A 646 FC95 2 64A 649 FC96 2 64A 64A FC97 3 64A 654 62C
FC98 3 64A 654 62D FC99 3 64A 654 62E FC9A 3 64A 654 645 FC9B 3 64A 654 647 FC9C 2 628 62C
FC9D 2 628 62D FC9E 2 628 62E FC9F 2 628 645 FCA0 2 628 647 FCA1 2 62A 62C FCA2 2 62A 62D
FCA3 2 62A 62E FCA4 2 62A 645 FCA5 2 62A 647 FCA6 2 62B 645 FCA7 2 62C 62D FCA8 2 62C 645
FCA9 2 62D 62C FCAA 2 62D 645 FCAB 2 62E 62C FCAC 2 62E 645 FCAD 2 633 62C FCAE 2 633 62D
FCAF 2 633 62E FCB0 2 633 645 FCB1 2 635 62D FCB2 2 635 62E FCB3 2 635 645 FCB4 2 636 62C
FCB5 2 636 62D FCB6 2 636 62E FCB7 2 636 645 FCB8 2 637 62D FCB9 2 638 645 FCBA 2 639 62C
FCBB 2 639 645 FCBC 2 63A 62C FCBD 2 63A 645 FCBE 2 641 62C FCBF 2 641 62D FCC0 2 641 62E
FCC1 2 641 645 FCC2 2 642 62D FCC3 2 642 645 FCC4 2 643 62C FCC5 2 643 62D FCC6 2 643 62E
FCC7 2 643 644 FCC8 2 643 645 FCC9 2 644 62C FCCA 2 644 62D FCCB 2 644 62E FCCC 2 644 645
FCCD 2 644 647 FCCE 2 645 62C FCCF 2 645 62D FCD0 2 645 62E FCD1 2 645 645 FCD2 2 646 62C
FCD3 2 646 62D FCD4 2 646 62E FCD5 2 646 645 FCD6 2 646 647 FCD7 2 647 62C FCD8 2 647 645
FCD9 2 647 670 FCDA 2 64A 62C FCDB 2 64A 62D FCDC 2 64A 62E FCDD 2 64A 645 FCDE 2 64A 647
FCDF 3 64A 654 645 FCE0 3 64A 654 647 FCE1 2 628 645 FCE2 2 628 647 FCE3 2 62A 645
FCE4 2 62A 647 FCE5 2 62B 645 FCE6 2 62B 647 FCE7 2 633 645 FCE8 2 633 647 FCE9 2 634 645
FCEA 2 634 647 FCEB 2 643 644 FCEC 2 643 645 FCED 2 644 645 FCEE 2 646 645 FCEF 2 646 647
FCF0 2 64A 645 FCF1 2 64A 647 FCF2 3 640 64E 651 FCF3 3 640 64F 651 FCF4 3 640 650 651
FCF5 2 637 649 FCF6 2 637 64A FCF7 2 639 649 FCF8 2 639 64A FCF9 2 63A 649 FCFA 2 63A 64A
FCFB 2 633 649 FCFC 2 633 64A FCFD 2 634 649 FCFE 2 634 64A FCFF 2 62D 649 FD00 2 62D 64A
FD01 2 62C 649 FD02 2 62C 64A FD03 2 62E 649 FD04 2 62E 64A FD05 2 635 649 FD06 2 635 64A
FD07 2 636 649 FD08 2 636 64A FD09 2 634 62C FD0A 2 634 62D FD0B 2 634 62E FD0C 2 634 645
FD0D 2 634 631 FD0E 2 633 631 FD0F 2 635 631 FD10 2 636 631 FD11 2 637 649 FD12 2 637 64A
FD13 2 639 649 FD14 2 639 64A FD15 2 63A 649 FD16 2 63A 64A FD17 2 633 649 FD18 2 633 64A
FD19 2 634 649 FD1A 2 634 64A FD1B 2 62D 649 FD1C 2 62D 64A FD1D 2 62C 649 FD1E 2 62C 64A
FD1F 2 62E 649 FD20 2 62E 64A FD21 2 635 649 FD22 2 635 64A FD23 2 636 649 FD24 2 636 64A
FD25 2 634 62C FD26 2 634 62D FD27 2 634 62E FD28 2 634 645 FD29 2 634 631 FD2A 2 633 631
FD2B 2 635 631 FD2C 2 636 631 FD2D 2 634 62C FD2E 2 634 62D FD2F 2 634 62E FD30 2 634 645
FD31 2 633 647 FD32 2 634 647 FD33 2 637 645 FD34 2 633 62C FD35 2 633 62D FD36 2 633 62E
FD37 2 634 62C FD38 2 634 62D FD39 2 634 62E FD3A 2 637 645 FD3B 2 638 645 FD3C 2 627 64B
FD3D 2 627 64B FD50 3 62A 62C 645 FD51 3 62A 62D 62C FD52 3 62A 62D 62C FD53 3 62A 62D 645
FD54 3 62A 62E 645 FD55 3 62A 645 62C FD56 3 62A 645 62D FD57 3 62A 645 62E FD58 3 62C 645 62D
FD59 3 62C 645 62D FD5A 3 62D 645 64A FD5B 3 62D 645 649 FD5C 3 633 62D 62C FD5D 3 633 62C 62D
FD5E 3 633 62C 649 FD5F 3 633 645 62D FD60 3 633 645 62D FD61 3 633 645 62C FD62 3 633 645 645
FD63 3 633 645 645 FD64 3 635 62D 62D FD65 3 635 62D 62D FD66 3 635 645 645 FD67 3 634 62D 645
FD68 3 634 62D 645 FD69 3 634 62C 64A FD6A 3 634 645 62E FD6B 3 634 645 62E FD6C 3 634 645 645
FD6D 3 634 645 645 FD6E 3 636 62D 649 FD6F 3 636 62E 645 FD70 3 636 62E 645 FD71 3 637 645 62D
FD72 3 637 645 62D FD73 3 637 645 645 FD74 3 637 645 64A FD75 3 639 62C 645 FD76 3 639 645 645
FD77 3 639 645 645 FD78 3 639 645 649 FD79 3 63A 645 645 FD7A 3 63A 645 64A FD7B 3 63A 645 649
FD7C 3 641 62E 645 FD7D 3 641 62E 645 FD7E 3 642 645 62D FD7F 3 642 645 645 FD80 3 644 62D 645
FD81 3 644 62D 64A FD82 3 644 62D 649 FD83 3 644 62C 62C FD84 3 644 62C 62C FD85 3 644 62E 645
FD86 3 644 62E 645 FD87 3 644 645 62D FD88 3 644 645 62D FD89 3 645 62D 62C FD8A 3 645 62D 645
FD8B 3 645 62D 64A FD8C 3 645 62C 62D FD8D 3 645 62C 645 FD8E 3 645 62E 62C FD8F 3 645 62E 645
FD92 3 645 62C 62E FD93 3 647 645 62C FD94 3 647 645 645 FD95 3 646 62D 645 FD96 3 646 62D 649
FD97 3 646 62C 645 FD98 3 646 62C 645 FD99 3 646 62C 649 FD9A 3 646 645 64A FD9B 3 646 645 649
FD9C 3 64A 645 645 FD9D 3 64A 645 645 FD9E 3 628 62E 64A FD9F 3 62A 62C 64A FDA0 3 62A 62C 649
FDA1 3 62A 62E 64A FDA2 3 62A 62E 649 FDA3 3 62A 645 64A FDA4 3 62A 645 649 FDA5 3 62C 645 64A
FDA6 3 62C 62D 649 FDA7 3 62C 645 649 FDA8 3 633 62E 649 FDA9 3 635 62D 64A FDAA 3 634 62D 64A
FDAB 3 636 62D 64A FDAC 3 644 62C 64A FDAD 3 644 645 64A FDAE 3 64A 62D 64A FDAF 3 64A 62C 64A
FDB0 3 64A 645 64A FDB1 3 645 645 64A FDB2 3 642 645 64A FDB3 3 646 62D 64A FDB4 3 642 645 62D
FDB5 3 644 62D 645 FDB6 3 639 645 64A FDB7 3 643 645 64A FDB8 3 646 62C 62D FDB9 3 645 62E 64A
FDBA 3 644 62C 645 FDBB 3 643 645 645 FDBC 3 644 62C 645 FDBD 3 646 62C 62D FDBE 3 62C 62D 64A
FDBF 3 62D 62C 64A FDC0 3 645 62C 64A FDC1 3 641 645 64A FDC2 3 628 62D 64A FDC3 3 643 645 645
FDC4 3 639 62C 645 FDC5 3 635 645 645 FDC6 3 633 62E 64A FDC7 3 646 62C 64A FDF0 3 635 644 6D2
FDF1 3 642 644 6D2 FDF2 4 627 644 644 647 FDF3 4 627 643 628 631 FDF4 4 645 62D 645 62F
FDF5 4 635 644 639 645 FDF6 4 631 633 648 644 FDF7 4 639 644 64A 647 FDF8 4 648 633 644 645
FDF9 3 635 644 649 FE71 2 640 64B FE77 2 640 64E FE79 2 640 64F FE7B 2 640 650 FE7D 2 640 651
FE7F 2 640 652 FE81 2 627 653 FE82 2 627 653 FE83 2 627 654 FE84 2 627 654 FE85 2 648 654
FE86 2 648 654 FE87 2 627 655 FE88 2 627 655 FE89 2 64A 654 FE8A 2 64A 654 FE8B 2 64A 654
FE8C 2 64A 654 FEF5 3 644 627 653 FEF6 3 644 627 653 FEF7 3 644 627 654 FEF8 3 644 627 654
FEF9 3 644 627 655 FEFA 3 644 627 655 FEFB 2 644 627 FEFC 2 644 627 1109A 2 11099 110BA
1109C 2 1109B 110BA 110AB 2 110A5 110BA 1112E 2 11131 11127 1112F 2 11132 11127
1134B 2 11347 1133E 1134C 2 11347 11357 114BB 2 114B9 114BA 114BC 2 114B9 114B0
114BE 2 114B9 114BD 115BA 2 115B8 115AF 115BB 2 115B9 115AF 11938 2 11935 11930"

/-- Looks a code point up in the runs of single forms. -/
def lookupSingle? (n : Nat) : List Nat → Option Nat
  | first :: last :: target :: rest =>
    if first ≤ n ∧ n ≤ last then some (target + (n - first)) else lookupSingle? n rest
  | _ => none

/-- `lookupMultiple? n left table` passes over `left` numbers and then looks `n` up. -/
def lookupMultiple? (n : Nat) : Nat → List Nat → Option (List Nat)
  | _, [] => none
  | left + 1, _ :: rest => lookupMultiple? n left rest
  | 0, key :: rest =>
    match rest with
    | [] => none
    | count :: forms =>
      if key = n then some (forms.take count) else lookupMultiple? n (count + 1) rest

/-- The decomposition of a syllable of the Korean script, which follows from its number. -/
def decomposeSyllable (n : Nat) : List Nat :=
  let s := n - 0xAC00
  let head := [0x1100 + s / 588, 0x1161 + s % 588 / 28]
  if s % 28 = 0 then head else head ++ [0x11A7 + s % 28]

/-- What a code point stands for, fully decomposed. -/
def decomposeChar (n : Nat) : List Nat :=
  if n < 128 then [n]
  else if 0xAC00 ≤ n ∧ n ≤ 0xD7A3 then decomposeSyllable n
  else
    match lookupSingle? n singleForms with
    | some m => [m]
    | none => (lookupMultiple? n 0 multipleForms).getD [n]

/-- Runs of marks with their combining class. -/
def combiningRuns : List Nat := Table.numbers "
300 314 E6 315 315 E8 316 319 DC 31A 31A E8 31B 31B D8 31C 320 DC 321 322 CA 323 326 DC
327 328 CA 329 333 DC 334 338 1 339 33C DC 33D 344 E6 345 345 F0 346 346 E6 347 349 DC
34A 34C E6 34D 34E DC 350 352 E6 353 356 DC 357 357 E6 358 358 E8 359 35A DC 35B 35B E6
35C 35C E9 35D 35E EA 35F 35F E9 360 361 EA 362 362 E9 363 36F E6 483 487 E6 591 591 DC
592 595 E6 596 596 DC 597 599 E6 59A 59A DE 59B 59B DC 59C 5A1 E6 5A2 5A7 DC 5A8 5A9 E6
5AA 5AA DC 5AB 5AC E6 5AD 5AD DE 5AE 5AE E4 5AF 5AF E6 5B0 5B0 A 5B1 5B1 B 5B2 5B2 C 5B3 5B3 D
5B4 5B4 E 5B5 5B5 F 5B6 5B6 10 5B7 5B7 11 5B8 5B8 12 5B9 5BA 13 5BB 5BB 14 5BC 5BC 15 5BD 5BD 16
5BF 5BF 17 5C1 5C1 18 5C2 5C2 19 5C4 5C4 E6 5C5 5C5 DC 5C7 5C7 12 610 617 E6 618 618 1E
619 619 1F 61A 61A 20 64B 64B 1B 64C 64C 1C 64D 64D 1D 64E 64E 1E 64F 64F 1F 650 650 20
651 651 21 652 652 22 653 654 E6 655 656 DC 657 65B E6 65C 65C DC 65D 65E E6 65F 65F DC
670 670 23 6D6 6DC E6 6DF 6E2 E6 6E3 6E3 DC 6E4 6E4 E6 6E7 6E8 E6 6EA 6EA DC 6EB 6EC E6
6ED 6ED DC 711 711 24 730 730 E6 731 731 DC 732 733 E6 734 734 DC 735 736 E6 737 739 DC
73A 73A E6 73B 73C DC 73D 73D E6 73E 73E DC 73F 741 E6 742 742 DC 743 743 E6 744 744 DC
745 745 E6 746 746 DC 747 747 E6 748 748 DC 749 74A E6 7EB 7F1 E6 7F2 7F2 DC 7F3 7F3 E6
7FD 7FD DC 816 819 E6 81B 823 E6 825 827 E6 829 82D E6 859 85B DC 898 898 E6 899 89B DC
89C 89F E6 8CA 8CE E6 8CF 8D3 DC 8D4 8E1 E6 8E3 8E3 DC 8E4 8E5 E6 8E6 8E6 DC 8E7 8E8 E6
8E9 8E9 DC 8EA 8EC E6 8ED 8EF DC 8F0 8F0 1B 8F1 8F1 1C 8F2 8F2 1D 8F3 8F5 E6 8F6 8F6 DC
8F7 8F8 E6 8F9 8FA DC 8FB 8FF E6 93C 93C 7 94D 94D 9 951 951 E6 952 952 DC 953 954 E6 9BC 9BC 7
9CD 9CD 9 9FE 9FE E6 A3C A3C 7 A4D A4D 9 ABC ABC 7 ACD ACD 9 B3C B3C 7 B4D B4D 9 BCD BCD 9
C3C C3C 7 C4D C4D 9 C55 C55 54 C56 C56 5B CBC CBC 7 CCD CCD 9 D3B D3C 9 D4D D4D 9 DCA DCA 9
E38 E39 67 E3A E3A 9 E48 E4B 6B EB8 EB9 76 EBA EBA 9 EC8 ECB 7A F18 F19 DC F35 F35 DC F37 F37 DC
F39 F39 D8 F71 F71 81 F72 F72 82 F74 F74 84 F7A F7D 82 F80 F80 82 F82 F83 E6 F84 F84 9
F86 F87 E6 FC6 FC6 DC 1037 1037 7 1039 103A 9 108D 108D DC 135D 135F E6 1714 1715 9 1734 1734 9
17D2 17D2 9 17DD 17DD E6 18A9 18A9 E4 1939 1939 DE 193A 193A E6 193B 193B DC 1A17 1A17 E6
1A18 1A18 DC 1A60 1A60 9 1A75 1A7C E6 1A7F 1A7F DC 1AB0 1AB4 E6 1AB5 1ABA DC 1ABB 1ABC E6
1ABD 1ABD DC 1ABF 1AC0 DC 1AC1 1AC2 E6 1AC3 1AC4 DC 1AC5 1AC9 E6 1ACA 1ACA DC 1ACB 1ACE E6
1B34 1B34 7 1B44 1B44 9 1B6B 1B6B E6 1B6C 1B6C DC 1B6D 1B73 E6 1BAA 1BAB 9 1BE6 1BE6 7
1BF2 1BF3 9 1C37 1C37 7 1CD0 1CD2 E6 1CD4 1CD4 1 1CD5 1CD9 DC 1CDA 1CDB E6 1CDC 1CDF DC
1CE0 1CE0 E6 1CE2 1CE8 1 1CED 1CED DC 1CF4 1CF4 E6 1CF8 1CF9 E6 1DC0 1DC1 E6 1DC2 1DC2 DC
1DC3 1DC9 E6 1DCA 1DCA DC 1DCB 1DCC E6 1DCD 1DCD EA 1DCE 1DCE D6 1DCF 1DCF DC 1DD0 1DD0 CA
1DD1 1DF5 E6 1DF6 1DF6 E8 1DF7 1DF8 E4 1DF9 1DF9 DC 1DFA 1DFA DA 1DFB 1DFB E6 1DFC 1DFC E9
1DFD 1DFD DC 1DFE 1DFE E6 1DFF 1DFF DC 20D0 20D1 E6 20D2 20D3 1 20D4 20D7 E6 20D8 20DA 1
20DB 20DC E6 20E1 20E1 E6 20E5 20E6 1 20E7 20E7 E6 20E8 20E8 DC 20E9 20E9 E6 20EA 20EB 1
20EC 20EF DC 20F0 20F0 E6 2CEF 2CF1 E6 2D7F 2D7F 9 2DE0 2DFF E6 302A 302A DA 302B 302B E4
302C 302C E8 302D 302D DE 302E 302F E0 3099 309A 8 A66F A66F E6 A674 A67D E6 A69E A69F E6
A6F0 A6F1 E6 A806 A806 9 A82C A82C 9 A8C4 A8C4 9 A8E0 A8F1 E6 A92B A92D DC A953 A953 9
A9B3 A9B3 7 A9C0 A9C0 9 AAB0 AAB0 E6 AAB2 AAB3 E6 AAB4 AAB4 DC AAB7 AAB8 E6 AABE AABF E6
AAC1 AAC1 E6 AAF6 AAF6 9 ABED ABED 9 FB1E FB1E 1A FE20 FE26 E6 FE27 FE2D DC FE2E FE2F E6
101FD 101FD DC 102E0 102E0 DC 10376 1037A E6 10A0D 10A0D DC 10A0F 10A0F E6 10A38 10A38 E6
10A39 10A39 1 10A3A 10A3A DC 10A3F 10A3F 9 10AE5 10AE5 E6 10AE6 10AE6 DC 10D24 10D27 E6
10EAB 10EAC E6 10F46 10F47 DC 10F48 10F4A E6 10F4B 10F4B DC 10F4C 10F4C E6 10F4D 10F50 DC
10F82 10F82 E6 10F83 10F83 DC 10F84 10F84 E6 10F85 10F85 DC 11046 11046 9 11070 11070 9
1107F 1107F 9 110B9 110B9 9 110BA 110BA 7 11100 11102 E6 11133 11134 9 11173 11173 7
111C0 111C0 9 111CA 111CA 7 11235 11235 9 11236 11236 7 112E9 112E9 7 112EA 112EA 9
1133B 1133C 7 1134D 1134D 9 11366 1136C E6 11370 11374 E6 11442 11442 9 11446 11446 7
1145E 1145E E6 114C2 114C2 9 114C3 114C3 7 115BF 115BF 9 115C0 115C0 7 1163F 1163F 9
116B6 116B6 9 116B7 116B7 7 1172B 1172B 9 11839 11839 9 1183A 1183A 7 1193D 1193E 9
11943 11943 7 119E0 119E0 9 11A34 11A34 9 11A47 11A47 9 11A99 11A99 9 11C3F 11C3F 9
11D42 11D42 7 11D44 11D45 9 11D97 11D97 9 16AF0 16AF4 1 16B30 16B36 E6 16FF0 16FF1 6
1BC9E 1BC9E 1 1D165 1D166 D8 1D167 1D169 1 1D16D 1D16D E2 1D16E 1D172 D8 1D17B 1D182 DC
1D185 1D189 E6 1D18A 1D18B DC 1D1AA 1D1AD E6 1D242 1D244 E6 1E000 1E006 E6 1E008 1E018 E6
1E01B 1E021 E6 1E023 1E024 E6 1E026 1E02A E6 1E130 1E136 E6 1E2AE 1E2AE E6 1E2EC 1E2EF E6
1E8D0 1E8D6 DC 1E944 1E949 E6 1E94A 1E94A 7"

/-- Looks a code point up in the runs of combining classes. -/
def lookupClass (n : Nat) : List Nat → Nat
  | first :: last :: cls :: rest => if first ≤ n ∧ n ≤ last then cls else lookupClass n rest
  | _ => 0

/-- The combining class of a code point; zero for what is not a reordered mark. -/
def combiningClass (n : Nat) : Nat := if n < 0x300 then 0 else lookupClass n combiningRuns

/-- Puts a mark in front of marks in order, after those of a lower class. -/
def insertMark (m : Nat) : List Nat → List Nat
  | [] => [m]
  | x :: rest =>
    if combiningClass x ≠ 0 ∧ combiningClass x < combiningClass m then x :: insertMark m rest
    else m :: x :: rest

/-- Sorts each run of marks by combining class, keeping the order of equal ones. -/
def sortMarks : List Nat → List Nat
  | [] => []
  | x :: rest => if combiningClass x = 0 then x :: sortMarks rest else insertMark x (sortMarks rest)

/-- The decomposition of a text, marks in canonical order. -/
def decompose (t : List Nat) : List Nat := sortMarks (t.flatMap decomposeChar)

/-! ## Composition -/

/-- Triples: two code points and the one that they compose to. -/
def compositions : List Nat := Table.numbers "
41 300 C0 41 301 C1 41 302 C2 41 303 C3 41 308 C4 41 30A C5 43 327 C7 45 300 C8 45 301 C9
45 302 CA 45 308 CB 49 300 CC 49 301 CD 49 302 CE 49 308 CF 4E 303 D1 4F 300 D2 4F 301 D3
4F 302 D4 4F 303 D5 4F 308 D6 55 300 D9 55 301 DA 55 302 DB 55 308 DC 59 301 DD 61 300 E0
61 301 E1 61 302 E2 61 303 E3 61 308 E4 61 30A E5 63 327 E7 65 300 E8 65 301 E9 65 302 EA
65 308 EB 69 300 EC 69 301 ED 69 302 EE 69 308 EF 6E 303 F1 6F 300 F2 6F 301 F3 6F 302 F4
6F 303 F5 6F 308 F6 75 300 F9 75 301 FA 75 302 FB 75 308 FC 79 301 FD 79 308 FF 41 304 100
61 304 101 41 306 102 61 306 103 41 328 104 61 328 105 43 301 106 63 301 107 43 302 108
63 302 109 43 307 10A 63 307 10B 43 30C 10C 63 30C 10D 44 30C 10E 64 30C 10F 45 304 112
65 304 113 45 306 114 65 306 115 45 307 116 65 307 117 45 328 118 65 328 119 45 30C 11A
65 30C 11B 47 302 11C 67 302 11D 47 306 11E 67 306 11F 47 307 120 67 307 121 47 327 122
67 327 123 48 302 124 68 302 125 49 303 128 69 303 129 49 304 12A 69 304 12B 49 306 12C
69 306 12D 49 328 12E 69 328 12F 49 307 130 4A 302 134 6A 302 135 4B 327 136 6B 327 137
4C 301 139 6C 301 13A 4C 327 13B 6C 327 13C 4C 30C 13D 6C 30C 13E 4E 301 143 6E 301 144
4E 327 145 6E 327 146 4E 30C 147 6E 30C 148 4F 304 14C 6F 304 14D 4F 306 14E 6F 306 14F
4F 30B 150 6F 30B 151 52 301 154 72 301 155 52 327 156 72 327 157 52 30C 158 72 30C 159
53 301 15A 73 301 15B 53 302 15C 73 302 15D 53 327 15E 73 327 15F 53 30C 160 73 30C 161
54 327 162 74 327 163 54 30C 164 74 30C 165 55 303 168 75 303 169 55 304 16A 75 304 16B
55 306 16C 75 306 16D 55 30A 16E 75 30A 16F 55 30B 170 75 30B 171 55 328 172 75 328 173
57 302 174 77 302 175 59 302 176 79 302 177 59 308 178 5A 301 179 7A 301 17A 5A 307 17B
7A 307 17C 5A 30C 17D 7A 30C 17E 4F 31B 1A0 6F 31B 1A1 55 31B 1AF 75 31B 1B0 41 30C 1CD
61 30C 1CE 49 30C 1CF 69 30C 1D0 4F 30C 1D1 6F 30C 1D2 55 30C 1D3 75 30C 1D4 DC 304 1D5
FC 304 1D6 DC 301 1D7 FC 301 1D8 DC 30C 1D9 FC 30C 1DA DC 300 1DB FC 300 1DC C4 304 1DE
E4 304 1DF 226 304 1E0 227 304 1E1 C6 304 1E2 E6 304 1E3 47 30C 1E6 67 30C 1E7 4B 30C 1E8
6B 30C 1E9 4F 328 1EA 6F 328 1EB 1EA 304 1EC 1EB 304 1ED 1B7 30C 1EE 292 30C 1EF 6A 30C 1F0
47 301 1F4 67 301 1F5 4E 300 1F8 6E 300 1F9 C5 301 1FA E5 301 1FB C6 301 1FC E6 301 1FD
D8 301 1FE F8 301 1FF 41 30F 200 61 30F 201 41 311 202 61 311 203 45 30F 204 65 30F 205
45 311 206 65 311 207 49 30F 208 69 30F 209 49 311 20A 69 311 20B 4F 30F 20C 6F 30F 20D
4F 311 20E 6F 311 20F 52 30F 210 72 30F 211 52 311 212 72 311 213 55 30F 214 75 30F 215
55 311 216 75 311 217 53 326 218 73 326 219 54 326 21A 74 326 21B 48 30C 21E 68 30C 21F
41 307 226 61 307 227 45 327 228 65 327 229 D6 304 22A F6 304 22B D5 304 22C F5 304 22D
4F 307 22E 6F 307 22F 22E 304 230 22F 304 231 59 304 232 79 304 233 A8 301 385 391 301 386
395 301 388 397 301 389 399 301 38A 39F 301 38C 3A5 301 38E 3A9 301 38F 3CA 301 390 399 308 3AA
3A5 308 3AB 3B1 301 3AC 3B5 301 3AD 3B7 301 3AE 3B9 301 3AF 3CB 301 3B0 3B9 308 3CA 3C5 308 3CB
3BF 301 3CC 3C5 301 3CD 3C9 301 3CE 3D2 301 3D3 3D2 308 3D4 415 300 400 415 308 401 413 301 403
406 308 407 41A 301 40C 418 300 40D 423 306 40E 418 306 419 438 306 439 435 300 450 435 308 451
433 301 453 456 308 457 43A 301 45C 438 300 45D 443 306 45E 474 30F 476 475 30F 477 416 306 4C1
436 306 4C2 410 306 4D0 430 306 4D1 410 308 4D2 430 308 4D3 415 306 4D6 435 306 4D7 4D8 308 4DA
4D9 308 4DB 416 308 4DC 436 308 4DD 417 308 4DE 437 308 4DF 418 304 4E2 438 304 4E3 418 308 4E4
438 308 4E5 41E 308 4E6 43E 308 4E7 4E8 308 4EA 4E9 308 4EB 42D 308 4EC 44D 308 4ED 423 304 4EE
443 304 4EF 423 308 4F0 443 308 4F1 423 30B 4F2 443 30B 4F3 427 308 4F4 447 308 4F5 42B 308 4F8
44B 308 4F9 627 653 622 627 654 623 648 654 624 627 655 625 64A 654 626 6D5 654 6C0 6C1 654 6C2
6D2 654 6D3 928 93C 929 930 93C 931 933 93C 934 9C7 9BE 9CB 9C7 9D7 9CC B47 B56 B48 B47 B3E B4B
B47 B57 B4C B92 BD7 B94 BC6 BBE BCA BC7 BBE BCB BC6 BD7 BCC C46 C56 C48 CBF CD5 CC0 CC6 CD5 CC7
CC6 CD6 CC8 CC6 CC2 CCA CCA CD5 CCB D46 D3E D4A D47 D3E D4B D46 D57 D4C DD9 DCA DDA DD9 DCF DDC
DDC DCA DDD DD9 DDF DDE 1025 102E 1026 1B05 1B35 1B06 1B07 1B35 1B08 1B09 1B35 1B0A
1B0B 1B35 1B0C 1B0D 1B35 1B0E 1B11 1B35 1B12 1B3A 1B35 1B3B 1B3C 1B35 1B3D 1B3E 1B35 1B40
1B3F 1B35 1B41 1B42 1B35 1B43 41 325 1E00 61 325 1E01 42 307 1E02 62 307 1E03 42 323 1E04
62 323 1E05 42 331 1E06 62 331 1E07 C7 301 1E08 E7 301 1E09 44 307 1E0A 64 307 1E0B 44 323 1E0C
64 323 1E0D 44 331 1E0E 64 331 1E0F 44 327 1E10 64 327 1E11 44 32D 1E12 64 32D 1E13 112 300 1E14
113 300 1E15 112 301 1E16 113 301 1E17 45 32D 1E18 65 32D 1E19 45 330 1E1A 65 330 1E1B
228 306 1E1C 229 306 1E1D 46 307 1E1E 66 307 1E1F 47 304 1E20 67 304 1E21 48 307 1E22
68 307 1E23 48 323 1E24 68 323 1E25 48 308 1E26 68 308 1E27 48 327 1E28 68 327 1E29 48 32E 1E2A
68 32E 1E2B 49 330 1E2C 69 330 1E2D CF 301 1E2E EF 301 1E2F 4B 301 1E30 6B 301 1E31 4B 323 1E32
6B 323 1E33 4B 331 1E34 6B 331 1E35 4C 323 1E36 6C 323 1E37 1E36 304 1E38 1E37 304 1E39
4C 331 1E3A 6C 331 1E3B 4C 32D 1E3C 6C 32D 1E3D 4D 301 1E3E 6D 301 1E3F 4D 307 1E40 6D 307 1E41
4D 323 1E42 6D 323 1E43 4E 307 1E44 6E 307 1E45 4E 323 1E46 6E 323 1E47 4E 331 1E48 6E 331 1E49
4E 32D 1E4A 6E 32D 1E4B D5 301 1E4C F5 301 1E4D D5 308 1E4E F5 308 1E4F 14C 300 1E50
14D 300 1E51 14C 301 1E52 14D 301 1E53 50 301 1E54 70 301 1E55 50 307 1E56 70 307 1E57
52 307 1E58 72 307 1E59 52 323 1E5A 72 323 1E5B 1E5A 304 1E5C 1E5B 304 1E5D 52 331 1E5E
72 331 1E5F 53 307 1E60 73 307 1E61 53 323 1E62 73 323 1E63 15A 307 1E64 15B 307 1E65
160 307 1E66 161 307 1E67 1E62 307 1E68 1E63 307 1E69 54 307 1E6A 74 307 1E6B 54 323 1E6C
74 323 1E6D 54 331 1E6E 74 331 1E6F 54 32D 1E70 74 32D 1E71 55 324 1E72 75 324 1E73 55 330 1E74
75 330 1E75 55 32D 1E76 75 32D 1E77 168 301 1E78 169 301 1E79 16A 308 1E7A 16B 308 1E7B
56 303 1E7C 76 303 1E7D 56 323 1E7E 76 323 1E7F 57 300 1E80 77 300 1E81 57 301 1E82 77 301 1E83
57 308 1E84 77 308 1E85 57 307 1E86 77 307 1E87 57 323 1E88 77 323 1E89 58 307 1E8A 78 307 1E8B
58 308 1E8C 78 308 1E8D 59 307 1E8E 79 307 1E8F 5A 302 1E90 7A 302 1E91 5A 323 1E92 7A 323 1E93
5A 331 1E94 7A 331 1E95 68 331 1E96 74 308 1E97 77 30A 1E98 79 30A 1E99 17F 307 1E9B 41 323 1EA0
61 323 1EA1 41 309 1EA2 61 309 1EA3 C2 301 1EA4 E2 301 1EA5 C2 300 1EA6 E2 300 1EA7 C2 309 1EA8
E2 309 1EA9 C2 303 1EAA E2 303 1EAB 1EA0 302 1EAC 1EA1 302 1EAD 102 301 1EAE 103 301 1EAF
102 300 1EB0 103 300 1EB1 102 309 1EB2 103 309 1EB3 102 303 1EB4 103 303 1EB5 1EA0 306 1EB6
1EA1 306 1EB7 45 323 1EB8 65 323 1EB9 45 309 1EBA 65 309 1EBB 45 303 1EBC 65 303 1EBD
CA 301 1EBE EA 301 1EBF CA 300 1EC0 EA 300 1EC1 CA 309 1EC2 EA 309 1EC3 CA 303 1EC4 EA 303 1EC5
1EB8 302 1EC6 1EB9 302 1EC7 49 309 1EC8 69 309 1EC9 49 323 1ECA 69 323 1ECB 4F 323 1ECC
6F 323 1ECD 4F 309 1ECE 6F 309 1ECF D4 301 1ED0 F4 301 1ED1 D4 300 1ED2 F4 300 1ED3 D4 309 1ED4
F4 309 1ED5 D4 303 1ED6 F4 303 1ED7 1ECC 302 1ED8 1ECD 302 1ED9 1A0 301 1EDA 1A1 301 1EDB
1A0 300 1EDC 1A1 300 1EDD 1A0 309 1EDE 1A1 309 1EDF 1A0 303 1EE0 1A1 303 1EE1 1A0 323 1EE2
1A1 323 1EE3 55 323 1EE4 75 323 1EE5 55 309 1EE6 75 309 1EE7 1AF 301 1EE8 1B0 301 1EE9
1AF 300 1EEA 1B0 300 1EEB 1AF 309 1EEC 1B0 309 1EED 1AF 303 1EEE 1B0 303 1EEF 1AF 323 1EF0
1B0 323 1EF1 59 300 1EF2 79 300 1EF3 59 323 1EF4 79 323 1EF5 59 309 1EF6 79 309 1EF7 59 303 1EF8
79 303 1EF9 3B1 313 1F00 3B1 314 1F01 1F00 300 1F02 1F01 300 1F03 1F00 301 1F04 1F01 301 1F05
1F00 342 1F06 1F01 342 1F07 391 313 1F08 391 314 1F09 1F08 300 1F0A 1F09 300 1F0B 1F08 301 1F0C
1F09 301 1F0D 1F08 342 1F0E 1F09 342 1F0F 3B5 313 1F10 3B5 314 1F11 1F10 300 1F12 1F11 300 1F13
1F10 301 1F14 1F11 301 1F15 395 313 1F18 395 314 1F19 1F18 300 1F1A 1F19 300 1F1B 1F18 301 1F1C
1F19 301 1F1D 3B7 313 1F20 3B7 314 1F21 1F20 300 1F22 1F21 300 1F23 1F20 301 1F24 1F21 301 1F25
1F20 342 1F26 1F21 342 1F27 397 313 1F28 397 314 1F29 1F28 300 1F2A 1F29 300 1F2B 1F28 301 1F2C
1F29 301 1F2D 1F28 342 1F2E 1F29 342 1F2F 3B9 313 1F30 3B9 314 1F31 1F30 300 1F32 1F31 300 1F33
1F30 301 1F34 1F31 301 1F35 1F30 342 1F36 1F31 342 1F37 399 313 1F38 399 314 1F39 1F38 300 1F3A
1F39 300 1F3B 1F38 301 1F3C 1F39 301 1F3D 1F38 342 1F3E 1F39 342 1F3F 3BF 313 1F40 3BF 314 1F41
1F40 300 1F42 1F41 300 1F43 1F40 301 1F44 1F41 301 1F45 39F 313 1F48 39F 314 1F49 1F48 300 1F4A
1F49 300 1F4B 1F48 301 1F4C 1F49 301 1F4D 3C5 313 1F50 3C5 314 1F51 1F50 300 1F52 1F51 300 1F53
1F50 301 1F54 1F51 301 1F55 1F50 342 1F56 1F51 342 1F57 3A5 314 1F59 1F59 300 1F5B 1F59 301 1F5D
1F59 342 1F5F 3C9 313 1F60 3C9 314 1F61 1F60 300 1F62 1F61 300 1F63 1F60 301 1F64 1F61 301 1F65
1F60 342 1F66 1F61 342 1F67 3A9 313 1F68 3A9 314 1F69 1F68 300 1F6A 1F69 300 1F6B 1F68 301 1F6C
1F69 301 1F6D 1F68 342 1F6E 1F69 342 1F6F 3B1 300 1F70 3B5 300 1F72 3B7 300 1F74 3B9 300 1F76
3BF 300 1F78 3C5 300 1F7A 3C9 300 1F7C 1F00 345 1F80 1F01 345 1F81 1F02 345 1F82 1F03 345 1F83
1F04 345 1F84 1F05 345 1F85 1F06 345 1F86 1F07 345 1F87 1F08 345 1F88 1F09 345 1F89
1F0A 345 1F8A 1F0B 345 1F8B 1F0C 345 1F8C 1F0D 345 1F8D 1F0E 345 1F8E 1F0F 345 1F8F
1F20 345 1F90 1F21 345 1F91 1F22 345 1F92 1F23 345 1F93 1F24 345 1F94 1F25 345 1F95
1F26 345 1F96 1F27 345 1F97 1F28 345 1F98 1F29 345 1F99 1F2A 345 1F9A 1F2B 345 1F9B
1F2C 345 1F9C 1F2D 345 1F9D 1F2E 345 1F9E 1F2F 345 1F9F 1F60 345 1FA0 1F61 345 1FA1
1F62 345 1FA2 1F63 345 1FA3 1F64 345 1FA4 1F65 345 1FA5 1F66 345 1FA6 1F67 345 1FA7
1F68 345 1FA8 1F69 345 1FA9 1F6A 345 1FAA 1F6B 345 1FAB 1F6C 345 1FAC 1F6D 345 1FAD
1F6E 345 1FAE 1F6F 345 1FAF 3B1 306 1FB0 3B1 304 1FB1 1F70 345 1FB2 3B1 345 1FB3 3AC 345 1FB4
3B1 342 1FB6 1FB6 345 1FB7 391 306 1FB8 391 304 1FB9 391 300 1FBA 391 345 1FBC A8 342 1FC1
1F74 345 1FC2 3B7 345 1FC3 3AE 345 1FC4 3B7 342 1FC6 1FC6 345 1FC7 395 300 1FC8 397 300 1FCA
397 345 1FCC 1FBF 300 1FCD 1FBF 301 1FCE 1FBF 342 1FCF 3B9 306 1FD0 3B9 304 1FD1 3CA 300 1FD2
3B9 342 1FD6 3CA 342 1FD7 399 306 1FD8 399 304 1FD9 399 300 1FDA 1FFE 300 1FDD 1FFE 301 1FDE
1FFE 342 1FDF 3C5 306 1FE0 3C5 304 1FE1 3CB 300 1FE2 3C1 313 1FE4 3C1 314 1FE5 3C5 342 1FE6
3CB 342 1FE7 3A5 306 1FE8 3A5 304 1FE9 3A5 300 1FEA 3A1 314 1FEC A8 300 1FED 1F7C 345 1FF2
3C9 345 1FF3 3CE 345 1FF4 3C9 342 1FF6 1FF6 345 1FF7 39F 300 1FF8 3A9 300 1FFA 3A9 345 1FFC
2190 338 219A 2192 338 219B 2194 338 21AE 21D0 338 21CD 21D4 338 21CE 21D2 338 21CF
2203 338 2204 2208 338 2209 220B 338 220C 2223 338 2224 2225 338 2226 223C 338 2241
2243 338 2244 2245 338 2247 2248 338 2249 3D 338 2260 2261 338 2262 224D 338 226D 3C 338 226E
3E 338 226F 2264 338 2270 2265 338 2271 2272 338 2274 2273 338 2275 2276 338 2278 2277 338 2279
227A 338 2280 227B 338 2281 2282 338 2284 2283 338 2285 2286 338 2288 2287 338 2289
22A2 338 22AC 22A8 338 22AD 22A9 338 22AE 22AB 338 22AF 227C 338 22E0 227D 338 22E1
2291 338 22E2 2292 338 22E3 22B2 338 22EA 22B3 338 22EB 22B4 338 22EC 22B5 338 22ED
304B 3099 304C 304D 3099 304E 304F 3099 3050 3051 3099 3052 3053 3099 3054 3055 3099 3056
3057 3099 3058 3059 3099 305A 305B 3099 305C 305D 3099 305E 305F 3099 3060 3061 3099 3062
3064 3099 3065 3066 3099 3067 3068 3099 3069 306F 3099 3070 306F 309A 3071 3072 3099 3073
3072 309A 3074 3075 3099 3076 3075 309A 3077 3078 3099 3079 3078 309A 307A 307B 3099 307C
307B 309A 307D 3046 3099 3094 309D 3099 309E 30AB 3099 30AC 30AD 3099 30AE 30AF 3099 30B0
30B1 3099 30B2 30B3 3099 30B4 30B5 3099 30B6 30B7 3099 30B8 30B9 3099 30BA 30BB 3099 30BC
30BD 3099 30BE 30BF 3099 30C0 30C1 3099 30C2 30C4 3099 30C5 30C6 3099 30C7 30C8 3099 30C9
30CF 3099 30D0 30CF 309A 30D1 30D2 3099 30D3 30D2 309A 30D4 30D5 3099 30D6 30D5 309A 30D7
30D8 3099 30D9 30D8 309A 30DA 30DB 3099 30DC 30DB 309A 30DD 30A6 3099 30F4 30EF 3099 30F7
30F0 3099 30F8 30F1 3099 30F9 30F2 3099 30FA 30FD 3099 30FE 11099 110BA 1109A 1109B 110BA 1109C
110A5 110BA 110AB 11131 11127 1112E 11132 11127 1112F 11347 1133E 1134B 11347 11357 1134C
114B9 114BA 114BB 114B9 114B0 114BC 114B9 114BD 114BE 115B8 115AF 115BA 115B9 115AF 115BB
11935 11930 11938"

/-- Looks a pair up in the table of compositions. -/
def lookupPair? (a b : Nat) : List Nat → Option Nat
  | x :: y :: z :: rest => if x = a ∧ y = b then some z else lookupPair? a b rest
  | _ => none

/-- What two code points compose to. -/
def composePair? (a b : Nat) : Option Nat :=
  if 0x1100 ≤ a ∧ a < 0x1113 ∧ 0x1161 ≤ b ∧ b < 0x1176 then
    some (0xAC00 + ((a - 0x1100) * 21 + (b - 0x1161)) * 28)
  else if 0xAC00 ≤ a ∧ a ≤ 0xD7A3 ∧ (a - 0xAC00) % 28 = 0 ∧ 0x11A8 ≤ b ∧ b < 0x11C3 then
    some (a + (b - 0x11A7))
  else lookupPair? a b compositions

/-- `composeFrom starter kept t` reads on after the character `starter` and the marks `kept` that did
not compose with it, nearest first. -/
def composeFrom (starter : Nat) (kept : List Nat) : List Nat → List Nat
  | [] => starter :: kept.reverse
  | x :: rest =>
    let blocked := match kept with
      | [] => false
      | k :: _ => combiningClass k = 0 || combiningClass x ≤ combiningClass k
    match if blocked then none else composePair? starter x with
    | some y => composeFrom y kept rest
    | none =>
      if combiningClass x = 0 then starter :: kept.reverse ++ composeFrom x [] rest
      else composeFrom starter (x :: kept) rest

/-- The composition of a decomposed text. -/
def compose : List Nat → List Nat
  | [] => []
  | x :: rest => if combiningClass x = 0 then composeFrom x [] rest else x :: compose rest

/-- The common form of all spellings of a name. -/
def foldName (t : List Char) : List Char :=
  if t.all (·.toNat < 128) then t
  else (compose (decompose (t.map (·.toNat)))).map Char.ofNat

end CodeFlow.Text
