import NftExchange.Text.Table

/-!
# Marks

A mark is written together with the character before it. Most marks are nonspacing: they are drawn
over or under that character and take no place of their own. The combining class of a mark says in
which order marks on the same character stand; a class of zero keeps its place. The tables are
those of Unicode 17, with the class as the value of a row.
-/

namespace NftExchange.Text

/-- The nonspacing marks, enclosing ones among them. -/
def nonspacingMarks : List Row := rows [
  "300 14 e6;315 0 e8;316 3 dc;31a 0 e8;31b 0 d8;31c 4 dc;321 1 ca;323 3 dc;327 1 ca;329 a dc;",
  "334 4 1;339 3 dc;33d 7 e6;345 0 f0;346 0 e6;347 2 dc;34a 2 e6;34d 1 dc;34f 0 0;350 2 e6;",
  "353 3 dc;357 0 e6;358 0 e8;359 1 dc;35b 0 e6;35c 0 e9;35d 1 ea;35f 0 e9;360 1 ea;362 0 e9;",
  "363 c e6;483 4 e6;488 1 0;591 0 dc;592 3 e6;596 0 dc;597 2 e6;59a 0 de;59b 0 dc;59c 5 e6;",
  "5a2 5 dc;5a8 1 e6;5aa 0 dc;5ab 1 e6;5ad 0 de;5ae 0 e4;5af 0 e6;5b0 0 a;5b1 0 b;5b2 0 c;5b3 0 d;",
  "5b4 0 e;5b5 0 f;5b6 0 10;5b7 0 11;5b8 0 12;5b9 1 13;5bb 0 14;5bc 0 15;5bd 0 16;5bf 0 17;",
  "5c1 0 18;5c2 0 19;5c4 0 e6;5c5 0 dc;5c7 0 12;610 7 e6;618 0 1e;619 0 1f;61a 0 20;64b 0 1b;",
  "64c 0 1c;64d 0 1d;64e 0 1e;64f 0 1f;650 0 20;651 0 21;652 0 22;653 1 e6;655 1 dc;657 4 e6;",
  "65c 0 dc;65d 1 e6;65f 0 dc;670 0 23;6d6 6 e6;6df 3 e6;6e3 0 dc;6e4 0 e6;6e7 1 e6;6ea 0 dc;",
  "6eb 1 e6;6ed 0 dc;711 0 24;730 0 e6;731 0 dc;732 1 e6;734 0 dc;735 1 e6;737 2 dc;73a 0 e6;",
  "73b 1 dc;73d 0 e6;73e 0 dc;73f 2 e6;742 0 dc;743 0 e6;744 0 dc;745 0 e6;746 0 dc;747 0 e6;",
  "748 0 dc;749 1 e6;7a6 a 0;7eb 6 e6;7f2 0 dc;7f3 0 e6;7fd 0 dc;816 3 e6;81b 8 e6;825 2 e6;",
  "829 4 e6;859 2 dc;897 1 e6;899 2 dc;89c 3 e6;8ca 4 e6;8cf 4 dc;8d4 d e6;8e3 0 dc;8e4 1 e6;",
  "8e6 0 dc;8e7 1 e6;8e9 0 dc;8ea 2 e6;8ed 2 dc;8f0 0 1b;8f1 0 1c;8f2 0 1d;8f3 2 e6;8f6 0 dc;",
  "8f7 1 e6;8f9 1 dc;8fb 4 e6;900 2 0;93a 0 0;93c 0 7;941 7 0;94d 0 9;951 0 e6;952 0 dc;953 1 e6;",
  "955 2 0;962 1 0;981 0 0;9bc 0 7;9c1 3 0;9cd 0 9;9e2 1 0;9fe 0 e6;a01 1 0;a3c 0 7;a41 1 0;",
  "a47 1 0;a4b 1 0;a4d 0 9;a51 0 0;a70 1 0;a75 0 0;a81 1 0;abc 0 7;ac1 4 0;ac7 1 0;acd 0 9;",
  "ae2 1 0;afa 5 0;b01 0 0;b3c 0 7;b3f 0 0;b41 3 0;b4d 0 9;b55 1 0;b62 1 0;b82 0 0;bc0 0 0;",
  "bcd 0 9;c00 0 0;c04 0 0;c3c 0 7;c3e 2 0;c46 2 0;c4a 2 0;c4d 0 9;c55 0 54;c56 0 5b;c62 1 0;",
  "c81 0 0;cbc 0 7;cbf 0 0;cc6 0 0;ccc 0 0;ccd 0 9;ce2 1 0;d00 1 0;d3b 1 9;d41 3 0;d4d 0 9;",
  "d62 1 0;d81 0 0;dca 0 9;dd2 2 0;dd6 0 0;e31 0 0;e34 3 0;e38 1 67;e3a 0 9;e47 0 0;e48 3 6b;",
  "e4c 2 0;eb1 0 0;eb4 3 0;eb8 1 76;eba 0 9;ebb 1 0;ec8 3 7a;ecc 2 0;f18 1 dc;f35 0 dc;f37 0 dc;",
  "f39 0 d8;f71 0 81;f72 0 82;f73 0 0;f74 0 84;f75 4 0;f7a 3 82;f7e 0 0;f80 0 82;f81 0 0;f82 1 e6;",
  "f84 0 9;f86 1 e6;f8d a 0;f99 23 0;fc6 0 dc;102d 3 0;1032 4 0;1037 0 7;1039 1 9;103d 1 0;",
  "1058 1 0;105e 2 0;1071 3 0;1082 0 0;1085 1 0;108d 0 dc;109d 0 0;135d 2 e6;1712 1 0;1714 0 9;",
  "1732 1 0;1752 1 0;1772 1 0;17b4 1 0;17b7 6 0;17c6 0 0;17c9 8 0;17d2 0 9;17d3 0 0;17dd 0 e6;",
  "180b 2 0;180f 0 0;1885 1 0;18a9 0 e4;1920 2 0;1927 1 0;1932 0 0;1939 0 de;193a 0 e6;193b 0 dc;",
  "1a17 0 e6;1a18 0 dc;1a1b 0 0;1a56 0 0;1a58 6 0;1a60 0 9;1a62 0 0;1a65 7 0;1a73 1 0;1a75 7 e6;",
  "1a7f 0 dc;1ab0 4 e6;1ab5 5 dc;1abb 1 e6;1abd 0 dc;1abe 0 0;1abf 1 dc;1ac1 1 e6;1ac3 1 dc;",
  "1ac5 4 e6;1aca 0 dc;1acb 11 e6;1add 0 dc;1ae0 5 e6;1ae6 0 dc;1ae7 3 e6;1aeb 0 ea;1b00 3 0;",
  "1b34 0 7;1b36 4 0;1b3c 0 0;1b42 0 0;1b6b 0 e6;1b6c 0 dc;1b6d 6 e6;1b80 1 0;1ba2 3 0;1ba8 1 0;",
  "1bab 0 9;1bac 1 0;1be6 0 7;1be8 1 0;1bed 0 0;1bef 2 0;1c2c 7 0;1c36 0 0;1c37 0 7;1cd0 2 e6;",
  "1cd4 0 1;1cd5 4 dc;1cda 1 e6;1cdc 3 dc;1ce0 0 e6;1ce2 6 1;1ced 0 dc;1cf4 0 e6;1cf8 1 e6;",
  "1dc0 1 e6;1dc2 0 dc;1dc3 6 e6;1dca 0 dc;1dcb 1 e6;1dcd 0 ea;1dce 0 d6;1dcf 0 dc;1dd0 0 ca;",
  "1dd1 24 e6;1df6 0 e8;1df7 1 e4;1df9 0 dc;1dfa 0 da;1dfb 0 e6;1dfc 0 e9;1dfd 0 dc;1dfe 0 e6;",
  "1dff 0 dc;20d0 1 e6;20d2 1 1;20d4 3 e6;20d8 2 1;20db 1 e6;20dd 3 0;20e1 0 e6;20e2 2 0;20e5 1 1;",
  "20e7 0 e6;20e8 0 dc;20e9 0 e6;20ea 1 1;20ec 3 dc;20f0 0 e6;2cef 2 e6;2d7f 0 9;2de0 1f e6;",
  "302a 0 da;302b 0 e4;302c 0 e8;302d 0 de;3099 1 8;a66f 0 e6;a670 2 0;a674 9 e6;a69e 1 e6;",
  "a6f0 1 e6;a802 0 0;a806 0 9;a80b 0 0;a825 1 0;a82c 0 9;a8c4 0 9;a8c5 0 0;a8e0 11 e6;a8ff 0 0;",
  "a926 4 0;a92b 2 dc;a947 a 0;a980 2 0;a9b3 0 7;a9b6 3 0;a9bc 1 0;a9e5 0 0;aa29 5 0;aa31 1 0;",
  "aa35 1 0;aa43 0 0;aa4c 0 0;aa7c 0 0;aab0 0 e6;aab2 1 e6;aab4 0 dc;aab7 1 e6;aabe 1 e6;",
  "aac1 0 e6;aaec 1 0;aaf6 0 9;abe5 0 0;abe8 0 0;abed 0 9;fb1e 0 1a;fe00 f 0;fe20 6 e6;fe27 6 dc;",
  "fe2e 1 e6;101fd 0 dc;102e0 0 dc;10376 4 e6;10a01 2 0;10a05 1 0;10a0c 0 0;10a0d 0 dc;10a0e 0 0;",
  "10a0f 0 e6;10a38 0 e6;10a39 0 1;10a3a 0 dc;10a3f 0 9;10ae5 0 e6;10ae6 0 dc;10d24 3 e6;",
  "10d69 4 e6;10eab 1 e6;10efa 1 dc;10efc 0 0;10efd 2 dc;10f46 1 dc;10f48 2 e6;10f4b 0 dc;",
  "10f4c 0 e6;10f4d 3 dc;10f82 0 e6;10f83 0 dc;10f84 0 e6;10f85 0 dc;11001 0 0;11038 d 0;",
  "11046 0 9;11070 0 9;11073 1 0;1107f 0 9;11080 1 0;110b3 3 0;110b9 0 9;110ba 0 7;110c2 0 0;",
  "11100 2 e6;11127 4 0;1112d 5 0;11133 1 9;11173 0 7;11180 1 0;111b6 8 0;111c9 0 0;111ca 0 7;",
  "111cb 1 0;111cf 0 0;1122f 2 0;11234 0 0;11236 0 7;11237 0 0;1123e 0 0;11241 0 0;112df 0 0;",
  "112e3 5 0;112e9 0 7;112ea 0 9;11300 1 0;1133b 1 7;11340 0 0;11366 6 e6;11370 4 e6;113bb 5 0;",
  "113ce 0 9;113d0 0 9;113d2 0 0;113e1 1 0;11438 7 0;11442 0 9;11443 1 0;11446 0 7;1145e 0 e6;",
  "114b3 5 0;114ba 0 0;114bf 1 0;114c2 0 9;114c3 0 7;115b2 3 0;115bc 1 0;115bf 0 9;115c0 0 7;",
  "115dc 1 0;11633 7 0;1163d 0 0;1163f 0 9;11640 0 0;116ab 0 0;116ad 0 0;116b0 5 0;116b7 0 7;",
  "1171d 0 0;1171f 0 0;11722 3 0;11727 3 0;1172b 0 9;1182f 8 0;11839 0 9;1183a 0 7;1193b 1 0;",
  "1193e 0 9;11943 0 7;119d4 3 0;119da 1 0;119e0 0 9;11a01 9 0;11a33 0 0;11a34 0 9;11a35 3 0;",
  "11a3b 3 0;11a47 0 9;11a51 5 0;11a59 2 0;11a8a c 0;11a98 0 0;11a99 0 9;11b60 0 0;11b62 2 0;",
  "11b66 0 0;11c30 6 0;11c38 5 0;11c3f 0 9;11c92 15 0;11caa 6 0;11cb2 1 0;11cb5 1 0;11d31 5 0;",
  "11d3a 0 0;11d3c 1 0;11d3f 2 0;11d42 0 7;11d43 0 0;11d44 1 9;11d47 0 0;11d90 1 0;11d95 0 0;",
  "11d97 0 9;11ef3 1 0;11f00 1 0;11f36 4 0;11f40 0 0;11f42 0 9;11f5a 0 0;13440 0 0;13447 e 0;",
  "1611e b 0;1612d 1 0;1612f 0 9;16af0 4 1;16b30 6 e6;16f4f 0 0;16f8f 3 0;16fe4 0 0;1bc9d 0 0;",
  "1bc9e 0 1;1cf00 2d 0;1cf30 16 0;1d167 2 1;1d17b 7 dc;1d185 4 e6;1d18a 1 dc;1d1aa 3 e6;",
  "1d242 2 e6;1da00 36 0;1da3b 31 0;1da75 0 0;1da84 0 0;1da9b 4 0;1daa1 e 0;1e000 6 e6;",
  "1e008 10 e6;1e01b 6 e6;1e023 1 e6;1e026 4 e6;1e08f 0 e6;1e130 6 e6;1e2ae 0 e6;1e2ec 3 e6;",
  "1e4ec 1 e8;1e4ee 0 dc;1e4ef 0 e6;1e5ee 0 e6;1e5ef 0 dc;1e6e3 0 e6;1e6e6 0 e6;1e6ee 1 e6;",
  "1e6f5 0 e6;1e8d0 6 dc;1e944 5 e6;1e94a 0 7;e0100 ef 0;"]

/-- The marks that take a place of their own. -/
def spacingMarks : List Row := rows [
  "903 0 0;93b 0 0;93e 2 0;949 3 0;94e 1 0;982 1 0;9be 2 0;9c7 1 0;9cb 1 0;9d7 0 0;a03 0 0;",
  "a3e 2 0;a83 0 0;abe 2 0;ac9 0 0;acb 1 0;b02 1 0;b3e 0 0;b40 0 0;b47 1 0;b4b 1 0;b57 0 0;",
  "bbe 1 0;bc1 1 0;bc6 2 0;bca 2 0;bd7 0 0;c01 2 0;c41 3 0;c82 1 0;cbe 0 0;cc0 4 0;cc7 1 0;",
  "cca 1 0;cd5 1 0;cf3 0 0;d02 1 0;d3e 2 0;d46 2 0;d4a 2 0;d57 0 0;d82 1 0;dcf 2 0;dd8 7 0;",
  "df2 1 0;f3e 1 0;f7f 0 0;102b 1 0;1031 0 0;1038 0 0;103b 1 0;1056 1 0;1062 2 0;1067 6 0;",
  "1083 1 0;1087 5 0;108f 0 0;109a 2 0;1715 0 9;1734 0 9;17b6 0 0;17be 7 0;17c7 1 0;1923 3 0;",
  "1929 2 0;1930 1 0;1933 5 0;1a19 1 0;1a55 0 0;1a57 0 0;1a61 0 0;1a63 1 0;1a6d 5 0;1b04 0 0;",
  "1b35 0 0;1b3b 0 0;1b3d 4 0;1b43 0 0;1b44 0 9;1b82 0 0;1ba1 0 0;1ba6 1 0;1baa 0 9;1be7 0 0;",
  "1bea 2 0;1bee 0 0;1bf2 1 9;1c24 7 0;1c34 1 0;1ce1 0 0;1cf7 0 0;302e 1 e0;a823 1 0;a827 0 0;",
  "a880 1 0;a8b4 f 0;a952 0 0;a953 0 9;a983 0 0;a9b4 1 0;a9ba 1 0;a9be 1 0;a9c0 0 9;aa2f 1 0;",
  "aa33 1 0;aa4d 0 0;aa7b 0 0;aa7d 0 0;aaeb 0 0;aaee 1 0;aaf5 0 0;abe3 1 0;abe6 1 0;abe9 1 0;",
  "abec 0 0;11000 0 0;11002 0 0;11082 0 0;110b0 2 0;110b7 1 0;1112c 0 0;11145 1 0;11182 0 0;",
  "111b3 2 0;111bf 0 0;111c0 0 9;111ce 0 0;1122c 2 0;11232 1 0;11235 0 9;112e0 2 0;11302 1 0;",
  "1133e 1 0;11341 3 0;11347 1 0;1134b 1 0;1134d 0 9;11357 0 0;11362 1 0;113b8 2 0;113c2 0 0;",
  "113c5 0 0;113c7 3 0;113cc 1 0;113cf 0 9;11435 2 0;11440 1 0;11445 0 0;114b0 2 0;114b9 0 0;",
  "114bb 3 0;114c1 0 0;115af 2 0;115b8 3 0;115be 0 0;11630 2 0;1163b 1 0;1163e 0 0;116ac 0 0;",
  "116ae 1 0;116b6 0 9;1171e 0 0;11720 1 0;11726 0 0;1182c 2 0;11838 0 0;11930 5 0;11937 1 0;",
  "1193d 0 9;11940 0 0;11942 0 0;119d1 2 0;119dc 3 0;119e4 0 0;11a39 0 0;11a57 1 0;11a97 0 0;",
  "11b61 0 0;11b65 0 0;11b67 0 0;11c2f 0 0;11c3e 0 0;11ca9 0 0;11cb1 0 0;11cb4 0 0;11d8a 4 0;",
  "11d93 1 0;11d96 0 0;11ef5 1 0;11f03 0 0;11f34 1 0;11f3e 1 0;11f41 0 9;1612a 2 0;16f51 36 0;",
  "16ff0 1 6;1d165 1 d8;1d16d 0 e2;1d16e 4 d8;"]

/-- The code point of the first mark. -/
def firstMark : Nat := 0x300

/-- Whether a character is a nonspacing mark. -/
def isNonspacing (c : Char) : Bool := firstMark ≤ c.toNat && (row? nonspacingMarks c).isSome

/-- Whether a character is a mark. -/
def isMark (c : Char) : Bool :=
  isNonspacing c || (firstMark ≤ c.toNat && (row? spacingMarks c).isSome)

/-- The combining class of a character. -/
def combiningClass (c : Char) : Nat :=
  if c.toNat < firstMark then 0
  else
    match (row? nonspacingMarks c).or (row? spacingMarks c) with
    | some row => row.values.headD 0
    | none => 0

/-- The combining class of the marks that take the vowel from a letter. -/
def viramaClass : Nat := 9

end NftExchange.Text
