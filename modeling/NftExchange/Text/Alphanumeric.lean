import NftExchange.Text.Table

/-!
# Letters and numbers

The characters with the property `Alphabetic` and the numbers, of every script. The table is that
of Unicode 17.
-/

namespace NftExchange.Text

/-- The letters and numbers beyond ASCII. -/
def alphanumerics : List Row := rows [
  "aa 0;b2 1;b5 0;b9 1;bc 2;c0 16;d8 1e;f8 1c9;2c6 b;2e0 4;2ec 0;2ee 0;345 0;363 11;376 1;37a 3;",
  "37f 0;386 0;388 2;38c 0;38e 13;3a3 52;3f7 8a;48a a5;531 25;559 0;560 28;5b0 d;5bf 0;5c1 1;",
  "5c4 1;5c7 0;5d0 1a;5ef 3;610 a;620 37;659 10;66e 65;6d5 7;6e1 7;6ed f;6ff 0;710 2f;74d 64;",
  "7c0 2a;7f4 1;7fa 0;800 17;81a 12;840 18;860 a;870 17;889 6;897 0;8a0 29;8d4 b;8e3 6;8f0 4b;",
  "93d f;94e 2;955 e;966 9;971 12;985 7;98f 1;993 15;9aa 6;9b2 0;9b6 3;9bd 7;9c7 1;9cb 1;9ce 0;",
  "9d7 0;9dc 1;9df 4;9e6 b;9f4 5;9fc 0;a01 2;a05 5;a0f 1;a13 15;a2a 6;a32 1;a35 1;a38 1;a3e 4;",
  "a47 1;a4b 1;a51 0;a59 3;a5e 0;a66 f;a81 2;a85 8;a8f 2;a93 15;aaa 6;ab2 1;ab5 4;abd 8;ac7 2;",
  "acb 1;ad0 0;ae0 3;ae6 9;af9 3;b01 2;b05 7;b0f 1;b13 15;b2a 6;b32 1;b35 4;b3d 7;b47 1;b4b 1;",
  "b56 1;b5c 1;b5f 4;b66 9;b71 6;b82 1;b85 5;b8e 2;b92 3;b99 1;b9c 0;b9e 1;ba3 1;ba8 2;bae b;",
  "bbe 4;bc6 2;bca 2;bd0 0;bd7 0;be6 c;c00 c;c0e 2;c12 16;c2a f;c3d 7;c46 2;c4a 2;c55 1;c58 2;",
  "c5c 1;c60 3;c66 9;c78 6;c80 3;c85 7;c8e 2;c92 16;caa 9;cb5 4;cbd 7;cc6 2;cca 2;cd5 1;cdc 2;",
  "ce0 3;ce6 9;cf1 2;d00 c;d0e 2;d12 28;d3d 7;d46 2;d4a 2;d4e 0;d54 f;d66 12;d7a 5;d81 2;d85 11;",
  "d9a 17;db3 8;dbd 0;dc0 6;dcf 5;dd6 0;dd8 7;de6 9;df2 1;e01 39;e40 6;e4d 0;e50 9;e81 1;e84 0;",
  "e86 4;e8c 17;ea5 0;ea7 12;ebb 2;ec0 4;ec6 0;ecd 0;ed0 9;edc 3;f00 0;f20 13;f40 7;f49 23;f71 12;",
  "f88 f;f99 23;1000 36;1038 0;103b e;1050 4d;10a0 25;10c7 0;10cd 0;10d0 2a;10fc 14c;124a 3;",
  "1250 6;1258 0;125a 3;1260 28;128a 3;1290 20;12b2 3;12b8 6;12c0 0;12c2 3;12c8 e;12d8 38;1312 3;",
  "1318 42;1369 13;1380 f;13a0 55;13f8 5;1401 26b;166f 10;1681 19;16a0 4a;16ee a;1700 13;171f 14;",
  "1740 13;1760 c;176e 2;1772 1;1780 33;17b6 12;17d7 0;17dc 0;17e0 9;17f0 9;1810 9;1820 58;",
  "1880 2a;18b0 45;1900 1e;1920 b;1930 8;1946 27;1970 4;1980 2b;19b0 19;19d0 a;1a00 1b;1a20 3e;",
  "1a61 13;1a80 9;1a90 9;1aa7 0;1abf 1;1acc 2;1b00 33;1b35 e;1b45 7;1b50 9;1b80 29;1bac 39;1be7 a;",
  "1c00 36;1c40 9;1c4d 30;1c80 a;1c90 2a;1cbd 2;1ce9 3;1cee 5;1cf5 1;1cfa 0;1d00 bf;1dd3 21;",
  "1e00 115;1f18 5;1f20 25;1f48 5;1f50 7;1f59 0;1f5b 0;1f5d 0;1f5f 1e;1f80 34;1fb6 6;1fbe 0;",
  "1fc2 2;1fc6 6;1fd0 3;1fd6 5;1fe0 c;1ff2 2;1ff6 6;2070 1;2074 5;207f a;2090 c;2102 0;2107 0;",
  "210a 9;2115 0;2119 4;2124 0;2126 0;2128 0;212a 3;212f a;213c 3;2145 4;214e 0;2150 39;2460 3b;",
  "24b6 49;2776 1d;2c00 e4;2ceb 3;2cf2 1;2cfd 0;2d00 25;2d27 0;2d2d 0;2d30 37;2d6f 0;2d80 16;",
  "2da0 6;2da8 6;2db0 6;2db8 6;2dc0 6;2dc8 6;2dd0 6;2dd8 6;2de0 1f;2e2f 0;3005 2;3021 8;3031 4;",
  "3038 4;3041 55;309d 2;30a1 59;30fc 3;3105 2a;3131 5d;3192 3;31a0 1f;31f0 f;3220 9;3248 7;",
  "3251 e;3280 9;32b1 e;3400 19bf;4e00 568c;a4d0 2d;a500 10c;a610 1b;a640 2e;a674 7;a67f 70;",
  "a717 8;a722 66;a78b 51;a7f1 14;a807 20;a830 5;a840 33;a880 43;a8c5 0;a8d0 9;a8f2 5;a8fb 0;",
  "a8fd 2d;a930 22;a960 1c;a980 32;a9b4 b;a9cf a;a9e0 1e;aa00 36;aa40 d;aa50 9;aa60 16;aa7a 44;",
  "aac0 0;aac2 0;aadb 2;aae0 f;aaf2 3;ab01 5;ab09 5;ab11 5;ab20 6;ab28 6;ab30 2a;ab5c d;ab70 7a;",
  "abf0 9;ac00 2ba3;d7b0 16;d7cb 30;f900 16d;fa70 69;fb00 6;fb13 4;fb1d b;fb2a c;fb38 4;fb3e 0;",
  "fb40 1;fb43 1;fb46 6b;fbd3 16a;fd50 3f;fd92 35;fdf0 b;fe70 4;fe76 86;ff10 9;ff21 19;ff41 19;",
  "ff66 58;ffc2 5;ffca 5;ffd2 5;ffda 2;10000 b;1000d 19;10028 12;1003c 1;1003f e;10050 d;10080 7a;",
  "10107 2c;10140 38;1018a 1;10280 1c;102a0 30;102e1 1a;10300 23;1032d 1d;10350 2a;10380 1d;",
  "103a0 23;103c8 7;103d1 4;10400 9d;104a0 9;104b0 23;104d8 23;10500 27;10530 33;10570 a;1057c e;",
  "1058c 6;10594 1;10597 a;105a3 e;105b3 6;105bb 1;105c0 33;10600 136;10740 15;10760 7;10780 5;",
  "10787 29;107b2 8;10800 5;10808 0;1080a 2b;10837 1;1083c 0;1083f 16;10858 1e;10879 25;108a7 8;",
  "108e0 12;108f4 1;108fb 20;10920 19;10940 19;10980 37;109bc 13;109d2 31;10a05 1;10a0c 7;10a15 2;",
  "10a19 1c;10a40 8;10a60 1e;10a80 1f;10ac0 7;10ac9 1b;10aeb 4;10b00 35;10b40 15;10b58 1a;",
  "10b78 19;10ba9 6;10c00 48;10c80 32;10cc0 32;10cfa 2d;10d30 9;10d40 25;10d69 0;10d6f 16;",
  "10e60 1e;10e80 29;10eab 1;10eb0 1;10ec2 5;10efa 2;10f00 27;10f30 15;10f51 3;10f70 11;10fb0 1b;",
  "10fe0 16;11000 45;11052 1d;11071 4;11080 38;110c2 0;110d0 18;110f0 9;11100 32;11136 9;11144 3;",
  "11150 22;11176 0;11180 3f;111c1 3;111ce c;111dc 0;111e1 13;11200 11;11213 21;11237 0;1123e 3;",
  "11280 6;11288 0;1128a 3;1128f e;1129f 9;112b0 38;112f0 9;11300 3;11305 7;1130f 1;11313 15;",
  "1132a 6;11332 1;11335 4;1133d 7;11347 1;1134b 1;11350 0;11357 0;1135d 6;11380 9;1138b 0;",
  "1138e 0;11390 25;113b7 9;113c2 0;113c5 0;113c7 3;113cc 1;113d1 0;113d3 0;11400 41;11443 2;",
  "11447 3;11450 9;1145f 2;11480 41;114c4 1;114c7 0;114d0 9;11580 35;115b8 6;115d8 5;11600 3e;",
  "11640 0;11644 0;11650 9;11680 35;116b8 0;116c0 9;116d0 13;11700 1a;1171d d;11730 b;11740 6;",
  "11800 38;118a0 52;118ff 7;11909 0;1190c 7;11915 1;11918 1d;11937 1;1193b 1;1193f 3;11950 9;",
  "119a0 7;119aa 2d;119da 5;119e1 0;119e3 1;11a00 32;11a35 9;11a50 47;11a9d 0;11ab0 48;11b60 7;",
  "11bc0 20;11bf0 9;11c00 8;11c0a 2c;11c38 6;11c40 0;11c50 1c;11c72 1d;11c92 15;11ca9 d;11d00 6;",
  "11d08 1;11d0b 2b;11d3a 0;11d3c 1;11d3f 2;11d43 0;11d46 1;11d50 9;11d60 5;11d67 1;11d6a 24;",
  "11d90 1;11d93 3;11d98 0;11da0 9;11db0 2b;11de0 9;11ee0 16;11f00 10;11f12 28;11f3e 2;11f50 9;",
  "11fb0 0;11fc0 14;12000 399;12400 6e;12480 c3;12f90 60;13000 42f;13441 5;13460 f9a;14400 246;",
  "16100 2e;16130 9;16800 238;16a40 1e;16a60 9;16a70 4e;16ac0 9;16ad0 1d;16b00 2f;16b40 3;16b50 9;",
  "16b5b 6;16b63 14;16b7d 12;16d40 2c;16d70 9;16e40 56;16ea0 18;16ebb 18;16f00 4a;16f4f 38;",
  "16f8f 10;16fe0 1;16fe3 0;16ff0 6;17000 1cd5;18cff 1f;18d80 72;1aff0 3;1aff5 6;1affd 1;",
  "1b000 122;1b132 0;1b150 2;1b155 0;1b164 3;1b170 18b;1bc00 6a;1bc70 c;1bc80 8;1bc90 9;1bc9e 0;",
  "1ccf0 9;1d2c0 13;1d2e0 13;1d360 18;1d400 54;1d456 46;1d49e 1;1d4a2 0;1d4a5 1;1d4a9 3;1d4ae b;",
  "1d4bb 0;1d4bd 6;1d4c5 40;1d507 3;1d50d 7;1d516 6;1d51e 1b;1d53b 3;1d540 4;1d546 0;1d54a 6;",
  "1d552 153;1d6a8 18;1d6c2 18;1d6dc 1e;1d6fc 18;1d716 1e;1d736 18;1d750 1e;1d770 18;1d78a 1e;",
  "1d7aa 18;1d7c4 7;1d7ce 31;1df00 1e;1df25 5;1e000 6;1e008 10;1e01b 6;1e023 1;1e026 4;1e030 3d;",
  "1e08f 0;1e100 2c;1e137 6;1e140 9;1e14e 0;1e290 1d;1e2c0 2b;1e2f0 9;1e4d0 1b;1e4f0 9;1e5d0 1d;",
  "1e5f0 a;1e6c0 1e;1e6e0 15;1e6fe 1;1e7e0 6;1e7e8 3;1e7ed 1;1e7f0 e;1e800 c4;1e8c7 8;1e900 43;",
  "1e947 0;1e94b 0;1e950 9;1ec71 3a;1ecad 2;1ecb1 3;1ed01 2c;1ed2f e;1ee00 3;1ee05 1a;1ee21 1;",
  "1ee24 0;1ee27 0;1ee29 9;1ee34 3;1ee39 0;1ee3b 0;1ee42 0;1ee47 0;1ee49 0;1ee4b 0;1ee4d 2;",
  "1ee51 1;1ee54 0;1ee57 0;1ee59 0;1ee5b 0;1ee5d 0;1ee5f 0;1ee61 1;1ee64 0;1ee67 3;1ee6c 6;",
  "1ee74 3;1ee79 3;1ee7e 0;1ee80 9;1ee8b 10;1eea1 2;1eea5 4;1eeab 10;1f100 c;1f130 19;1f150 19;",
  "1f170 19;1fbf0 9;20000 a6df;2a700 111d;2b820 168d;2ceb0 1d30;2ebf0 26d;2f800 21d;30000 134a;",
  "31350 2129;"]

/-- Whether a character is a letter or a number. -/
def isAlphanumeric (c : Char) : Bool :=
  c.isAlphanum || (0x80 ≤ c.toNat && (row? alphanumerics c).isSome)

end NftExchange.Text
