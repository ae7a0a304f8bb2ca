import NftExchange.Text.Table

/-!
# Characters of host names

A host name may be written with characters that only stand for others: capitals, wide forms,
ligatures, numbers in circles. `mapped?` says which characters a character stands for: itself,
others, or none at all. Unassigned characters and those without a use in names are refused. The
tables are those of Unicode 17.
-/

namespace NftExchange.Host

open Text (Row rows row?)

/-- The characters beyond ASCII that are refused. -/
def refused : List Row := rows [
  "80 1f;378 1;380 3;38b 0;38d 0;3a2 0;530 0;557 1;58b 1;590 0;5c8 7;5eb 3;5f5 10;61c 0;6dd 0;",
  "70e 1;74b 1;7b2 d;7fb 1;82e 1;83f 0;85c 1;85f 0;86b 4;890 6;8e2 0;984 0;98d 1;991 1;9a9 0;",
  "9b1 0;9b3 2;9ba 1;9c5 1;9c9 1;9cf 7;9d8 3;9de 0;9e4 1;9ff 1;a04 0;a0b 3;a11 1;a29 0;a31 0;",
  "a34 0;a37 0;a3a 1;a3d 0;a43 3;a49 1;a4e 2;a52 6;a5d 0;a5f 6;a77 9;a84 0;a8e 0;a92 0;aa9 0;",
  "ab1 0;ab4 0;aba 1;ac6 0;aca 0;ace 1;ad1 e;ae4 1;af2 6;b00 0;b04 0;b0d 1;b11 1;b29 0;b31 0;",
  "b34 0;b3a 1;b45 1;b49 1;b4e 6;b58 3;b5e 0;b64 1;b78 9;b84 0;b8b 2;b91 0;b96 2;b9b 0;b9d 0;",
  "ba0 2;ba5 2;bab 2;bba 3;bc3 2;bc9 0;bce 1;bd1 5;bd8 d;bfb 4;c0d 0;c11 0;c29 0;c3a 1;c45 0;",
  "c49 0;c4e 6;c57 0;c5b 0;c5e 1;c64 1;c70 6;c8d 0;c91 0;ca9 0;cb4 0;cba 1;cc5 0;cc9 0;cce 6;",
  "cd7 4;cdf 0;ce4 1;cf0 0;cf4 b;d0d 0;d11 0;d45 0;d49 0;d50 3;d64 1;d80 0;d84 0;d97 2;db2 0;",
  "dbc 0;dbe 1;dc7 2;dcb 3;dd5 0;dd7 0;de0 5;df0 1;df5 b;e3b 3;e5c 24;e83 0;e85 0;e8b 0;ea4 0;",
  "ea6 0;ebe 1;ec5 0;ec7 0;ecf 0;eda 1;ee0 1f;f48 0;f6d 3;f98 0;fbd 0;fcd 0;fdb 24;10c6 0;10c8 4;",
  "10ce 1;1249 0;124e 1;1257 0;1259 0;125e 1;1289 0;128e 1;12b1 0;12b6 1;12bf 0;12c1 0;12c6 1;",
  "12d7 0;1311 0;1316 1;135b 1;137d 2;139a 5;13f6 1;13fe 1;1680 0;169d 2;16f9 6;1716 8;1737 8;",
  "1754 b;176d 0;1771 0;1774 b;17de 1;17ea 5;17fa 5;181a 5;1879 6;18ab 4;18f6 9;191f 0;192c 3;",
  "193c 3;1941 2;196e 1;1975 a;19ac 3;19ca 5;19db 2;1a1c 1;1a5f 0;1a7d 1;1a8a 5;1a9a 5;1aae 1;",
  "1ade 1;1aec 13;1b4d 0;1bf4 7;1c38 2;1c4a 2;1c8b 4;1cbb 1;1cc8 7;1cfb 4;1f16 1;1f1e 1;1f46 1;",
  "1f4e 1;1f58 0;1f5a 0;1f5c 0;1f5e 0;1f7e 1;1fb5 0;1fc5 0;1fd4 1;1fdc 0;1ff0 1;1ff5 0;1fff 0;",
  "200e 1;2024 2;2028 6;2065 4;2072 1;208f 0;209d 2;20c2 d;20f1 e;218c 3;242a 15;244b 14;2488 13;",
  "2b74 1;2cf4 4;2d26 0;2d28 4;2d2e 1;2d68 6;2d71 d;2d97 8;2da7 0;2daf 0;2db7 0;2dbf 0;2dc7 0;",
  "2dcf 0;2dd7 0;2ddf 0;2e5e 21;2e9a 0;2ef4 b;2fd6 29;3040 0;3097 1;3100 4;3130 0;318f 0;31e6 9;",
  "321f 0;33c2 0;33c7 0;33d8 0;a48d 2;a4c7 8;a62c 13;a6f8 7;a7dd 13;a82d 2;a83a 5;a878 7;a8c6 7;",
  "a8da 5;a954 a;a97d 2;a9ce 0;a9da 3;a9ff 0;aa37 8;aa4e 1;aa5a 1;aac3 17;aaf7 9;ab07 1;ab0f 1;",
  "ab17 8;ab27 0;ab2f 0;ab6c 3;abee 1;abfa 5;d7a4 b;d7c7 3;d7fc 2103;fa6e 1;fada 25;fb07 b;fb18 4;",
  "fb37 0;fb3d 0;fb3f 0;fb42 0;fb45 0;fdd0 1f;fe12 0;fe19 6;fe30 0;fe52 1;fe67 0;fe6c 3;fe75 0;",
  "fefd 1;ff00 0;ffbf 2;ffc8 1;ffd0 1;ffd8 1;ffdd 2;ffe7 0;ffef 10;1000c 0;10027 0;1003b 0;",
  "1003e 0;1004e 1;1005e 21;100fb 4;10103 3;10134 2;1018f 0;1019d 2;101a1 2e;101fe 81;1029d 2;",
  "102d1 e;102fc 3;10324 8;1034b 4;1037b 4;1039e 0;103c4 3;103d6 29;1049e 1;104aa 5;104d4 3;",
  "104fc 3;10528 7;10564 a;1057b 0;1058b 0;10593 0;10596 0;105a2 0;105b2 0;105ba 0;105bd 2;",
  "105f4 b;10737 8;10756 9;10768 17;10786 0;107b1 0;107bb 44;10806 1;10809 0;10836 0;10839 2;",
  "1083d 1;10856 0;1089f 7;108b0 2f;108f3 0;108f6 4;1091c 2;1093a 4;1095a 25;109b8 3;109d0 1;",
  "10a04 0;10a07 4;10a14 0;10a18 0;10a36 1;10a3b 3;10a49 6;10a59 6;10aa0 1f;10ae7 3;10af7 8;",
  "10b36 2;10b56 1;10b73 4;10b92 6;10b9d b;10bb0 4f;10c49 36;10cb3 c;10cf3 6;10d28 7;10d3a 5;",
  "10d66 2;10d86 7;10d90 cf;10e7f 0;10eaa 0;10eae 1;10eb2 f;10ec8 7;10ed9 20;10f28 7;10f5a 15;",
  "10f8a 25;10fcc 13;10ff7 8;1104e 3;11076 8;110bd 0;110c3 c;110e9 6;110fa 5;11135 0;11148 7;",
  "11177 8;111e0 0;111f5 a;11212 0;11242 3d;11287 0;11289 0;1128e 0;1129e 0;112aa 5;112eb 4;",
  "112fa 5;11304 0;1130d 1;11311 1;11329 0;11331 0;11334 0;1133a 0;11345 1;11349 1;1134e 1;",
  "11351 5;11358 4;11364 1;1136d 2;11375 a;1138a 0;1138c 1;1138f 0;113b6 0;113c1 0;113c3 1;",
  "113c6 0;113cb 0;113d6 0;113d9 7;113e3 1c;1145c 0;11462 1d;114c8 7;114da a5;115b6 1;115de 21;",
  "11645 a;1165a 5;1166d 12;116ba 5;116ca 5;116e4 1b;1171b 1;1172c 3;11747 b8;1183c 63;118f3 b;",
  "11907 1;1190a 1;11914 0;11917 0;11936 0;11939 1;11947 8;1195a 45;119a8 1;119d8 1;119e5 1a;",
  "11a48 7;11aa3 c;11af9 6;11b0a 55;11b68 57;11be2 d;11bfa 5;11c09 0;11c37 0;11c46 9;11c6d 2;",
  "11c90 1;11ca8 0;11cb7 48;11d07 0;11d0a 0;11d37 2;11d3b 0;11d3e 0;11d48 7;11d5a 5;11d66 0;",
  "11d69 0;11d8f 0;11d92 0;11d99 6;11daa 5;11ddc 3;11dea f5;11ef9 6;11f11 0;11f3b 2;11f5b 54;",
  "11fb1 e;11ff2 c;1239a 65;1246f 0;12475 a;12544 a4b;12ff3 c;13430 f;13456 9;143fb 4;14647 1ab8;",
  "1613a 6c5;16a39 6;16a5f 0;16a6a 3;16abf 0;16aca 5;16aee 1;16af6 9;16b46 9;16b5a 0;16b62 0;",
  "16b78 4;16b90 1af;16d7a c5;16e9b 4;16eb9 1;16ed4 2b;16f4b 3;16f88 6;16fa0 3f;16fe5 a;16ff7 8;",
  "18cd6 28;18d1f 60;18df3 21fc;1aff4 0;1affc 0;1afff 0;1b123 e;1b133 1c;1b153 1;1b156 d;1b168 7;",
  "1b2fc 903;1bc6b 4;1bc7d 2;1bc89 6;1bc9a 1;1bca4 f5b;1ccfd 2;1ceb4 5;1ced1 e;1cef1 e;1cf2e 1;",
  "1cf47 8;1cfc4 3b;1d0f6 9;1d127 1;1d1eb 14;1d246 79;1d2d4 b;1d2f4 b;1d357 8;1d379 86;1d455 0;",
  "1d49d 0;1d4a0 1;1d4a3 1;1d4a7 1;1d4ad 0;1d4ba 0;1d4bc 0;1d4c4 0;1d506 0;1d50b 1;1d515 0;",
  "1d51d 0;1d53a 0;1d53f 0;1d545 0;1d547 2;1d551 0;1d6a6 1;1d7cc 1;1da8c e;1daa0 0;1dab0 44f;",
  "1df1f 5;1df2b d4;1e007 0;1e019 1;1e022 0;1e025 0;1e02b 4;1e06e 20;1e090 6f;1e12d 2;1e13e 1;",
  "1e14a 3;1e150 13f;1e2af 10;1e2fa 4;1e300 1cf;1e4fa d5;1e5fb 3;1e600 bf;1e6df 0;1e6f6 7;",
  "1e700 df;1e7e7 0;1e7ec 0;1e7ef 0;1e7ff 0;1e8c5 1;1e8d7 28;1e94c 3;1e95a 3;1e960 310;1ecb5 4b;",
  "1ed3e c1;1ee04 0;1ee20 0;1ee23 0;1ee25 1;1ee28 0;1ee33 0;1ee38 0;1ee3a 0;1ee3c 5;1ee43 3;",
  "1ee48 0;1ee4a 0;1ee4c 0;1ee50 0;1ee53 0;1ee55 1;1ee58 0;1ee5a 0;1ee5c 0;1ee5e 0;1ee60 0;",
  "1ee63 0;1ee65 1;1ee6b 0;1ee73 0;1ee78 0;1ee7d 0;1ee7f 0;1ee8a 0;1ee9c 4;1eea4 0;1eeaa 0;",
  "1eebc 33;1eef2 10d;1f02c 3;1f094 b;1f0af 1;1f0c0 0;1f0d0 0;1f0f6 a;1f1ae 37;1f203 c;1f23c 3;",
  "1f249 6;1f252 d;1f266 99;1f6d9 2;1f6ed 2;1f6fd 2;1f7da 5;1f7ec 3;1f7f1 e;1f80c 3;1f848 7;",
  "1f85a 5;1f888 7;1f8ae 1;1f8bc 3;1f8c2 d;1f8d9 26;1fa58 7;1fa6e 1;1fa7d 2;1fa8b 2;1fac7 0;",
  "1fac9 3;1fadd 1;1faeb 3;1faf9 6;1fb93 0;1fbfb 404;2a6e0 1f;2b81e 1;2ceae 1;2ebe1 e;2ee5e 9a1;",
  "2fa1e 5e1;3134b 4;3347a acc85;e01f0 2fe0f;"]

/-- Runs of characters that stand for a run of others; the value is the first of these. -/
def shifted : List Row := rows [
  "b2 1 32;c0 16 e0;d8 6 f8;189 1 256;1b1 1 28a;340 1 300;388 2 3ad;38e 1 3cd;391 10 3b1;",
  "3a3 8 3c3;3fd 2 37b;400 f 450;410 1f 430;531 25 561;10a0 25 2d00;13f8 5 13f0;1c83 1 441;",
  "1c90 2a 10d0;1cbd 2 10fd;1d30 1 64;1d33 7 67;1d40 1 74;1d44 1 250;1d48 1 64;1d4b 1 25b;",
  "1d54 1 1d16;1d57 1 74;1d5d 2 3b2;1d60 1 3c6;1d64 1 75;1d66 1 3b2;1d69 1 3c6;1da4 2 268;",
  "1dae 3 272;1db3 1 282;1db6 1 289;1db9 1 28b;1dbc 2 290;1f08 7 1f00;1f18 5 1f10;1f28 7 1f20;",
  "1f38 7 1f30;1f48 5 1f40;1f68 7 1f60;1fb8 1 1fb0;1fd8 1 1fd0;1fe8 1 1fe0;2074 5 34;207d 1 28;",
  "2080 9 30;208d 1 28;2096 3 6b;209b 1 73;210a 1 67;2119 2 70;212c 1 62;2135 3 5d0;2148 1 69;",
  "216d 1 63;217d 1 63;2329 1 3008;2460 8 31;24b6 19 61;24d0 19 61;2c00 2f 2c30;2c7e 1 23f;",
  "3039 1 5344;3131 1 1100;3135 1 11ac;3137 2 1103;313a 5 11b0;3141 2 1106;3145 9 1109;",
  "314f 14 1161;3165 1 1114;3167 1 11c7;3171 1 111d;3174 1 1122;3178 4 112b;3182 1 11f1;",
  "3184 2 1157;3187 1 1184;318a 1 1191;3261 1 1102;3263 2 1105;3267 1 110b;3269 4 110e;",
  "32d4 1 30aa;32e4 5 30ca;32ee 4 30de;32f5 5 30e8;32fb 3 30ef;ab70 4f 13a0;fa52 1 798d;",
  "fb22 1 5d3;fb24 2 5db;fe13 1 3a;fe17 1 3016;fe35 1 28;fe39 1 3014;fe3b 1 3010;fe3d 1 300a;",
  "fe3f 1 3008;fe41 3 300c;fe59 1 28;fe5d 1 3014;fe61 1 2a;fe69 1 24;fe80 1 621;fe82 1 622;",
  "fe84 1 623;fe86 1 624;fe88 1 625;ff01 1f 21;ff21 19 61;ff3b 23 5b;ff5f 1 2985;ff62 1 300c;",
  "ff75 1 30aa;ff85 5 30ca;ff8f 4 30de;ff96 5 30e8;ff9e 1 3099;ffa1 1 1100;ffa5 1 11ac;",
  "ffa7 2 1103;ffaa 5 11b0;ffb1 2 1106;ffb5 9 1109;ffc2 5 1161;ffca 5 1167;ffd2 5 116d;",
  "ffda 2 1173;ffe0 1 a2;ffe9 3 2190;10400 27 10428;104b0 23 104d8;10570 a 10597;1057c e 105a3;",
  "1058c 6 105b3;10594 1 105bb;10781 1 2d0;1078b 1 256;10799 1 2aa;107a3 1 276;107a8 1 27d;",
  "107b3 1 2a1;107b6 2 1c0;10c80 32 10cc0;10d50 15 10d70;118a0 1f 118c0;16e40 1f 16e60;",
  "16ea0 18 16ebb;1ccd6 19 61;1ccf0 9 30;1d400 19 61;1d41a 19 61;1d434 19 61;1d44e 6 61;",
  "1d456 11 69;1d468 19 61;1d482 19 61;1d49e 1 63;1d4a5 1 6a;1d4a9 3 6e;1d4ae 7 73;1d4b6 3 61;",
  "1d4bd 6 68;1d4c5 a 70;1d4d0 19 61;1d4ea 19 61;1d504 1 61;1d507 3 64;1d50d 7 6a;1d516 6 73;",
  "1d51e 19 61;1d538 1 61;1d53b 3 64;1d540 4 69;1d54a 6 73;1d552 19 61;1d56c 19 61;1d586 19 61;",
  "1d5a0 19 61;1d5ba 19 61;1d5d4 19 61;1d5ee 19 61;1d608 19 61;1d622 19 61;1d63c 19 61;",
  "1d656 19 61;1d670 19 61;1d68a 19 61;1d6a8 10 3b1;1d6ba 6 3c3;1d6c2 10 3b1;1d6d5 5 3c4;",
  "1d6e2 10 3b1;1d6f4 6 3c3;1d6fc 10 3b1;1d70f 5 3c4;1d71c 10 3b1;1d72e 6 3c3;1d736 10 3b1;",
  "1d749 5 3c4;1d756 10 3b1;1d768 6 3c3;1d770 10 3b1;1d783 5 3c4;1d790 10 3b1;1d7a2 6 3c3;",
  "1d7aa 10 3b1;1d7bd 5 3c4;1d7ce 9 30;1d7d8 9 30;1d7e2 9 30;1d7ec 9 30;1d7f6 9 30;1e030 8 430;",
  "1e039 2 43a;1e03c a 43e;1e048 1 44d;1e051 8 430;1e05a 1 43a;1e05c 1 43e;1e05f 5 443;",
  "1e065 1 44a;1e900 21 1e922;1ee00 1 627;1ee0a 3 643;1ee15 1 62a;1ee2a 3 643;1ee35 1 62a;",
  "1ee6c 1 645;1ee75 1 62a;1ee80 1 627;1ee84 1 647;1ee8b 2 644;1ee95 1 62a;1eeab 2 644;",
  "1eeb5 1 62a;1f130 19 61;1fbf0 9 30;2f829 1 5305;2f881 1 5de1;2f8f5 1 6bba;2f945 1 771e;",
  "2f9e8 1 92d7;"]

/-- Runs of letters by turns large and small; a large one stands for the next. -/
def paired : List Row := rows [
  "100 2f;134 3;139 5;141 7;14a 2d;179 5;182 3;1a0 5;1b3 3;1cd f;1de 11;1f8 27;222 11;246 9;370 3;",
  "3d8 17;460 21;48a 35;4c1 d;4d0 5f;1e00 95;1ea0 5f;2c67 5;2c80 63;2ceb 3;a640 2d;a680 1b;a722 d;",
  "a732 3d;a779 3;a77e 9;a790 3;a796 13;a7b4 f;a7c7 3;a7cc f;"]

/-- Runs of characters that all stand for the values, if there are any. -/
def replaced : List Row := rows [
  "a0 0 20;a8 0 20 308;aa 0 61;ad 0;af 0 20 304;b4 0 20 301;b5 0 3bc;b8 0 20 327;b9 0 31;ba 0 6f;",
  "bc 0 31 2044 34;bd 0 31 2044 32;be 0 33 2044 34;130 0 69 307;132 1 69 6a;13f 1 6c b7;",
  "149 0 2bc 6e;178 0 ff;17f 0 73;181 0 253;186 0 254;187 0 188;18b 0 18c;18e 0 1dd;18f 0 259;",
  "190 0 25b;191 0 192;193 0 260;194 0 263;196 0 269;197 0 268;198 0 199;19c 0 26f;19d 0 272;",
  "19f 0 275;1a6 0 280;1a7 0 1a8;1a9 0 283;1ac 0 1ad;1ae 0 288;1af 0 1b0;1b7 0 292;1b8 0 1b9;",
  "1bc 0 1bd;1c4 2 64 17e;1c7 2 6c 6a;1ca 2 6e 6a;1f1 2 64 7a;1f4 0 1f5;1f6 0 195;1f7 0 1bf;",
  "220 0 19e;23a 0 2c65;23b 0 23c;23d 0 19a;23e 0 2c66;241 0 242;243 0 180;244 0 289;245 0 28c;",
  "2b0 0 68;2b1 0 266;2b2 0 6a;2b3 0 72;2b4 0 279;2b5 0 27b;2b6 0 281;2b7 0 77;2b8 0 79;",
  "2d8 0 20 306;2d9 0 20 307;2da 0 20 30a;2db 0 20 328;2dc 0 20 303;2dd 0 20 30b;2e0 0 263;",
  "2e1 0 6c;2e2 0 73;2e3 0 78;2e4 0 295;343 0 313;344 0 308 301;345 0 3b9;34f 0;374 0 2b9;",
  "376 0 377;37a 0 20 3b9;37e 0 3b;37f 0 3f3;384 0 20 301;385 0 20 308 301;386 0 3ac;387 0 b7;",
  "38c 0 3cc;3cf 0 3d7;3d0 0 3b2;3d1 0 3b8;3d2 0 3c5;3d3 0 3cd;3d4 0 3cb;3d5 0 3c6;3d6 0 3c0;",
  "3f0 0 3ba;3f1 0 3c1;3f2 0 3c3;3f4 0 3b8;3f5 0 3b5;3f7 0 3f8;3f9 0 3c3;3fa 0 3fb;4c0 0 4cf;",
  "587 0 565 582;675 0 627 674;676 0 648 674;677 0 6c7 674;678 0 64a 674;958 0 915 93c;",
  "959 0 916 93c;95a 0 917 93c;95b 0 91c 93c;95c 0 921 93c;95d 0 922 93c;95e 0 92b 93c;",
  "95f 0 92f 93c;9dc 0 9a1 9bc;9dd 0 9a2 9bc;9df 0 9af 9bc;a33 0 a32 a3c;a36 0 a38 a3c;",
  "a59 0 a16 a3c;a5a 0 a17 a3c;a5b 0 a1c a3c;a5e 0 a2b a3c;b5c 0 b21 b3c;b5d 0 b22 b3c;",
  "e33 0 e4d e32;eb3 0 ecd eb2;edc 0 eab e99;edd 0 eab ea1;f0c 0 f0b;f43 0 f42 fb7;f4d 0 f4c fb7;",
  "f52 0 f51 fb7;f57 0 f56 fb7;f5c 0 f5b fb7;f69 0 f40 fb5;f73 0 f71 f72;f75 0 f71 f74;",
  "f76 0 fb2 f80;f77 0 fb2 f71 f80;f78 0 fb3 f80;f79 0 fb3 f71 f80;f81 0 f71 f80;f93 0 f92 fb7;",
  "f9d 0 f9c fb7;fa2 0 fa1 fb7;fa7 0 fa6 fb7;fac 0 fab fb7;fb9 0 f90 fb5;10c7 0 2d27;10cd 0 2d2d;",
  "10fc 0 10dc;115f 1;17b4 1;180b 4;1c80 0 432;1c81 0 434;1c82 0 43e;1c85 0 442;1c86 0 44a;",
  "1c87 0 463;1c88 0 a64b;1c89 0 1c8a;1d2c 0 61;1d2d 0 e6;1d2e 0 62;1d32 0 1dd;1d3c 0 6f;",
  "1d3d 0 223;1d3e 0 70;1d3f 0 72;1d42 0 77;1d43 0 61;1d46 0 1d02;1d47 0 62;1d4a 0 259;1d4d 0 67;",
  "1d4f 0 6b;1d50 0 6d;1d51 0 14b;1d52 0 6f;1d53 0 254;1d56 0 70;1d59 0 1d1d;1d5a 0 26f;1d5b 0 76;",
  "1d5c 0 1d25;1d62 0 69;1d63 0 72;1d68 0 3c1;1d78 0 43d;1d9b 0 252;1d9c 0 63;1d9d 0 255;",
  "1d9e 0 f0;1d9f 0 25c;1da0 0 66;1da1 0 25f;1da2 0 261;1da3 0 265;1da7 0 1d7b;1da8 0 29d;",
  "1da9 0 26d;1daa 0 1d85;1dab 0 29f;1dac 0 271;1dad 0 270;1db2 0 278;1db5 0 1ab;1db8 0 1d1c;",
  "1dbb 0 7a;1dbf 0 3b8;1e9a 0 61 2be;1e9b 0 1e61;1e9e 0 df;1f59 0 1f51;1f5b 0 1f53;1f5d 0 1f55;",
  "1f5f 0 1f57;1f71 0 3ac;1f73 0 3ad;1f75 0 3ae;1f77 0 3af;1f79 0 3cc;1f7b 0 3cd;1f7d 0 3ce;",
  "1f80 0 1f00 3b9;1f81 0 1f01 3b9;1f82 0 1f02 3b9;1f83 0 1f03 3b9;1f84 0 1f04 3b9;",
  "1f85 0 1f05 3b9;1f86 0 1f06 3b9;1f87 0 1f07 3b9;1f88 0 1f00 3b9;1f89 0 1f01 3b9;",
  "1f8a 0 1f02 3b9;1f8b 0 1f03 3b9;1f8c 0 1f04 3b9;1f8d 0 1f05 3b9;1f8e 0 1f06 3b9;",
  "1f8f 0 1f07 3b9;1f90 0 1f20 3b9;1f91 0 1f21 3b9;1f92 0 1f22 3b9;1f93 0 1f23 3b9;",
  "1f94 0 1f24 3b9;1f95 0 1f25 3b9;1f96 0 1f26 3b9;1f97 0 1f27 3b9;1f98 0 1f20 3b9;",
  "1f99 0 1f21 3b9;1f9a 0 1f22 3b9;1f9b 0 1f23 3b9;1f9c 0 1f24 3b9;1f9d 0 1f25 3b9;",
  "1f9e 0 1f26 3b9;1f9f 0 1f27 3b9;1fa0 0 1f60 3b9;1fa1 0 1f61 3b9;1fa2 0 1f62 3b9;",
  "1fa3 0 1f63 3b9;1fa4 0 1f64 3b9;1fa5 0 1f65 3b9;1fa6 0 1f66 3b9;1fa7 0 1f67 3b9;",
  "1fa8 0 1f60 3b9;1fa9 0 1f61 3b9;1faa 0 1f62 3b9;1fab 0 1f63 3b9;1fac 0 1f64 3b9;",
  "1fad 0 1f65 3b9;1fae 0 1f66 3b9;1faf 0 1f67 3b9;1fb2 0 1f70 3b9;1fb3 0 3b1 3b9;1fb4 0 3ac 3b9;",
  "1fb7 0 1fb6 3b9;1fba 0 1f70;1fbb 0 3ac;1fbc 0 3b1 3b9;1fbd 0 20 313;1fbe 0 3b9;1fbf 0 20 313;",
  "1fc0 0 20 342;1fc1 0 20 308 342;1fc2 0 1f74 3b9;1fc3 0 3b7 3b9;1fc4 0 3ae 3b9;1fc7 0 1fc6 3b9;",
  "1fc8 0 1f72;1fc9 0 3ad;1fca 0 1f74;1fcb 0 3ae;1fcc 0 3b7 3b9;1fcd 0 20 313 300;",
  "1fce 0 20 313 301;1fcf 0 20 313 342;1fd3 0 390;1fda 0 1f76;1fdb 0 3af;1fdd 0 20 314 300;",
  "1fde 0 20 314 301;1fdf 0 20 314 342;1fe3 0 3b0;1fea 0 1f7a;1feb 0 3cd;1fec 0 1fe5;",
  "1fed 0 20 308 300;1fee 0 20 308 301;1fef 0 60;1ff2 0 1f7c 3b9;1ff3 0 3c9 3b9;1ff4 0 3ce 3b9;",
  "1ff7 0 1ff6 3b9;1ff8 0 1f78;1ff9 0 3cc;1ffa 0 1f7c;1ffb 0 3ce;1ffc 0 3c9 3b9;1ffd 0 20 301;",
  "1ffe 0 20 314;2000 a 20;200b 0;2011 0 2010;2017 0 20 333;202f 0 20;2033 0 2032 2032;",
  "2034 0 2032 2032 2032;2036 0 2035 2035;2037 0 2035 2035 2035;203c 0 21 21;203e 0 20 305;",
  "2047 0 3f 3f;2048 0 3f 21;2049 0 21 3f;2057 0 2032 2032 2032 2032;205f 0 20;2060 4;206a 5;",
  "2070 0 30;2071 0 69;207a 0 2b;207b 0 2212;207c 0 3d;207f 0 6e;208a 0 2b;208b 0 2212;208c 0 3d;",
  "2090 0 61;2091 0 65;2092 0 6f;2093 0 78;2094 0 259;2095 0 68;209a 0 70;20a8 0 72 73;",
  "2100 0 61 2f 63;2101 0 61 2f 73;2102 0 63;2103 0 b0 63;2105 0 63 2f 6f;2106 0 63 2f 75;",
  "2107 0 25b;2109 0 b0 66;210c 2 68;210f 0 127;2110 1 69;2112 1 6c;2115 0 6e;2116 0 6e 6f;",
  "211c 1 72;2120 0 73 6d;2121 0 74 65 6c;2122 0 74 6d;2124 0 7a;2126 0 3c9;2128 0 7a;212a 0 6b;",
  "212b 0 e5;212f 1 65;2131 0 66;2132 0 214e;2133 0 6d;2134 0 6f;2139 0 69;213b 0 66 61 78;",
  "213c 0 3c0;213d 1 3b3;213f 0 3c0;2140 0 2211;2145 1 64;2147 0 65;2150 0 31 2044 37;",
  "2151 0 31 2044 39;2152 0 31 2044 31 30;2153 0 31 2044 33;2154 0 32 2044 33;2155 0 31 2044 35;",
  "2156 0 32 2044 35;2157 0 33 2044 35;2158 0 34 2044 35;2159 0 31 2044 36;215a 0 35 2044 36;",
  "215b 0 31 2044 38;215c 0 33 2044 38;215d 0 35 2044 38;215e 0 37 2044 38;215f 0 31 2044;",
  "2160 0 69;2161 0 69 69;2162 0 69 69 69;2163 0 69 76;2164 0 76;2165 0 76 69;2166 0 76 69 69;",
  "2167 0 76 69 69 69;2168 0 69 78;2169 0 78;216a 0 78 69;216b 0 78 69 69;216c 0 6c;216f 0 6d;",
  "2170 0 69;2171 0 69 69;2172 0 69 69 69;2173 0 69 76;2174 0 76;2175 0 76 69;2176 0 76 69 69;",
  "2177 0 76 69 69 69;2178 0 69 78;2179 0 78;217a 0 78 69;217b 0 78 69 69;217c 0 6c;217f 0 6d;",
  "2183 0 2184;2189 0 30 2044 33;222c 0 222b 222b;222d 0 222b 222b 222b;222f 0 222e 222e;",
  "2230 0 222e 222e 222e;2469 0 31 30;246a 0 31 31;246b 0 31 32;246c 0 31 33;246d 0 31 34;",
  "246e 0 31 35;246f 0 31 36;2470 0 31 37;2471 0 31 38;2472 0 31 39;2473 0 32 30;2474 0 28 31 29;",
  "2475 0 28 32 29;2476 0 28 33 29;2477 0 28 34 29;2478 0 28 35 29;2479 0 28 36 29;",
  "247a 0 28 37 29;247b 0 28 38 29;247c 0 28 39 29;247d 0 28 31 30 29;247e 0 28 31 31 29;",
  "247f 0 28 31 32 29;2480 0 28 31 33 29;2481 0 28 31 34 29;2482 0 28 31 35 29;2483 0 28 31 36 29;",
  "2484 0 28 31 37 29;2485 0 28 31 38 29;2486 0 28 31 39 29;2487 0 28 32 30 29;249c 0 28 61 29;",
  "249d 0 28 62 29;249e 0 28 63 29;249f 0 28 64 29;24a0 0 28 65 29;24a1 0 28 66 29;",
  "24a2 0 28 67 29;24a3 0 28 68 29;24a4 0 28 69 29;24a5 0 28 6a 29;24a6 0 28 6b 29;",
  "24a7 0 28 6c 29;24a8 0 28 6d 29;24a9 0 28 6e 29;24aa 0 28 6f 29;24ab 0 28 70 29;",
  "24ac 0 28 71 29;24ad 0 28 72 29;24ae 0 28 73 29;24af 0 28 74 29;24b0 0 28 75 29;",
  "24b1 0 28 76 29;24b2 0 28 77 29;24b3 0 28 78 29;24b4 0 28 79 29;24b5 0 28 7a 29;24ea 0 30;",
  "2a0c 0 222b 222b 222b 222b;2a74 0 3a 3a 3d;2a75 0 3d 3d;2a76 0 3d 3d 3d;2adc 0 2add 338;",
  "2c60 0 2c61;2c62 0 26b;2c63 0 1d7d;2c64 0 27d;2c6d 0 251;2c6e 0 271;2c6f 0 250;2c70 0 252;",
  "2c72 0 2c73;2c75 0 2c76;2c7c 0 6a;2c7d 0 76;2cf2 0 2cf3;2d6f 0 2d61;2e9f 0 6bcd;2ef3 0 9f9f;",
  "2f00 0 4e00;2f01 0 4e28;2f02 0 4e36;2f03 0 4e3f;2f04 0 4e59;2f05 0 4e85;2f06 0 4e8c;",
  "2f07 0 4ea0;2f08 0 4eba;2f09 0 513f;2f0a 0 5165;2f0b 0 516b;2f0c 0 5182;2f0d 0 5196;",
  "2f0e 0 51ab;2f0f 0 51e0;2f10 0 51f5;2f11 0 5200;2f12 0 529b;2f13 0 52f9;2f14 0 5315;",
  "2f15 0 531a;2f16 0 5338;2f17 0 5341;2f18 0 535c;2f19 0 5369;2f1a 0 5382;2f1b 0 53b6;",
  "2f1c 0 53c8;2f1d 0 53e3;2f1e 0 56d7;2f1f 0 571f;2f20 0 58eb;2f21 0 5902;2f22 0 590a;",
  "2f23 0 5915;2f24 0 5927;2f25 0 5973;2f26 0 5b50;2f27 0 5b80;2f28 0 5bf8;2f29 0 5c0f;",
  "2f2a 0 5c22;2f2b 0 5c38;2f2c 0 5c6e;2f2d 0 5c71;2f2e 0 5ddb;2f2f 0 5de5;2f30 0 5df1;",
  "2f31 0 5dfe;2f32 0 5e72;2f33 0 5e7a;2f34 0 5e7f;2f35 0 5ef4;2f36 0 5efe;2f37 0 5f0b;",
  "2f38 0 5f13;2f39 0 5f50;2f3a 0 5f61;2f3b 0 5f73;2f3c 0 5fc3;2f3d 0 6208;2f3e 0 6236;",
  "2f3f 0 624b;2f40 0 652f;2f41 0 6534;2f42 0 6587;2f43 0 6597;2f44 0 65a4;2f45 0 65b9;",
  "2f46 0 65e0;2f47 0 65e5;2f48 0 66f0;2f49 0 6708;2f4a 0 6728;2f4b 0 6b20;2f4c 0 6b62;",
  "2f4d 0 6b79;2f4e 0 6bb3;2f4f 0 6bcb;2f50 0 6bd4;2f51 0 6bdb;2f52 0 6c0f;2f53 0 6c14;",
  "2f54 0 6c34;2f55 0 706b;2f56 0 722a;2f57 0 7236;2f58 0 723b;2f59 0 723f;2f5a 0 7247;",
  "2f5b 0 7259;2f5c 0 725b;2f5d 0 72ac;2f5e 0 7384;2f5f 0 7389;2f60 0 74dc;2f61 0 74e6;",
  "2f62 0 7518;2f63 0 751f;2f64 0 7528;2f65 0 7530;2f66 0 758b;2f67 0 7592;2f68 0 7676;",
  "2f69 0 767d;2f6a 0 76ae;2f6b 0 76bf;2f6c 0 76ee;2f6d 0 77db;2f6e 0 77e2;2f6f 0 77f3;",
  "2f70 0 793a;2f71 0 79b8;2f72 0 79be;2f73 0 7a74;2f74 0 7acb;2f75 0 7af9;2f76 0 7c73;",
  "2f77 0 7cf8;2f78 0 7f36;2f79 0 7f51;2f7a 0 7f8a;2f7b 0 7fbd;2f7c 0 8001;2f7d 0 800c;",
  "2f7e 0 8012;2f7f 0 8033;2f80 0 807f;2f81 0 8089;2f82 0 81e3;2f83 0 81ea;2f84 0 81f3;",
  "2f85 0 81fc;2f86 0 820c;2f87 0 821b;2f88 0 821f;2f89 0 826e;2f8a 0 8272;2f8b 0 8278;",
  "2f8c 0 864d;2f8d 0 866b;2f8e 0 8840;2f8f 0 884c;2f90 0 8863;2f91 0 897e;2f92 0 898b;",
  "2f93 0 89d2;2f94 0 8a00;2f95 0 8c37;2f96 0 8c46;2f97 0 8c55;2f98 0 8c78;2f99 0 8c9d;",
  "2f9a 0 8d64;2f9b 0 8d70;2f9c 0 8db3;2f9d 0 8eab;2f9e 0 8eca;2f9f 0 8f9b;2fa0 0 8fb0;",
  "2fa1 0 8fb5;2fa2 0 9091;2fa3 0 9149;2fa4 0 91c6;2fa5 0 91cc;2fa6 0 91d1;2fa7 0 9577;",
  "2fa8 0 9580;2fa9 0 961c;2faa 0 96b6;2fab 0 96b9;2fac 0 96e8;2fad 0 9751;2fae 0 975e;",
  "2faf 0 9762;2fb0 0 9769;2fb1 0 97cb;2fb2 0 97ed;2fb3 0 97f3;2fb4 0 9801;2fb5 0 98a8;",
  "2fb6 0 98db;2fb7 0 98df;2fb8 0 9996;2fb9 0 9999;2fba 0 99ac;2fbb 0 9aa8;2fbc 0 9ad8;",
  "2fbd 0 9adf;2fbe 0 9b25;2fbf 0 9b2f;2fc0 0 9b32;2fc1 0 9b3c;2fc2 0 9b5a;2fc3 0 9ce5;",
  "2fc4 0 9e75;2fc5 0 9e7f;2fc6 0 9ea5;2fc7 0 9ebb;2fc8 0 9ec3;2fc9 0 9ecd;2fca 0 9ed1;",
  "2fcb 0 9ef9;2fcc 0 9efd;2fcd 0 9f0e;2fce 0 9f13;2fcf 0 9f20;2fd0 0 9f3b;2fd1 0 9f4a;",
  "2fd2 0 9f52;2fd3 0 9f8d;2fd4 0 9f9c;2fd5 0 9fa0;3000 0 20;3002 0 2e;3036 0 3012;3038 0 5341;",
  "309b 0 20 3099;309c 0 20 309a;309f 0 3088 308a;30ff 0 30b3 30c8;3133 0 11aa;3134 0 1102;",
  "3140 0 111a;3144 0 1121;3164 0;3169 0 11cc;316a 0 11ce;316b 0 11d3;316c 0 11d7;316d 0 11d9;",
  "316e 0 111c;316f 0 11dd;3170 0 11df;3173 0 1120;3176 0 1127;3177 0 1129;317d 0 1132;",
  "317e 0 1136;317f 0 1140;3180 0 1147;3181 0 114c;3189 0 1188;318c 0 1194;318d 0 119e;",
  "318e 0 11a1;3192 0 4e00;3193 0 4e8c;3194 0 4e09;3195 0 56db;3196 0 4e0a;3197 0 4e2d;",
  "3198 0 4e0b;3199 0 7532;319a 0 4e59;319b 0 4e19;319c 0 4e01;319d 0 5929;319e 0 5730;",
  "319f 0 4eba;3200 0 28 1100 29;3201 0 28 1102 29;3202 0 28 1103 29;3203 0 28 1105 29;",
  "3204 0 28 1106 29;3205 0 28 1107 29;3206 0 28 1109 29;3207 0 28 110b 29;3208 0 28 110c 29;",
  "3209 0 28 110e 29;320a 0 28 110f 29;320b 0 28 1110 29;320c 0 28 1111 29;320d 0 28 1112 29;",
  "320e 0 28 ac00 29;320f 0 28 b098 29;3210 0 28 b2e4 29;3211 0 28 b77c 29;3212 0 28 b9c8 29;",
  "3213 0 28 bc14 29;3214 0 28 c0ac 29;3215 0 28 c544 29;3216 0 28 c790 29;3217 0 28 cc28 29;",
  "3218 0 28 ce74 29;3219 0 28 d0c0 29;321a 0 28 d30c 29;321b 0 28 d558 29;321c 0 28 c8fc 29;",
  "321d 0 28 c624 c804 29;321e 0 28 c624 d6c4 29;3220 0 28 4e00 29;3221 0 28 4e8c 29;",
  "3222 0 28 4e09 29;3223 0 28 56db 29;3224 0 28 4e94 29;3225 0 28 516d 29;3226 0 28 4e03 29;",
  "3227 0 28 516b 29;3228 0 28 4e5d 29;3229 0 28 5341 29;322a 0 28 6708 29;322b 0 28 706b 29;",
  "322c 0 28 6c34 29;322d 0 28 6728 29;322e 0 28 91d1 29;322f 0 28 571f 29;3230 0 28 65e5 29;",
  "3231 0 28 682a 29;3232 0 28 6709 29;3233 0 28 793e 29;3234 0 28 540d 29;3235 0 28 7279 29;",
  "3236 0 28 8ca1 29;3237 0 28 795d 29;3238 0 28 52b4 29;3239 0 28 4ee3 29;323a 0 28 547c 29;",
  "323b 0 28 5b66 29;323c 0 28 76e3 29;323d 0 28 4f01 29;323e 0 28 8cc7 29;323f 0 28 5354 29;",
  "3240 0 28 796d 29;3241 0 28 4f11 29;3242 0 28 81ea 29;3243 0 28 81f3 29;3244 0 554f;",
  "3245 0 5e7c;3246 0 6587;3247 0 7b8f;3250 0 70 74 65;3251 0 32 31;3252 0 32 32;3253 0 32 33;",
  "3254 0 32 34;3255 0 32 35;3256 0 32 36;3257 0 32 37;3258 0 32 38;3259 0 32 39;325a 0 33 30;",
  "325b 0 33 31;325c 0 33 32;325d 0 33 33;325e 0 33 34;325f 0 33 35;3260 0 1100;3266 0 1109;",
  "326e 0 ac00;326f 0 b098;3270 0 b2e4;3271 0 b77c;3272 0 b9c8;3273 0 bc14;3274 0 c0ac;",
  "3275 0 c544;3276 0 c790;3277 0 cc28;3278 0 ce74;3279 0 d0c0;327a 0 d30c;327b 0 d558;",
  "327c 0 cc38 ace0;327d 0 c8fc c758;327e 0 c6b0;3280 0 4e00;3281 0 4e8c;3282 0 4e09;3283 0 56db;",
  "3284 0 4e94;3285 0 516d;3286 0 4e03;3287 0 516b;3288 0 4e5d;3289 0 5341;328a 0 6708;",
  "328b 0 706b;328c 0 6c34;328d 0 6728;328e 0 91d1;328f 0 571f;3290 0 65e5;3291 0 682a;",
  "3292 0 6709;3293 0 793e;3294 0 540d;3295 0 7279;3296 0 8ca1;3297 0 795d;3298 0 52b4;",
  "3299 0 79d8;329a 0 7537;329b 0 5973;329c 0 9069;329d 0 512a;329e 0 5370;329f 0 6ce8;",
  "32a0 0 9805;32a1 0 4f11;32a2 0 5199;32a3 0 6b63;32a4 0 4e0a;32a5 0 4e2d;32a6 0 4e0b;",
  "32a7 0 5de6;32a8 0 53f3;32a9 0 533b;32aa 0 5b97;32ab 0 5b66;32ac 0 76e3;32ad 0 4f01;",
  "32ae 0 8cc7;32af 0 5354;32b0 0 591c;32b1 0 33 36;32b2 0 33 37;32b3 0 33 38;32b4 0 33 39;",
  "32b5 0 34 30;32b6 0 34 31;32b7 0 34 32;32b8 0 34 33;32b9 0 34 34;32ba 0 34 35;32bb 0 34 36;",
  "32bc 0 34 37;32bd 0 34 38;32be 0 34 39;32bf 0 35 30;32c0 0 31 6708;32c1 0 32 6708;",
  "32c2 0 33 6708;32c3 0 34 6708;32c4 0 35 6708;32c5 0 36 6708;32c6 0 37 6708;32c7 0 38 6708;",
  "32c8 0 39 6708;32c9 0 31 30 6708;32ca 0 31 31 6708;32cb 0 31 32 6708;32cc 0 68 67;",
  "32cd 0 65 72 67;32ce 0 65 76;32cf 0 6c 74 64;32d0 0 30a2;32d1 0 30a4;32d2 0 30a6;32d3 0 30a8;",
  "32d6 0 30ad;32d7 0 30af;32d8 0 30b1;32d9 0 30b3;32da 0 30b5;32db 0 30b7;32dc 0 30b9;",
  "32dd 0 30bb;32de 0 30bd;32df 0 30bf;32e0 0 30c1;32e1 0 30c4;32e2 0 30c6;32e3 0 30c8;",
  "32ea 0 30d2;32eb 0 30d5;32ec 0 30d8;32ed 0 30db;32f3 0 30e4;32f4 0 30e6;32ff 0 4ee4 548c;",
  "3300 0 30a2 30d1 30fc 30c8;3301 0 30a2 30eb 30d5 30a1;3302 0 30a2 30f3 30da 30a2;",
  "3303 0 30a2 30fc 30eb;3304 0 30a4 30cb 30f3 30b0;3305 0 30a4 30f3 30c1;3306 0 30a6 30a9 30f3;",
  "3307 0 30a8 30b9 30af 30fc 30c9;3308 0 30a8 30fc 30ab 30fc;3309 0 30aa 30f3 30b9;",
  "330a 0 30aa 30fc 30e0;330b 0 30ab 30a4 30ea;330c 0 30ab 30e9 30c3 30c8;",
  "330d 0 30ab 30ed 30ea 30fc;330e 0 30ac 30ed 30f3;330f 0 30ac 30f3 30de;3310 0 30ae 30ac;",
  "3311 0 30ae 30cb 30fc;3312 0 30ad 30e5 30ea 30fc;3313 0 30ae 30eb 30c0 30fc;3314 0 30ad 30ed;",
  "3315 0 30ad 30ed 30b0 30e9 30e0;3316 0 30ad 30ed 30e1 30fc 30c8 30eb;",
  "3317 0 30ad 30ed 30ef 30c3 30c8;3318 0 30b0 30e9 30e0;3319 0 30b0 30e9 30e0 30c8 30f3;",
  "331a 0 30af 30eb 30bc 30a4 30ed;331b 0 30af 30ed 30fc 30cd;331c 0 30b1 30fc 30b9;",
  "331d 0 30b3 30eb 30ca;331e 0 30b3 30fc 30dd;331f 0 30b5 30a4 30af 30eb;",
  "3320 0 30b5 30f3 30c1 30fc 30e0;3321 0 30b7 30ea 30f3 30b0;3322 0 30bb 30f3 30c1;",
  "3323 0 30bb 30f3 30c8;3324 0 30c0 30fc 30b9;3325 0 30c7 30b7;3326 0 30c9 30eb;3327 0 30c8 30f3;",
  "3328 0 30ca 30ce;3329 0 30ce 30c3 30c8;332a 0 30cf 30a4 30c4;332b 0 30d1 30fc 30bb 30f3 30c8;",
  "332c 0 30d1 30fc 30c4;332d 0 30d0 30fc 30ec 30eb;332e 0 30d4 30a2 30b9 30c8 30eb;",
  "332f 0 30d4 30af 30eb;3330 0 30d4 30b3;3331 0 30d3 30eb;3332 0 30d5 30a1 30e9 30c3 30c9;",
  "3333 0 30d5 30a3 30fc 30c8;3334 0 30d6 30c3 30b7 30a7 30eb;3335 0 30d5 30e9 30f3;",
  "3336 0 30d8 30af 30bf 30fc 30eb;3337 0 30da 30bd;3338 0 30da 30cb 30d2;3339 0 30d8 30eb 30c4;",
  "333a 0 30da 30f3 30b9;333b 0 30da 30fc 30b8;333c 0 30d9 30fc 30bf;333d 0 30dd 30a4 30f3 30c8;",
  "333e 0 30dc 30eb 30c8;333f 0 30db 30f3;3340 0 30dd 30f3 30c9;3341 0 30db 30fc 30eb;",
  "3342 0 30db 30fc 30f3;3343 0 30de 30a4 30af 30ed;3344 0 30de 30a4 30eb;3345 0 30de 30c3 30cf;",
  "3346 0 30de 30eb 30af;3347 0 30de 30f3 30b7 30e7 30f3;3348 0 30df 30af 30ed 30f3;",
  "3349 0 30df 30ea;334a 0 30df 30ea 30d0 30fc 30eb;334b 0 30e1 30ac;334c 0 30e1 30ac 30c8 30f3;",
  "334d 0 30e1 30fc 30c8 30eb;334e 0 30e4 30fc 30c9;334f 0 30e4 30fc 30eb;3350 0 30e6 30a2 30f3;",
  "3351 0 30ea 30c3 30c8 30eb;3352 0 30ea 30e9;3353 0 30eb 30d4 30fc;3354 0 30eb 30fc 30d6 30eb;",
  "3355 0 30ec 30e0;3356 0 30ec 30f3 30c8 30b2 30f3;3357 0 30ef 30c3 30c8;3358 0 30 70b9;",
  "3359 0 31 70b9;335a 0 32 70b9;335b 0 33 70b9;335c 0 34 70b9;335d 0 35 70b9;335e 0 36 70b9;",
  "335f 0 37 70b9;3360 0 38 70b9;3361 0 39 70b9;3362 0 31 30 70b9;3363 0 31 31 70b9;",
  "3364 0 31 32 70b9;3365 0 31 33 70b9;3366 0 31 34 70b9;3367 0 31 35 70b9;3368 0 31 36 70b9;",
  "3369 0 31 37 70b9;336a 0 31 38 70b9;336b 0 31 39 70b9;336c 0 32 30 70b9;336d 0 32 31 70b9;",
  "336e 0 32 32 70b9;336f 0 32 33 70b9;3370 0 32 34 70b9;3371 0 68 70 61;3372 0 64 61;",
  "3373 0 61 75;3374 0 62 61 72;3375 0 6f 76;3376 0 70 63;3377 0 64 6d;3378 0 64 6d 32;",
  "3379 0 64 6d 33;337a 0 69 75;337b 0 5e73 6210;337c 0 662d 548c;337d 0 5927 6b63;",
  "337e 0 660e 6cbb;337f 0 682a 5f0f 4f1a 793e;3380 0 70 61;3381 0 6e 61;3382 0 3bc 61;",
  "3383 0 6d 61;3384 0 6b 61;3385 0 6b 62;3386 0 6d 62;3387 0 67 62;3388 0 63 61 6c;",
  "3389 0 6b 63 61 6c;338a 0 70 66;338b 0 6e 66;338c 0 3bc 66;338d 0 3bc 67;338e 0 6d 67;",
  "338f 0 6b 67;3390 0 68 7a;3391 0 6b 68 7a;3392 0 6d 68 7a;3393 0 67 68 7a;3394 0 74 68 7a;",
  "3395 0 3bc 6c;3396 0 6d 6c;3397 0 64 6c;3398 0 6b 6c;3399 0 66 6d;339a 0 6e 6d;339b 0 3bc 6d;",
  "339c 0 6d 6d;339d 0 63 6d;339e 0 6b 6d;339f 0 6d 6d 32;33a0 0 63 6d 32;33a1 0 6d 32;",
  "33a2 0 6b 6d 32;33a3 0 6d 6d 33;33a4 0 63 6d 33;33a5 0 6d 33;33a6 0 6b 6d 33;33a7 0 6d 2215 73;",
  "33a8 0 6d 2215 73 32;33a9 0 70 61;33aa 0 6b 70 61;33ab 0 6d 70 61;33ac 0 67 70 61;",
  "33ad 0 72 61 64;33ae 0 72 61 64 2215 73;33af 0 72 61 64 2215 73 32;33b0 0 70 73;33b1 0 6e 73;",
  "33b2 0 3bc 73;33b3 0 6d 73;33b4 0 70 76;33b5 0 6e 76;33b6 0 3bc 76;33b7 0 6d 76;33b8 0 6b 76;",
  "33b9 0 6d 76;33ba 0 70 77;33bb 0 6e 77;33bc 0 3bc 77;33bd 0 6d 77;33be 0 6b 77;33bf 0 6d 77;",
  "33c0 0 6b 3c9;33c1 0 6d 3c9;33c3 0 62 71;33c4 0 63 63;33c5 0 63 64;33c6 0 63 2215 6b 67;",
  "33c8 0 64 62;33c9 0 67 79;33ca 0 68 61;33cb 0 68 70;33cc 0 69 6e;33cd 0 6b 6b;33ce 0 6b 6d;",
  "33cf 0 6b 74;33d0 0 6c 6d;33d1 0 6c 6e;33d2 0 6c 6f 67;33d3 0 6c 78;33d4 0 6d 62;",
  "33d5 0 6d 69 6c;33d6 0 6d 6f 6c;33d7 0 70 68;33d9 0 70 70 6d;33da 0 70 72;33db 0 73 72;",
  "33dc 0 73 76;33dd 0 77 62;33de 0 76 2215 6d;33df 0 61 2215 6d;33e0 0 31 65e5;33e1 0 32 65e5;",
  "33e2 0 33 65e5;33e3 0 34 65e5;33e4 0 35 65e5;33e5 0 36 65e5;33e6 0 37 65e5;33e7 0 38 65e5;",
  "33e8 0 39 65e5;33e9 0 31 30 65e5;33ea 0 31 31 65e5;33eb 0 31 32 65e5;33ec 0 31 33 65e5;",
  "33ed 0 31 34 65e5;33ee 0 31 35 65e5;33ef 0 31 36 65e5;33f0 0 31 37 65e5;33f1 0 31 38 65e5;",
  "33f2 0 31 39 65e5;33f3 0 32 30 65e5;33f4 0 32 31 65e5;33f5 0 32 32 65e5;33f6 0 32 33 65e5;",
  "33f7 0 32 34 65e5;33f8 0 32 35 65e5;33f9 0 32 36 65e5;33fa 0 32 37 65e5;33fb 0 32 38 65e5;",
  "33fc 0 32 39 65e5;33fd 0 33 30 65e5;33fe 0 33 31 65e5;33ff 0 67 61 6c;a69c 0 44a;a69d 0 44c;",
  "a770 0 a76f;a77d 0 1d79;a78b 0 a78c;a78d 0 265;a7aa 0 266;a7ab 0 25c;a7ac 0 261;a7ad 0 26c;",
  "a7ae 0 26a;a7b0 0 29e;a7b1 0 287;a7b2 0 29d;a7b3 0 ab53;a7c4 0 a794;a7c5 0 282;a7c6 0 1d8e;",
  "a7cb 0 264;a7dc 0 19b;a7f1 0 73;a7f2 0 63;a7f3 0 66;a7f4 0 71;a7f5 0 a7f6;a7f8 0 127;",
  "a7f9 0 153;ab5c 0 a727;ab5d 0 ab37;ab5e 0 26b;ab5f 0 ab52;ab69 0 28d;f900 0 8c48;f901 0 66f4;",
  "f902 0 8eca;f903 0 8cc8;f904 0 6ed1;f905 0 4e32;f906 0 53e5;f907 1 9f9c;f909 0 5951;",
  "f90a 0 91d1;f90b 0 5587;f90c 0 5948;f90d 0 61f6;f90e 0 7669;f90f 0 7f85;f910 0 863f;",
  "f911 0 87ba;f912 0 88f8;f913 0 908f;f914 0 6a02;f915 0 6d1b;f916 0 70d9;f917 0 73de;",
  "f918 0 843d;f919 0 916a;f91a 0 99f1;f91b 0 4e82;f91c 0 5375;f91d 0 6b04;f91e 0 721b;",
  "f91f 0 862d;f920 0 9e1e;f921 0 5d50;f922 0 6feb;f923 0 85cd;f924 0 8964;f925 0 62c9;",
  "f926 0 81d8;f927 0 881f;f928 0 5eca;f929 0 6717;f92a 0 6d6a;f92b 0 72fc;f92c 0 90ce;",
  "f92d 0 4f86;f92e 0 51b7;f92f 0 52de;f930 0 64c4;f931 0 6ad3;f932 0 7210;f933 0 76e7;",
  "f934 0 8001;f935 0 8606;f936 0 865c;f937 0 8def;f938 0 9732;f939 0 9b6f;f93a 0 9dfa;",
  "f93b 0 788c;f93c 0 797f;f93d 0 7da0;f93e 0 83c9;f93f 0 9304;f940 0 9e7f;f941 0 8ad6;",
  "f942 0 58df;f943 0 5f04;f944 0 7c60;f945 0 807e;f946 0 7262;f947 0 78ca;f948 0 8cc2;",
  "f949 0 96f7;f94a 0 58d8;f94b 0 5c62;f94c 0 6a13;f94d 0 6dda;f94e 0 6f0f;f94f 0 7d2f;",
  "f950 0 7e37;f951 0 964b;f952 0 52d2;f953 0 808b;f954 0 51dc;f955 0 51cc;f956 0 7a1c;",
  "f957 0 7dbe;f958 0 83f1;f959 0 9675;f95a 0 8b80;f95b 0 62cf;f95c 0 6a02;f95d 0 8afe;",
  "f95e 0 4e39;f95f 0 5be7;f960 0 6012;f961 0 7387;f962 0 7570;f963 0 5317;f964 0 78fb;",
  "f965 0 4fbf;f966 0 5fa9;f967 0 4e0d;f968 0 6ccc;f969 0 6578;f96a 0 7d22;f96b 0 53c3;",
  "f96c 0 585e;f96d 0 7701;f96e 0 8449;f96f 0 8aaa;f970 0 6bba;f971 0 8fb0;f972 0 6c88;",
  "f973 0 62fe;f974 0 82e5;f975 0 63a0;f976 0 7565;f977 0 4eae;f978 0 5169;f979 0 51c9;",
  "f97a 0 6881;f97b 0 7ce7;f97c 0 826f;f97d 0 8ad2;f97e 0 91cf;f97f 0 52f5;f980 0 5442;",
  "f981 0 5973;f982 0 5eec;f983 0 65c5;f984 0 6ffe;f985 0 792a;f986 0 95ad;f987 0 9a6a;",
  "f988 0 9e97;f989 0 9ece;f98a 0 529b;f98b 0 66c6;f98c 0 6b77;f98d 0 8f62;f98e 0 5e74;",
  "f98f 0 6190;f990 0 6200;f991 0 649a;f992 0 6f23;f993 0 7149;f994 0 7489;f995 0 79ca;",
  "f996 0 7df4;f997 0 806f;f998 0 8f26;f999 0 84ee;f99a 0 9023;f99b 0 934a;f99c 0 5217;",
  "f99d 0 52a3;f99e 0 54bd;f99f 0 70c8;f9a0 0 88c2;f9a1 0 8aaa;f9a2 0 5ec9;f9a3 0 5ff5;",
  "f9a4 0 637b;f9a5 0 6bae;f9a6 0 7c3e;f9a7 0 7375;f9a8 0 4ee4;f9a9 0 56f9;f9aa 0 5be7;",
  "f9ab 0 5dba;f9ac 0 601c;f9ad 0 73b2;f9ae 0 7469;f9af 0 7f9a;f9b0 0 8046;f9b1 0 9234;",
  "f9b2 0 96f6;f9b3 0 9748;f9b4 0 9818;f9b5 0 4f8b;f9b6 0 79ae;f9b7 0 91b4;f9b8 0 96b8;",
  "f9b9 0 60e1;f9ba 0 4e86;f9bb 0 50da;f9bc 0 5bee;f9bd 0 5c3f;f9be 0 6599;f9bf 0 6a02;",
  "f9c0 0 71ce;f9c1 0 7642;f9c2 0 84fc;f9c3 0 907c;f9c4 0 9f8d;f9c5 0 6688;f9c6 0 962e;",
  "f9c7 0 5289;f9c8 0 677b;f9c9 0 67f3;f9ca 0 6d41;f9cb 0 6e9c;f9cc 0 7409;f9cd 0 7559;",
  "f9ce 0 786b;f9cf 0 7d10;f9d0 0 985e;f9d1 0 516d;f9d2 0 622e;f9d3 0 9678;f9d4 0 502b;",
  "f9d5 0 5d19;f9d6 0 6dea;f9d7 0 8f2a;f9d8 0 5f8b;f9d9 0 6144;f9da 0 6817;f9db 0 7387;",
  "f9dc 0 9686;f9dd 0 5229;f9de 0 540f;f9df 0 5c65;f9e0 0 6613;f9e1 0 674e;f9e2 0 68a8;",
  "f9e3 0 6ce5;f9e4 0 7406;f9e5 0 75e2;f9e6 0 7f79;f9e7 0 88cf;f9e8 0 88e1;f9e9 0 91cc;",
  "f9ea 0 96e2;f9eb 0 533f;f9ec 0 6eba;f9ed 0 541d;f9ee 0 71d0;f9ef 0 7498;f9f0 0 85fa;",
  "f9f1 0 96a3;f9f2 0 9c57;f9f3 0 9e9f;f9f4 0 6797;f9f5 0 6dcb;f9f6 0 81e8;f9f7 0 7acb;",
  "f9f8 0 7b20;f9f9 0 7c92;f9fa 0 72c0;f9fb 0 7099;f9fc 0 8b58;f9fd 0 4ec0;f9fe 0 8336;",
  "f9ff 0 523a;fa00 0 5207;fa01 0 5ea6;fa02 0 62d3;fa03 0 7cd6;fa04 0 5b85;fa05 0 6d1e;",
  "fa06 0 66b4;fa07 0 8f3b;fa08 0 884c;fa09 0 964d;fa0a 0 898b;fa0b 0 5ed3;fa0c 0 5140;",
  "fa0d 0 55c0;fa10 0 585a;fa12 0 6674;fa15 0 51de;fa16 0 732a;fa17 0 76ca;fa18 0 793c;",
  "fa19 0 795e;fa1a 0 7965;fa1b 0 798f;fa1c 0 9756;fa1d 0 7cbe;fa1e 0 7fbd;fa20 0 8612;",
  "fa22 0 8af8;fa25 0 9038;fa26 0 90fd;fa2a 0 98ef;fa2b 0 98fc;fa2c 0 9928;fa2d 0 9db4;",
  "fa2e 0 90de;fa2f 0 96b7;fa30 0 4fae;fa31 0 50e7;fa32 0 514d;fa33 0 52c9;fa34 0 52e4;",
  "fa35 0 5351;fa36 0 559d;fa37 0 5606;fa38 0 5668;fa39 0 5840;fa3a 0 58a8;fa3b 0 5c64;",
  "fa3c 0 5c6e;fa3d 0 6094;fa3e 0 6168;fa3f 0 618e;fa40 0 61f2;fa41 0 654f;fa42 0 65e2;",
  "fa43 0 6691;fa44 0 6885;fa45 0 6d77;fa46 0 6e1a;fa47 0 6f22;fa48 0 716e;fa49 0 722b;",
  "fa4a 0 7422;fa4b 0 7891;fa4c 0 793e;fa4d 0 7949;fa4e 0 7948;fa4f 0 7950;fa50 0 7956;",
  "fa51 0 795d;fa54 0 7a40;fa55 0 7a81;fa56 0 7bc0;fa57 0 7df4;fa58 0 7e09;fa59 0 7e41;",
  "fa5a 0 7f72;fa5b 0 8005;fa5c 0 81ed;fa5d 1 8279;fa5f 0 8457;fa60 0 8910;fa61 0 8996;",
  "fa62 0 8b01;fa63 0 8b39;fa64 0 8cd3;fa65 0 8d08;fa66 0 8fb6;fa67 0 9038;fa68 0 96e3;",
  "fa69 0 97ff;fa6a 0 983b;fa6b 0 6075;fa6c 0 242ee;fa6d 0 8218;fa70 0 4e26;fa71 0 51b5;",
  "fa72 0 5168;fa73 0 4f80;fa74 0 5145;fa75 0 5180;fa76 0 52c7;fa77 0 52fa;fa78 0 559d;",
  "fa79 0 5555;fa7a 0 5599;fa7b 0 55e2;fa7c 0 585a;fa7d 0 58b3;fa7e 0 5944;fa7f 0 5954;",
  "fa80 0 5a62;fa81 0 5b28;fa82 0 5ed2;fa83 0 5ed9;fa84 0 5f69;fa85 0 5fad;fa86 0 60d8;",
  "fa87 0 614e;fa88 0 6108;fa89 0 618e;fa8a 0 6160;fa8b 0 61f2;fa8c 0 6234;fa8d 0 63c4;",
  "fa8e 0 641c;fa8f 0 6452;fa90 0 6556;fa91 0 6674;fa92 0 6717;fa93 0 671b;fa94 0 6756;",
  "fa95 0 6b79;fa96 0 6bba;fa97 0 6d41;fa98 0 6edb;fa99 0 6ecb;fa9a 0 6f22;fa9b 0 701e;",
  "fa9c 0 716e;fa9d 0 77a7;fa9e 0 7235;fa9f 0 72af;faa0 0 732a;faa1 0 7471;faa2 0 7506;",
  "faa3 0 753b;faa4 0 761d;faa5 0 761f;faa6 0 76ca;faa7 0 76db;faa8 0 76f4;faa9 0 774a;",
  "faaa 0 7740;faab 0 78cc;faac 0 7ab1;faad 0 7bc0;faae 0 7c7b;faaf 0 7d5b;fab0 0 7df4;",
  "fab1 0 7f3e;fab2 0 8005;fab3 0 8352;fab4 0 83ef;fab5 0 8779;fab6 0 8941;fab7 0 8986;",
  "fab8 0 8996;fab9 0 8abf;faba 0 8af8;fabb 0 8acb;fabc 0 8b01;fabd 0 8afe;fabe 0 8aed;",
  "fabf 0 8b39;fac0 0 8b8a;fac1 0 8d08;fac2 0 8f38;fac3 0 9072;fac4 0 9199;fac5 0 9276;",
  "fac6 0 967c;fac7 0 96e3;fac8 0 9756;fac9 0 97db;faca 0 97ff;facb 0 980b;facc 0 983b;",
  "facd 0 9b12;face 0 9f9c;facf 0 2284a;fad0 0 22844;fad1 0 233d5;fad2 0 3b9d;fad3 0 4018;",
  "fad4 0 4039;fad5 0 25249;fad6 0 25cd0;fad7 0 27ed3;fad8 0 9f43;fad9 0 9f8e;fb00 0 66 66;",
  "fb01 0 66 69;fb02 0 66 6c;fb03 0 66 66 69;fb04 0 66 66 6c;fb05 1 73 74;fb13 0 574 576;",
  "fb14 0 574 565;fb15 0 574 56b;fb16 0 57e 576;fb17 0 574 56d;fb1d 0 5d9 5b4;fb1f 0 5f2 5b7;",
  "fb20 0 5e2;fb21 0 5d0;fb27 0 5e8;fb28 0 5ea;fb29 0 2b;fb2a 0 5e9 5c1;fb2b 0 5e9 5c2;",
  "fb2c 0 5e9 5bc 5c1;fb2d 0 5e9 5bc 5c2;fb2e 0 5d0 5b7;fb2f 0 5d0 5b8;fb30 0 5d0 5bc;",
  "fb31 0 5d1 5bc;fb32 0 5d2 5bc;fb33 0 5d3 5bc;fb34 0 5d4 5bc;fb35 0 5d5 5bc;fb36 0 5d6 5bc;",
  "fb38 0 5d8 5bc;fb39 0 5d9 5bc;fb3a 0 5da 5bc;fb3b 0 5db 5bc;fb3c 0 5dc 5bc;fb3e 0 5de 5bc;",
  "fb40 0 5e0 5bc;fb41 0 5e1 5bc;fb43 0 5e3 5bc;fb44 0 5e4 5bc;fb46 0 5e6 5bc;fb47 0 5e7 5bc;",
  "fb48 0 5e8 5bc;fb49 0 5e9 5bc;fb4a 0 5ea 5bc;fb4b 0 5d5 5b9;fb4c 0 5d1 5bf;fb4d 0 5db 5bf;",
  "fb4e 0 5e4 5bf;fb4f 0 5d0 5dc;fb50 1 671;fb52 3 67b;fb56 3 67e;fb5a 3 680;fb5e 3 67a;",
  "fb62 3 67f;fb66 3 679;fb6a 3 6a4;fb6e 3 6a6;fb72 3 684;fb76 3 683;fb7a 3 686;fb7e 3 687;",
  "fb82 1 68d;fb84 1 68c;fb86 1 68e;fb88 1 688;fb8a 1 698;fb8c 1 691;fb8e 3 6a9;fb92 3 6af;",
  "fb96 3 6b3;fb9a 3 6b1;fb9e 1 6ba;fba0 3 6bb;fba4 1 6c0;fba6 3 6c1;fbaa 3 6be;fbae 1 6d2;",
  "fbb0 1 6d3;fbd3 3 6ad;fbd7 1 6c7;fbd9 1 6c6;fbdb 1 6c8;fbdd 0 6c7 674;fbde 1 6cb;fbe0 1 6c5;",
  "fbe2 1 6c9;fbe4 3 6d0;fbe8 1 649;fbea 1 626 627;fbec 1 626 6d5;fbee 1 626 648;fbf0 1 626 6c7;",
  "fbf2 1 626 6c6;fbf4 1 626 6c8;fbf6 2 626 6d0;fbf9 2 626 649;fbfc 3 6cc;fc00 0 626 62c;",
  "fc01 0 626 62d;fc02 0 626 645;fc03 0 626 649;fc04 0 626 64a;fc05 0 628 62c;fc06 0 628 62d;",
  "fc07 0 628 62e;fc08 0 628 645;fc09 0 628 649;fc0a 0 628 64a;fc0b 0 62a 62c;fc0c 0 62a 62d;",
  "fc0d 0 62a 62e;fc0e 0 62a 645;fc0f 0 62a 649;fc10 0 62a 64a;fc11 0 62b 62c;fc12 0 62b 645;",
  "fc13 0 62b 649;fc14 0 62b 64a;fc15 0 62c 62d;fc16 0 62c 645;fc17 0 62d 62c;fc18 0 62d 645;",
  "fc19 0 62e 62c;fc1a 0 62e 62d;fc1b 0 62e 645;fc1c 0 633 62c;fc1d 0 633 62d;fc1e 0 633 62e;",
  "fc1f 0 633 645;fc20 0 635 62d;fc21 0 635 645;fc22 0 636 62c;fc23 0 636 62d;fc24 0 636 62e;",
  "fc25 0 636 645;fc26 0 637 62d;fc27 0 637 645;fc28 0 638 645;fc29 0 639 62c;fc2a 0 639 645;",
  "fc2b 0 63a 62c;fc2c 0 63a 645;fc2d 0 641 62c;fc2e 0 641 62d;fc2f 0 641 62e;fc30 0 641 645;",
  "fc31 0 641 649;fc32 0 641 64a;fc33 0 642 62d;fc34 0 642 645;fc35 0 642 649;fc36 0 642 64a;",
  "fc37 0 643 627;fc38 0 643 62c;fc39 0 643 62d;fc3a 0 643 62e;fc3b 0 643 644;fc3c 0 643 645;",
  "fc3d 0 643 649;fc3e 0 643 64a;fc3f 0 644 62c;fc40 0 644 62d;fc41 0 644 62e;fc42 0 644 645;",
  "fc43 0 644 649;fc44 0 644 64a;fc45 0 645 62c;fc46 0 645 62d;fc47 0 645 62e;fc48 0 645 645;",
  "fc49 0 645 649;fc4a 0 645 64a;fc4b 0 646 62c;fc4c 0 646 62d;fc4d 0 646 62e;fc4e 0 646 645;",
  "fc4f 0 646 649;fc50 0 646 64a;fc51 0 647 62c;fc52 0 647 645;fc53 0 647 649;fc54 0 647 64a;",
  "fc55 0 64a 62c;fc56 0 64a 62d;fc57 0 64a 62e;fc58 0 64a 645;fc59 0 64a 649;fc5a 0 64a 64a;",
  "fc5b 0 630 670;fc5c 0 631 670;fc5d 0 649 670;fc5e 0 20 64c 651;fc5f 0 20 64d 651;",
  "fc60 0 20 64e 651;fc61 0 20 64f 651;fc62 0 20 650 651;fc63 0 20 651 670;fc64 0 626 631;",
  "fc65 0 626 632;fc66 0 626 645;fc67 0 626 646;fc68 0 626 649;fc69 0 626 64a;fc6a 0 628 631;",
  "fc6b 0 628 632;fc6c 0 628 645;fc6d 0 628 646;fc6e 0 628 649;fc6f 0 628 64a;fc70 0 62a 631;",
  "fc71 0 62a 632;fc72 0 62a 645;fc73 0 62a 646;fc74 0 62a 649;fc75 0 62a 64a;fc76 0 62b 631;",
  "fc77 0 62b 632;fc78 0 62b 645;fc79 0 62b 646;fc7a 0 62b 649;fc7b 0 62b 64a;fc7c 0 641 649;",
  "fc7d 0 641 64a;fc7e 0 642 649;fc7f 0 642 64a;fc80 0 643 627;fc81 0 643 644;fc82 0 643 645;",
  "fc83 0 643 649;fc84 0 643 64a;fc85 0 644 645;fc86 0 644 649;fc87 0 644 64a;fc88 0 645 627;",
  "fc89 0 645 645;fc8a 0 646 631;fc8b 0 646 632;fc8c 0 646 645;fc8d 0 646 646;fc8e 0 646 649;",
  "fc8f 0 646 64a;fc90 0 649 670;fc91 0 64a 631;fc92 0 64a 632;fc93 0 64a 645;fc94 0 64a 646;",
  "fc95 0 64a 649;fc96 0 64a 64a;fc97 0 626 62c;fc98 0 626 62d;fc99 0 626 62e;fc9a 0 626 645;",
  "fc9b 0 626 647;fc9c 0 628 62c;fc9d 0 628 62d;fc9e 0 628 62e;fc9f 0 628 645;fca0 0 628 647;",
  "fca1 0 62a 62c;fca2 0 62a 62d;fca3 0 62a 62e;fca4 0 62a 645;fca5 0 62a 647;fca6 0 62b 645;",
  "fca7 0 62c 62d;fca8 0 62c 645;fca9 0 62d 62c;fcaa 0 62d 645;fcab 0 62e 62c;fcac 0 62e 645;",
  "fcad 0 633 62c;fcae 0 633 62d;fcaf 0 633 62e;fcb0 0 633 645;fcb1 0 635 62d;fcb2 0 635 62e;",
  "fcb3 0 635 645;fcb4 0 636 62c;fcb5 0 636 62d;fcb6 0 636 62e;fcb7 0 636 645;fcb8 0 637 62d;",
  "fcb9 0 638 645;fcba 0 639 62c;fcbb 0 639 645;fcbc 0 63a 62c;fcbd 0 63a 645;fcbe 0 641 62c;",
  "fcbf 0 641 62d;fcc0 0 641 62e;fcc1 0 641 645;fcc2 0 642 62d;fcc3 0 642 645;fcc4 0 643 62c;",
  "fcc5 0 643 62d;fcc6 0 643 62e;fcc7 0 643 644;fcc8 0 643 645;fcc9 0 644 62c;fcca 0 644 62d;",
  "fccb 0 644 62e;fccc 0 644 645;fccd 0 644 647;fcce 0 645 62c;fccf 0 645 62d;fcd0 0 645 62e;",
  "fcd1 0 645 645;fcd2 0 646 62c;fcd3 0 646 62d;fcd4 0 646 62e;fcd5 0 646 645;fcd6 0 646 647;",
  "fcd7 0 647 62c;fcd8 0 647 645;fcd9 0 647 670;fcda 0 64a 62c;fcdb 0 64a 62d;fcdc 0 64a 62e;",
  "fcdd 0 64a 645;fcde 0 64a 647;fcdf 0 626 645;fce0 0 626 647;fce1 0 628 645;fce2 0 628 647;",
  "fce3 0 62a 645;fce4 0 62a 647;fce5 0 62b 645;fce6 0 62b 647;fce7 0 633 645;fce8 0 633 647;",
  "fce9 0 634 645;fcea 0 634 647;fceb 0 643 644;fcec 0 643 645;fced 0 644 645;fcee 0 646 645;",
  "fcef 0 646 647;fcf0 0 64a 645;fcf1 0 64a 647;fcf2 0 640 64e 651;fcf3 0 640 64f 651;",
  "fcf4 0 640 650 651;fcf5 0 637 649;fcf6 0 637 64a;fcf7 0 639 649;fcf8 0 639 64a;fcf9 0 63a 649;",
  "fcfa 0 63a 64a;fcfb 0 633 649;fcfc 0 633 64a;fcfd 0 634 649;fcfe 0 634 64a;fcff 0 62d 649;",
  "fd00 0 62d 64a;fd01 0 62c 649;fd02 0 62c 64a;fd03 0 62e 649;fd04 0 62e 64a;fd05 0 635 649;",
  "fd06 0 635 64a;fd07 0 636 649;fd08 0 636 64a;fd09 0 634 62c;fd0a 0 634 62d;fd0b 0 634 62e;",
  "fd0c 0 634 645;fd0d 0 634 631;fd0e 0 633 631;fd0f 0 635 631;fd10 0 636 631;fd11 0 637 649;",
  "fd12 0 637 64a;fd13 0 639 649;fd14 0 639 64a;fd15 0 63a 649;fd16 0 63a 64a;fd17 0 633 649;",
  "fd18 0 633 64a;fd19 0 634 649;fd1a 0 634 64a;fd1b 0 62d 649;fd1c 0 62d 64a;fd1d 0 62c 649;",
  "fd1e 0 62c 64a;fd1f 0 62e 649;fd20 0 62e 64a;fd21 0 635 649;fd22 0 635 64a;fd23 0 636 649;",
  "fd24 0 636 64a;fd25 0 634 62c;fd26 0 634 62d;fd27 0 634 62e;fd28 0 634 645;fd29 0 634 631;",
  "fd2a 0 633 631;fd2b 0 635 631;fd2c 0 636 631;fd2d 0 634 62c;fd2e 0 634 62d;fd2f 0 634 62e;",
  "fd30 0 634 645;fd31 0 633 647;fd32 0 634 647;fd33 0 637 645;fd34 0 633 62c;fd35 0 633 62d;",
  "fd36 0 633 62e;fd37 0 634 62c;fd38 0 634 62d;fd39 0 634 62e;fd3a 0 637 645;fd3b 0 638 645;",
  "fd3c 1 627 64b;fd50 0 62a 62c 645;fd51 1 62a 62d 62c;fd53 0 62a 62d 645;fd54 0 62a 62e 645;",
  "fd55 0 62a 645 62c;fd56 0 62a 645 62d;fd57 0 62a 645 62e;fd58 1 62c 645 62d;fd5a 0 62d 645 64a;",
  "fd5b 0 62d 645 649;fd5c 0 633 62d 62c;fd5d 0 633 62c 62d;fd5e 0 633 62c 649;fd5f 1 633 645 62d;",
  "fd61 0 633 645 62c;fd62 1 633 645 645;fd64 1 635 62d 62d;fd66 0 635 645 645;fd67 1 634 62d 645;",
  "fd69 0 634 62c 64a;fd6a 1 634 645 62e;fd6c 1 634 645 645;fd6e 0 636 62d 649;fd6f 1 636 62e 645;",
  "fd71 1 637 645 62d;fd73 0 637 645 645;fd74 0 637 645 64a;fd75 0 639 62c 645;fd76 1 639 645 645;",
  "fd78 0 639 645 649;fd79 0 63a 645 645;fd7a 0 63a 645 64a;fd7b 0 63a 645 649;fd7c 1 641 62e 645;",
  "fd7e 0 642 645 62d;fd7f 0 642 645 645;fd80 0 644 62d 645;fd81 0 644 62d 64a;fd82 0 644 62d 649;",
  "fd83 1 644 62c 62c;fd85 1 644 62e 645;fd87 1 644 645 62d;fd89 0 645 62d 62c;fd8a 0 645 62d 645;",
  "fd8b 0 645 62d 64a;fd8c 0 645 62c 62d;fd8d 0 645 62c 645;fd8e 0 645 62e 62c;fd8f 0 645 62e 645;",
  "fd92 0 645 62c 62e;fd93 0 647 645 62c;fd94 0 647 645 645;fd95 0 646 62d 645;fd96 0 646 62d 649;",
  "fd97 1 646 62c 645;fd99 0 646 62c 649;fd9a 0 646 645 64a;fd9b 0 646 645 649;fd9c 1 64a 645 645;",
  "fd9e 0 628 62e 64a;fd9f 0 62a 62c 64a;fda0 0 62a 62c 649;fda1 0 62a 62e 64a;fda2 0 62a 62e 649;",
  "fda3 0 62a 645 64a;fda4 0 62a 645 649;fda5 0 62c 645 64a;fda6 0 62c 62d 649;fda7 0 62c 645 649;",
  "fda8 0 633 62e 649;fda9 0 635 62d 64a;fdaa 0 634 62d 64a;fdab 0 636 62d 64a;fdac 0 644 62c 64a;",
  "fdad 0 644 645 64a;fdae 0 64a 62d 64a;fdaf 0 64a 62c 64a;fdb0 0 64a 645 64a;fdb1 0 645 645 64a;",
  "fdb2 0 642 645 64a;fdb3 0 646 62d 64a;fdb4 0 642 645 62d;fdb5 0 644 62d 645;fdb6 0 639 645 64a;",
  "fdb7 0 643 645 64a;fdb8 0 646 62c 62d;fdb9 0 645 62e 64a;fdba 0 644 62c 645;fdbb 0 643 645 645;",
  "fdbc 0 644 62c 645;fdbd 0 646 62c 62d;fdbe 0 62c 62d 64a;fdbf 0 62d 62c 64a;fdc0 0 645 62c 64a;",
  "fdc1 0 641 645 64a;fdc2 0 628 62d 64a;fdc3 0 643 645 645;fdc4 0 639 62c 645;fdc5 0 635 645 645;",
  "fdc6 0 633 62e 64a;fdc7 0 646 62c 64a;fdf0 0 635 644 6d2;fdf1 0 642 644 6d2;",
  "fdf2 0 627 644 644 647;fdf3 0 627 643 628 631;fdf4 0 645 62d 645 62f;fdf5 0 635 644 639 645;",
  "fdf6 0 631 633 648 644;fdf7 0 639 644 64a 647;fdf8 0 648 633 644 645;fdf9 0 635 644 649;",
  "fdfa 0 635 644 649 20 627 644 644 647 20 639 644 64a 647 20 648 633 644 645;",
  "fdfb 0 62c 644 20 62c 644 627 644 647;fdfc 0 631 6cc 627 644;fe00 f;fe10 0 2c;fe11 0 3001;",
  "fe15 0 21;fe16 0 3f;fe31 0 2014;fe32 0 2013;fe33 1 5f;fe37 0 7b;fe38 0 7d;fe47 0 5b;fe48 0 5d;",
  "fe49 3 20 305;fe4d 2 5f;fe50 0 2c;fe51 0 3001;fe54 0 3b;fe55 0 3a;fe56 0 3f;fe57 0 21;",
  "fe58 0 2014;fe5b 0 7b;fe5c 0 7d;fe5f 0 23;fe60 0 26;fe63 0 2d;fe64 0 3c;fe65 0 3e;fe66 0 3d;",
  "fe68 0 5c;fe6b 0 40;fe70 0 20 64b;fe71 0 640 64b;fe72 0 20 64c;fe74 0 20 64d;fe76 0 20 64e;",
  "fe77 0 640 64e;fe78 0 20 64f;fe79 0 640 64f;fe7a 0 20 650;fe7b 0 640 650;fe7c 0 20 651;",
  "fe7d 0 640 651;fe7e 0 20 652;fe7f 0 640 652;fe8a 2 626;fe8d 1 627;fe8f 3 628;fe93 1 629;",
  "fe95 3 62a;fe99 3 62b;fe9d 3 62c;fea1 3 62d;fea5 3 62e;fea9 1 62f;feab 1 630;fead 1 631;",
  "feaf 1 632;feb1 3 633;feb5 3 634;feb9 3 635;febd 3 636;fec1 3 637;fec5 3 638;fec9 3 639;",
  "fecd 3 63a;fed1 3 641;fed5 3 642;fed9 3 643;fedd 3 644;fee1 3 645;fee5 3 646;fee9 3 647;",
  "feed 1 648;feef 1 649;fef1 3 64a;fef5 1 644 622;fef7 1 644 623;fef9 1 644 625;fefb 1 644 627;",
  "feff 0;ff61 0 2e;ff64 0 3001;ff65 0 30fb;ff66 0 30f2;ff67 0 30a1;ff68 0 30a3;ff69 0 30a5;",
  "ff6a 0 30a7;ff6b 0 30a9;ff6c 0 30e3;ff6d 0 30e5;ff6e 0 30e7;ff6f 0 30c3;ff70 0 30fc;",
  "ff71 0 30a2;ff72 0 30a4;ff73 0 30a6;ff74 0 30a8;ff77 0 30ad;ff78 0 30af;ff79 0 30b1;",
  "ff7a 0 30b3;ff7b 0 30b5;ff7c 0 30b7;ff7d 0 30b9;ff7e 0 30bb;ff7f 0 30bd;ff80 0 30bf;",
  "ff81 0 30c1;ff82 0 30c4;ff83 0 30c6;ff84 0 30c8;ff8b 0 30d2;ff8c 0 30d5;ff8d 0 30d8;",
  "ff8e 0 30db;ff94 0 30e4;ff95 0 30e6;ff9c 0 30ef;ff9d 0 30f3;ffa0 0;ffa3 0 11aa;ffa4 0 1102;",
  "ffb0 0 111a;ffb4 0 1121;ffe2 0 ac;ffe3 0 20 304;ffe4 0 a6;ffe5 0 a5;ffe6 0 20a9;ffe8 0 2502;",
  "ffed 0 25a0;ffee 0 25cb;10783 0 e6;10784 0 299;10785 0 253;10787 0 2a3;10788 0 ab66;",
  "10789 0 2a5;1078a 0 2a4;1078d 0 1d91;1078e 0 258;1078f 0 25e;10790 0 2a9;10791 0 264;",
  "10792 0 262;10793 0 260;10794 0 29b;10795 0 127;10796 0 29c;10797 0 267;10798 0 284;",
  "1079b 0 26c;1079c 0 1df04;1079d 0 a78e;1079e 0 26e;1079f 0 1df05;107a0 0 28e;107a1 0 1df06;",
  "107a2 0 f8;107a5 0 71;107a6 0 27a;107a7 0 1df08;107aa 0 280;107ab 0 2a8;107ac 0 2a6;",
  "107ad 0 ab67;107ae 0 2a7;107af 0 288;107b0 0 2c71;107b2 0 28f;107b5 0 298;107b9 0 1df0a;",
  "107ba 0 1df1e;1bca0 3;1d15e 0 1d157 1d165;1d15f 0 1d158 1d165;1d160 0 1d158 1d165 1d16e;",
  "1d161 0 1d158 1d165 1d16f;1d162 0 1d158 1d165 1d170;1d163 0 1d158 1d165 1d171;",
  "1d164 0 1d158 1d165 1d172;1d173 7;1d1bb 0 1d1b9 1d165;1d1bc 0 1d1ba 1d165;",
  "1d1bd 0 1d1b9 1d165 1d16e;1d1be 0 1d1ba 1d165 1d16e;1d1bf 0 1d1b9 1d165 1d16f;",
  "1d1c0 0 1d1ba 1d165 1d16f;1d49c 0 61;1d4a2 0 67;1d4bb 0 66;1d546 0 6f;1d6a4 0 131;1d6a5 0 237;",
  "1d6b9 0 3b8;1d6c1 0 2207;1d6d3 1 3c3;1d6db 0 2202;1d6dc 0 3b5;1d6dd 0 3b8;1d6de 0 3ba;",
  "1d6df 0 3c6;1d6e0 0 3c1;1d6e1 0 3c0;1d6f3 0 3b8;1d6fb 0 2207;1d70d 1 3c3;1d715 0 2202;",
  "1d716 0 3b5;1d717 0 3b8;1d718 0 3ba;1d719 0 3c6;1d71a 0 3c1;1d71b 0 3c0;1d72d 0 3b8;",
  "1d735 0 2207;1d747 1 3c3;1d74f 0 2202;1d750 0 3b5;1d751 0 3b8;1d752 0 3ba;1d753 0 3c6;",
  "1d754 0 3c1;1d755 0 3c0;1d767 0 3b8;1d76f 0 2207;1d781 1 3c3;1d789 0 2202;1d78a 0 3b5;",
  "1d78b 0 3b8;1d78c 0 3ba;1d78d 0 3c6;1d78e 0 3c1;1d78f 0 3c0;1d7a1 0 3b8;1d7a9 0 2207;",
  "1d7bb 1 3c3;1d7c3 0 2202;1d7c4 0 3b5;1d7c5 0 3b8;1d7c6 0 3ba;1d7c7 0 3c6;1d7c8 0 3c1;",
  "1d7c9 0 3c0;1d7ca 1 3dd;1e047 0 44b;1e04a 0 a689;1e04b 0 4d9;1e04c 0 456;1e04d 0 458;",
  "1e04e 0 4e9;1e04f 0 4af;1e050 0 4cf;1e05e 0 441;1e067 0 491;1e068 0 456;1e069 0 455;",
  "1e06a 0 45f;1e06b 0 4ab;1e06c 0 a651;1e06d 0 4b1;1ee02 0 62c;1ee03 0 62f;1ee05 0 648;",
  "1ee06 0 632;1ee07 0 62d;1ee08 0 637;1ee09 0 64a;1ee0e 0 633;1ee0f 0 639;1ee10 0 641;",
  "1ee11 0 635;1ee12 0 642;1ee13 0 631;1ee14 0 634;1ee17 0 62e;1ee18 0 630;1ee19 0 636;",
  "1ee1a 0 638;1ee1b 0 63a;1ee1c 0 66e;1ee1d 0 6ba;1ee1e 0 6a1;1ee1f 0 66f;1ee21 0 628;",
  "1ee22 0 62c;1ee24 0 647;1ee27 0 62d;1ee29 0 64a;1ee2e 0 633;1ee2f 0 639;1ee30 0 641;",
  "1ee31 0 635;1ee32 0 642;1ee34 0 634;1ee37 0 62e;1ee39 0 636;1ee3b 0 63a;1ee42 0 62c;",
  "1ee47 0 62d;1ee49 0 64a;1ee4b 0 644;1ee4d 0 646;1ee4e 0 633;1ee4f 0 639;1ee51 0 635;",
  "1ee52 0 642;1ee54 0 634;1ee57 0 62e;1ee59 0 636;1ee5b 0 63a;1ee5d 0 6ba;1ee5f 0 66f;",
  "1ee61 0 628;1ee62 0 62c;1ee64 0 647;1ee67 0 62d;1ee68 0 637;1ee69 0 64a;1ee6a 0 643;",
  "1ee6e 0 633;1ee6f 0 639;1ee70 0 641;1ee71 0 635;1ee72 0 642;1ee74 0 634;1ee77 0 62e;",
  "1ee79 0 636;1ee7a 0 638;1ee7b 0 63a;1ee7c 0 66e;1ee7e 0 6a1;1ee82 0 62c;1ee83 0 62f;",
  "1ee86 0 632;1ee87 0 62d;1ee88 0 637;1ee89 0 64a;1ee8e 0 633;1ee8f 0 639;1ee90 0 641;",
  "1ee91 0 635;1ee92 0 642;1ee93 0 631;1ee94 0 634;1ee97 0 62e;1ee98 0 630;1ee99 0 636;",
  "1ee9a 0 638;1ee9b 0 63a;1eea1 0 628;1eea2 0 62c;1eea3 0 62f;1eea5 0 648;1eea6 0 632;",
  "1eea7 0 62d;1eea8 0 637;1eea9 0 64a;1eeae 0 633;1eeaf 0 639;1eeb0 0 641;1eeb1 0 635;",
  "1eeb2 0 642;1eeb3 0 631;1eeb4 0 634;1eeb7 0 62e;1eeb8 0 630;1eeb9 0 636;1eeba 0 638;",
  "1eebb 0 63a;1f101 0 30 2c;1f102 0 31 2c;1f103 0 32 2c;1f104 0 33 2c;1f105 0 34 2c;",
  "1f106 0 35 2c;1f107 0 36 2c;1f108 0 37 2c;1f109 0 38 2c;1f10a 0 39 2c;1f110 0 28 61 29;",
  "1f111 0 28 62 29;1f112 0 28 63 29;1f113 0 28 64 29;1f114 0 28 65 29;1f115 0 28 66 29;",
  "1f116 0 28 67 29;1f117 0 28 68 29;1f118 0 28 69 29;1f119 0 28 6a 29;1f11a 0 28 6b 29;",
  "1f11b 0 28 6c 29;1f11c 0 28 6d 29;1f11d 0 28 6e 29;1f11e 0 28 6f 29;1f11f 0 28 70 29;",
  "1f120 0 28 71 29;1f121 0 28 72 29;1f122 0 28 73 29;1f123 0 28 74 29;1f124 0 28 75 29;",
  "1f125 0 28 76 29;1f126 0 28 77 29;1f127 0 28 78 29;1f128 0 28 79 29;1f129 0 28 7a 29;",
  "1f12a 0 3014 73 3015;1f12b 0 63;1f12c 0 72;1f12d 0 63 64;1f12e 0 77 7a;1f14a 0 68 76;",
  "1f14b 0 6d 76;1f14c 0 73 64;1f14d 0 73 73;1f14e 0 70 70 76;1f14f 0 77 63;1f16a 0 6d 63;",
  "1f16b 0 6d 64;1f16c 0 6d 72;1f190 0 64 6a;1f200 0 307b 304b;1f201 0 30b3 30b3;1f202 0 30b5;",
  "1f210 0 624b;1f211 0 5b57;1f212 0 53cc;1f213 0 30c7;1f214 0 4e8c;1f215 0 591a;1f216 0 89e3;",
  "1f217 0 5929;1f218 0 4ea4;1f219 0 6620;1f21a 0 7121;1f21b 0 6599;1f21c 0 524d;1f21d 0 5f8c;",
  "1f21e 0 518d;1f21f 0 65b0;1f220 0 521d;1f221 0 7d42;1f222 0 751f;1f223 0 8ca9;1f224 0 58f0;",
  "1f225 0 5439;1f226 0 6f14;1f227 0 6295;1f228 0 6355;1f229 0 4e00;1f22a 0 4e09;1f22b 0 904a;",
  "1f22c 0 5de6;1f22d 0 4e2d;1f22e 0 53f3;1f22f 0 6307;1f230 0 8d70;1f231 0 6253;1f232 0 7981;",
  "1f233 0 7a7a;1f234 0 5408;1f235 0 6e80;1f236 0 6709;1f237 0 6708;1f238 0 7533;1f239 0 5272;",
  "1f23a 0 55b6;1f23b 0 914d;1f240 0 3014 672c 3015;1f241 0 3014 4e09 3015;1f242 0 3014 4e8c 3015;",
  "1f243 0 3014 5b89 3015;1f244 0 3014 70b9 3015;1f245 0 3014 6253 3015;1f246 0 3014 76d7 3015;",
  "1f247 0 3014 52dd 3015;1f248 0 3014 6557 3015;1f250 0 5f97;1f251 0 53ef;2f800 0 4e3d;",
  "2f801 0 4e38;2f802 0 4e41;2f803 0 20122;2f804 0 4f60;2f805 0 4fae;2f806 0 4fbb;2f807 0 5002;",
  "2f808 0 507a;2f809 0 5099;2f80a 0 50e7;2f80b 0 50cf;2f80c 0 349e;2f80d 0 2063a;2f80e 0 514d;",
  "2f80f 0 5154;2f810 0 5164;2f811 0 5177;2f812 0 2051c;2f813 0 34b9;2f814 0 5167;2f815 0 518d;",
  "2f816 0 2054b;2f817 0 5197;2f818 0 51a4;2f819 0 4ecc;2f81a 0 51ac;2f81b 0 51b5;2f81c 0 291df;",
  "2f81d 0 51f5;2f81e 0 5203;2f81f 0 34df;2f820 0 523b;2f821 0 5246;2f822 0 5272;2f823 0 5277;",
  "2f824 0 3515;2f825 0 52c7;2f826 0 52c9;2f827 0 52e4;2f828 0 52fa;2f82b 0 5317;2f82c 0 5349;",
  "2f82d 0 5351;2f82e 0 535a;2f82f 0 5373;2f830 0 537d;2f831 2 537f;2f834 0 20a2c;2f835 0 7070;",
  "2f836 0 53ca;2f837 0 53df;2f838 0 20b63;2f839 0 53eb;2f83a 0 53f1;2f83b 0 5406;2f83c 0 549e;",
  "2f83d 0 5438;2f83e 0 5448;2f83f 0 5468;2f840 0 54a2;2f841 0 54f6;2f842 0 5510;2f843 0 5553;",
  "2f844 0 5563;2f845 1 5584;2f847 0 5599;2f848 0 55ab;2f849 0 55b3;2f84a 0 55c2;2f84b 0 5716;",
  "2f84c 0 5606;2f84d 0 5717;2f84e 0 5651;2f84f 0 5674;2f850 0 5207;2f851 0 58ee;2f852 0 57ce;",
  "2f853 0 57f4;2f854 0 580d;2f855 0 578b;2f856 0 5832;2f857 0 5831;2f858 0 58ac;2f859 0 214e4;",
  "2f85a 0 58f2;2f85b 0 58f7;2f85c 0 5906;2f85d 0 591a;2f85e 0 5922;2f85f 0 5962;2f860 0 216a8;",
  "2f861 0 216ea;2f862 0 59ec;2f863 0 5a1b;2f864 0 5a27;2f865 0 59d8;2f866 0 5a66;2f867 0 36ee;",
  "2f868 0 36fc;2f869 0 5b08;2f86a 1 5b3e;2f86c 0 219c8;2f86d 0 5bc3;2f86e 0 5bd8;2f86f 0 5be7;",
  "2f870 0 5bf3;2f871 0 21b18;2f872 0 5bff;2f873 0 5c06;2f874 0 5f53;2f875 0 5c22;2f876 0 3781;",
  "2f877 0 5c60;2f878 0 5c6e;2f879 0 5cc0;2f87a 0 5c8d;2f87b 0 21de4;2f87c 0 5d43;2f87d 0 21de6;",
  "2f87e 0 5d6e;2f87f 0 5d6b;2f880 0 5d7c;2f883 0 382f;2f884 0 5dfd;2f885 0 5e28;2f886 0 5e3d;",
  "2f887 0 5e69;2f888 0 3862;2f889 0 22183;2f88a 0 387c;2f88b 0 5eb0;2f88c 0 5eb3;2f88d 0 5eb6;",
  "2f88e 0 5eca;2f88f 0 2a392;2f890 0 5efe;2f891 1 22331;2f893 0 8201;2f894 1 5f22;2f896 0 38c7;",
  "2f897 0 232b8;2f898 0 261da;2f899 0 5f62;2f89a 0 5f6b;2f89b 0 38e3;2f89c 0 5f9a;2f89d 0 5fcd;",
  "2f89e 0 5fd7;2f89f 0 5ff9;2f8a0 0 6081;2f8a1 0 393a;2f8a2 0 391c;2f8a3 0 6094;2f8a4 0 226d4;",
  "2f8a5 0 60c7;2f8a6 0 6148;2f8a7 0 614c;2f8a8 0 614e;2f8a9 0 614c;2f8aa 0 617a;2f8ab 0 618e;",
  "2f8ac 0 61b2;2f8ad 0 61a4;2f8ae 0 61af;2f8af 0 61de;2f8b0 0 61f2;2f8b1 0 61f6;2f8b2 0 6210;",
  "2f8b3 0 621b;2f8b4 0 625d;2f8b5 0 62b1;2f8b6 0 62d4;2f8b7 0 6350;2f8b8 0 22b0c;2f8b9 0 633d;",
  "2f8ba 0 62fc;2f8bb 0 6368;2f8bc 0 6383;2f8bd 0 63e4;2f8be 0 22bf1;2f8bf 0 6422;2f8c0 0 63c5;",
  "2f8c1 0 63a9;2f8c2 0 3a2e;2f8c3 0 6469;2f8c4 0 647e;2f8c5 0 649d;2f8c6 0 6477;2f8c7 0 3a6c;",
  "2f8c8 0 654f;2f8c9 0 656c;2f8ca 0 2300a;2f8cb 0 65e3;2f8cc 0 66f8;2f8cd 0 6649;2f8ce 0 3b19;",
  "2f8cf 0 6691;2f8d0 0 3b08;2f8d1 0 3ae4;2f8d2 0 5192;2f8d3 0 5195;2f8d4 0 6700;2f8d5 0 669c;",
  "2f8d6 0 80ad;2f8d7 0 43d9;2f8d8 0 6717;2f8d9 0 671b;2f8da 0 6721;2f8db 0 675e;2f8dc 0 6753;",
  "2f8dd 0 233c3;2f8de 0 3b49;2f8df 0 67fa;2f8e0 0 6785;2f8e1 0 6852;2f8e2 0 6885;2f8e3 0 2346d;",
  "2f8e4 0 688e;2f8e5 0 681f;2f8e6 0 6914;2f8e7 0 3b9d;2f8e8 0 6942;2f8e9 0 69a3;2f8ea 0 69ea;",
  "2f8eb 0 6aa8;2f8ec 0 236a3;2f8ed 0 6adb;2f8ee 0 3c18;2f8ef 0 6b21;2f8f0 0 238a7;2f8f1 0 6b54;",
  "2f8f2 0 3c4e;2f8f3 0 6b72;2f8f4 0 6b9f;2f8f7 0 23a8d;2f8f8 0 21d0b;2f8f9 0 23afa;2f8fa 0 6c4e;",
  "2f8fb 0 23cbc;2f8fc 0 6cbf;2f8fd 0 6ccd;2f8fe 0 6c67;2f8ff 0 6d16;2f900 0 6d3e;2f901 0 6d77;",
  "2f902 0 6d41;2f903 0 6d69;2f904 0 6d78;2f905 0 6d85;2f906 0 23d1e;2f907 0 6d34;2f908 0 6e2f;",
  "2f909 0 6e6e;2f90a 0 3d33;2f90b 0 6ecb;2f90c 0 6ec7;2f90d 0 23ed1;2f90e 0 6df9;2f90f 0 6f6e;",
  "2f910 0 23f5e;2f911 0 23f8e;2f912 0 6fc6;2f913 0 7039;2f914 0 701e;2f915 0 701b;2f916 0 3d96;",
  "2f917 0 704a;2f918 0 707d;2f919 0 7077;2f91a 0 70ad;2f91b 0 20525;2f91c 0 7145;2f91d 0 24263;",
  "2f91e 0 719c;2f91f 0 243ab;2f920 0 7228;2f921 0 7235;2f922 0 7250;2f923 0 24608;2f924 0 7280;",
  "2f925 0 7295;2f926 0 24735;2f927 0 24814;2f928 0 737a;2f929 0 738b;2f92a 0 3eac;2f92b 0 73a5;",
  "2f92c 1 3eb8;2f92e 0 7447;2f92f 0 745c;2f930 0 7471;2f931 0 7485;2f932 0 74ca;2f933 0 3f1b;",
  "2f934 0 7524;2f935 0 24c36;2f936 0 753e;2f937 0 24c92;2f938 0 7570;2f939 0 2219f;2f93a 0 7610;",
  "2f93b 0 24fa1;2f93c 0 24fb8;2f93d 0 25044;2f93e 0 3ffc;2f93f 0 4008;2f940 0 76f4;2f941 0 250f3;",
  "2f942 0 250f2;2f943 0 25119;2f944 0 25133;2f947 0 771f;2f948 0 774a;2f949 0 4039;2f94a 0 778b;",
  "2f94b 0 4046;2f94c 0 4096;2f94d 0 2541d;2f94e 0 784e;2f94f 0 788c;2f950 0 78cc;2f951 0 40e3;",
  "2f952 0 25626;2f953 0 7956;2f954 0 2569a;2f955 0 256c5;2f956 0 798f;2f957 0 79eb;2f958 0 412f;",
  "2f959 0 7a40;2f95a 0 7a4a;2f95b 0 7a4f;2f95c 0 2597c;2f95d 1 25aa7;2f95f 0 7aee;2f960 0 4202;",
  "2f961 0 25bab;2f962 0 7bc6;2f963 0 7bc9;2f964 0 4227;2f965 0 25c80;2f966 0 7cd2;2f967 0 42a0;",
  "2f968 0 7ce8;2f969 0 7ce3;2f96a 0 7d00;2f96b 0 25f86;2f96c 0 7d63;2f96d 0 4301;2f96e 0 7dc7;",
  "2f96f 0 7e02;2f970 0 7e45;2f971 0 4334;2f972 0 26228;2f973 0 26247;2f974 0 4359;2f975 0 262d9;",
  "2f976 0 7f7a;2f977 0 2633e;2f978 0 7f95;2f979 0 7ffa;2f97a 0 8005;2f97b 0 264da;2f97c 0 26523;",
  "2f97d 0 8060;2f97e 0 265a8;2f97f 0 8070;2f980 0 2335f;2f981 0 43d5;2f982 0 80b2;2f983 0 8103;",
  "2f984 0 440b;2f985 0 813e;2f986 0 5ab5;2f987 0 267a7;2f988 0 267b5;2f989 0 23393;2f98a 0 2339c;",
  "2f98b 0 8201;2f98c 0 8204;2f98d 0 8f9e;2f98e 0 446b;2f98f 0 8291;2f990 0 828b;2f991 0 829d;",
  "2f992 0 52b3;2f993 0 82b1;2f994 0 82b3;2f995 0 82bd;2f996 0 82e6;2f997 0 26b3c;2f998 0 82e5;",
  "2f999 0 831d;2f99a 0 8363;2f99b 0 83ad;2f99c 0 8323;2f99d 0 83bd;2f99e 0 83e7;2f99f 0 8457;",
  "2f9a0 0 8353;2f9a1 0 83ca;2f9a2 0 83cc;2f9a3 0 83dc;2f9a4 0 26c36;2f9a5 0 26d6b;2f9a6 0 26cd5;",
  "2f9a7 0 452b;2f9a8 0 84f1;2f9a9 0 84f3;2f9aa 0 8516;2f9ab 0 273ca;2f9ac 0 8564;2f9ad 0 26f2c;",
  "2f9ae 0 455d;2f9af 0 4561;2f9b0 0 26fb1;2f9b1 0 270d2;2f9b2 0 456b;2f9b3 0 8650;2f9b4 0 865c;",
  "2f9b5 0 8667;2f9b6 0 8669;2f9b7 0 86a9;2f9b8 0 8688;2f9b9 0 870e;2f9ba 0 86e2;2f9bb 0 8779;",
  "2f9bc 0 8728;2f9bd 0 876b;2f9be 0 8786;2f9bf 0 45d7;2f9c0 0 87e1;2f9c1 0 8801;2f9c2 0 45f9;",
  "2f9c3 0 8860;2f9c4 0 8863;2f9c5 0 27667;2f9c6 0 88d7;2f9c7 0 88de;2f9c8 0 4635;2f9c9 0 88fa;",
  "2f9ca 0 34bb;2f9cb 0 278ae;2f9cc 0 27966;2f9cd 0 46be;2f9ce 0 46c7;2f9cf 0 8aa0;2f9d0 0 8aed;",
  "2f9d1 0 8b8a;2f9d2 0 8c55;2f9d3 0 27ca8;2f9d4 0 8cab;2f9d5 0 8cc1;2f9d6 0 8d1b;2f9d7 0 8d77;",
  "2f9d8 0 27f2f;2f9d9 0 20804;2f9da 0 8dcb;2f9db 0 8dbc;2f9dc 0 8df0;2f9dd 0 208de;2f9de 0 8ed4;",
  "2f9df 0 8f38;2f9e0 0 285d2;2f9e1 0 285ed;2f9e2 0 9094;2f9e3 0 90f1;2f9e4 0 9111;2f9e5 0 2872e;",
  "2f9e6 0 911b;2f9e7 0 9238;2f9ea 0 927c;2f9eb 0 93f9;2f9ec 0 9415;2f9ed 0 28bfa;2f9ee 0 958b;",
  "2f9ef 0 4995;2f9f0 0 95b7;2f9f1 0 28d77;2f9f2 0 49e6;2f9f3 0 96c3;2f9f4 0 5db2;2f9f5 0 9723;",
  "2f9f6 0 29145;2f9f7 0 2921a;2f9f8 0 4a6e;2f9f9 0 4a76;2f9fa 0 97e0;2f9fb 0 2940a;2f9fc 0 4ab2;",
  "2f9fd 0 29496;2f9fe 1 980b;2fa00 0 9829;2fa01 0 295b6;2fa02 0 98e2;2fa03 0 4b33;2fa04 0 9929;",
  "2fa05 0 99a7;2fa06 0 99c2;2fa07 0 99fe;2fa08 0 4bce;2fa09 0 29b30;2fa0a 0 9b12;2fa0b 0 9c40;",
  "2fa0c 0 9cfd;2fa0d 0 4cce;2fa0e 0 4ced;2fa0f 0 9d67;2fa10 0 2a0ce;2fa11 0 4cf8;2fa12 0 2a105;",
  "2fa13 0 2a20e;2fa14 0 2a291;2fa15 0 9ebb;2fa16 0 4d56;2fa17 0 9ef9;2fa18 0 9efe;2fa19 0 9f05;",
  "2fa1a 0 9f0f;2fa1b 0 9f16;2fa1c 0 9f3b;2fa1d 0 2a600;e0100 ef;"]

/-- The characters that a character stands for in a host name, unless it is refused. -/
def mapped? (c : Char) : Option (List Char) :=
  if c.toNat < 0x80 then some [c.toLower]
  else if (row? refused c).isSome then none
  else
    match row? replaced c, row? shifted c, row? paired c with
    | some row, _, _ => some (row.values.map Char.ofNat)
    | none, some row, _ => some [Char.ofNat (row.values.headD 0 + (c.toNat - row.first))]
    | none, none, some row => some [Char.ofNat (c.toNat + (row.last - c.toNat) % 2)]
    | none, none, none => some [c]

end NftExchange.Host
