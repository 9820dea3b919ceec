/-!
Data of the root collation order down to accents. All numbers are hexadecimal code points or
accents. `lineUp` has one place for each character in it; the other lists say how the remaining
characters sort. Only lower-case characters without a canonical decomposition are listed, together
with composed letters that have a place of their own.
-/

namespace PlanningSearch.Text.Collation

/-- The characters in order, `first-last` for consecutive ones. -/
def lineUp : List String :=
  ["fffe",
   "9-d 85 2028-2029 20 fe4c 5f 2017 2d 58a 1400 1b60 1806-1807 2011-2015 2e3a-2e3b 2053 2e43 2e17",
   "2e40 2e5d 301c 3030 30a0 30fb 10ead 2c 2e34 2e32 2e41 2e4c 2e4e-2e4f 55d 60c-60d 66b-66c 7f8",
   "1802 1808 a4fe a60d a6f5 16e97 3001 fe45-fe46 16fe2 3b 61b 204f 2e35 a6f6 2e49 3a 589 61e",
   "703-708 830-83e 1361 1363-1366 1804-1805 f14 17d6 1b5d a9c7 16eb-16ed a6f4 21 a1 2e53 55c 7f9",
   "1944 1e95e 3f bf 2e2e 2e54 55e 61f 709 1367 1945 2cfa-2cfb a60f a6f7 aaf1 11143 1e95f 203d",
   "2e18 2e 1801 6d4 701-702 1362 1803 1809 166e 1b5c 2cf9 2cfe 2e30 2e3c a4ff a60e a6f3 16af5",
   "16e98 1bc9f 3002 b7 2e31 2e33 964-965 a8ce-a8cf 1c3b-1c3c a876-a877 1735-1736 a92f 104a-104b",
   "17d4-17d5 1aa8-1aab 1b5e-1b5f a9c8-a9c9 aa5d-aa5f aaf0 abeb 10a56-10a57 11047-11048",
   "110c0-110c1 11141-11142 111c5-111c6 11238-11239 1144b-1144c 115c2-115c3 11641-11642",
   "1173c-1173d 11944 11c41-11c42 11f43-11f44 16a6e-16a6f 1c7e-1c7f 61d 700 7f7 10fb 1360 1368",
   "1a1e-1a1f 1b5a-1b5b 1b7d-1b7e a9c1-a9c6 a9ca-a9cd a6f2 a95f 10857 10b3a-10b3f 10f55-10f59",
   "10f86-10f89 110be-110bf 11140 111c8 111de-111df 112a9 1173e 11946 11ef7-11ef8 11f45-11f4f",
   "2055-2056 2058-205e 2e2a-2e2d 2e3d 2cfc 2cff 2e19 1093f 10100-10102 1039f 103d0 1091f",
   "12470-12474 12ff1-12ff2 27 2039-203a 22 ab bb 28-29 5b 5d 7b 7d f3a-f3d 169b-169c 2045-2046",
   "2308-230b 29fc-29fd 2983-2998 27c5-27c6 27e6-27ef 2768-2775 2e02-2e05 2e09-2e0a 2e0c-2e0d",
   "2e1c-2e1d 2e20-2e29 2e55-2e5c 3008-3011 3014-301b fd3e-fd3f 2016 2e3e 29d8-29db a7 2e39 b6",
   "204b 2e4d 2e3f 40 2a 204e 2051 66d a673 2f 5c 2e4a 26 204a 2e52 23 25 66a 2030 609 2031 60a",
   "2020-2021 2e36-2e38 2e4b 2022-2023 2027 2043 204c-204d 2032 2035 3003 303d 2038 203b 203f 2054",
   "2040 2050 2041-2042 2e00-2e01 2e06-2e08 2e0b 2e0e-2e16 2e1a-2e1b 2e1e-2e1f 2e44-2e48 a67e",
   "55a-55b 55f 5be 5c0 5c3 5c6 70a-70d 85e 1800 11660-1166c 970 a8f8-a8fa a8fc 11b00-11b09 9fd",
   "a76 af0 c77 c84 df4 e4f e5a-e5b aade-aadf f04-f0a fd0-fd1 f0c-f12 f85 fd2-fd4 fd9-fda",
   "11a3f-11a46 11a9a-11a9c 11a9e-11aa2 11c70-11c71 1c3d-1c3f 104c-104f 17d8-17da 1aa0-1aa6",
   "1aac-1aad 1cc0-1cc7 2d70 a874-a875 1bfc-1bff a92e a9de-a9df aa5c 1056f 11049-1104d 10a50-10a55",
   "10a58 11c43-11c45 10b39 10a7f 10af0-10af6 10b99-10b9c 110bb-110bc 11174-11175 111cd 111c7",
   "111db 111dd 1123a-1123d 1144d 1145a 1144e-1144f 1145b 1145d 114c6 115c1 115c4-115d7 11643",
   "116b9 1183b 11945 119e2 11fff 16b37-16b3b 16b44 16e99-16e9a 1da87-1da8b 60 b4 2dc 5e af",
   "2d8-2d9 a8 2da 2dd b8 2db 1fbd 1ffe 1fc0 309b-309c 2b9 375 2ba 2c2-2cf 2d2-2d5 ab6a-ab6b",
   "2d6-2d7 2de-2df 2e5-2ed 2ef-2ff 1390-1399 a700-a721 a788-a78a ab5b 1aff0-1aff3 1aff5-1affb",
   "1affd-1affe b0 482 58d-58e 608 1eef0-1eef1 60e-60f 6de 6e9 fd40-fd4f fdcf fdfd-fdff 888",
   "fbb2-fbc2 7f6 9fa b70 bf3-bf8 bfa 11fd5-11fdc 11fe1-11ff1 c7f d4f d79 a828-a82b a836-a837 a839",
   "f01-f03 f13 f15-f17 f1a-f1f f34 f36 f38 fbe-fc5 fc7-fcc fce-fcf fd5-fd8 166d 1940 109e-109f",
   "aa77-aa79 1173f 19e0-19ff 1b61-1b6a 1b74-1b7c a9 1f12f ae 1f1ad 2104 2108 2114 2117-2118",
   "211e-211f 2123 2125 2127 2129 212e 213a 2141-2144 214a 214c 214f 218a-218b 2190 2192 2191",
   "2193-2199 219c-21ad 21af-21cc 21d0-2203 2205-2208 220a-220b 220d 3f6 220e-2211 2b b1 f7 d7",
   "3c-3e ac 7c a6 7e 207b 2052 2213-2215 2044 2216-221b 606 221c 607 221d-2223 2225 2227-222b",
   "222e 2231-2240 2242-2243 2245-2246 2248 224a-225f 2261 2263-226c 2272-2273 2276-2277 227a-227f",
   "2282-2283 2286-2287 228a-22ab 22b0-22bc 214b 22bd-22df 22e4-22e9 22ee-2307 230c-2328 232b-2426",
   "2440-244a 2500-25ff 1fb00-1fb92 1fb94-1fbca 2600-262f 2638-266c 2670-2689 2690-26ff",
   "1f1e6-1f1ff 2700-2720 2e50-2e51 2721-2767 2794-27c4 27c7-27e5 27f0-27ff 2900-2982 2999-29d7",
   "29dc-29fb 29fe-2a0b 2a0d-2a73 2a77-2adb 2add-2b73 2b76-2b95 2b97-2bff 2ce5-2cea 2800-28ff",
   "268a-268f 2630-2637 4dc0-4dff 1d300-1d356 a490-a4c6 10137-1013f 10179-10189 1018c-1018e",
   "10190-1019c 101a0 101d0-101fc 10877-10878 16b3c-16b3f 16b45 1e14f 1cf50-1cfc3 1d000-1d0f5",
   "1d100-1d126 266d-266f 1d12a-1d139 1d129 1d13a-1d15d 1d16a-1d16c 1d183-1d184 1d18c-1d1a9",
   "1d1ae-1d1ba 1d1c1-1d1ea 1d200-1d241 1d245 1bc9c 1ecac 1ed2e 1f000-1f02b 1f030-1f093",
   "1f0a0-1f0ae 1f0b1-1f0bf 1f0c1-1f0cf 1f0d1-1f0f5 1fa00-1fa53 1fa60-1fa6d 1f10d-1f10f",
   "1f16d-1f16f 1f260-1f265 1f300-1f5ff 1f900-1f9ff 1fa70-1fa7c 1fa80-1fa88 1fa90-1fabd",
   "1fabf-1fac5 1face-1fadb 1fae0-1fae8 1faf0-1faf8 1f600-1f6d7 1f6dc-1f6ec 1f6f0-1f6fc",
   "1f700-1f776 1f77b-1f7d9 1f7e0-1f7eb 1f7f0 1f800-1f80b 1f810-1f847 1f850-1f859 1f860-1f887",
   "1f890-1f8ad 1f8b0-1f8b1 1d800-1d9ff 1da37-1da3a 1da6d-1da74 1da76-1da83 1da85-1da86 2ff0-2fff",
   "31ef 31c0-31e3 3004 3012-3013 3020 3037 303e-303f 3190-3191 327f fffc 2d0-2d1 971 e46 ec6 17d7",
   "1aa7 a9cf a9e6 aa70 aadd aaf3-aaf4 16b42-16b43 1e13c-1e13d 3005 303b 16fe0-16fe1 16fe3 3031",
   "3033 3035 309d 30fc-30fd a4 a2 24 a3 a5 58f 60b 7fe-7ff 9f2-9f3 9fb af1 a838 bf9 11fdd-11fe0",
   "e3f 17db 1e2ff 20a0-20a6 20a9-20b9 1ecb0 20ba-20c0 30-39 9f4-9f9 b72-b77 a830-a835 bf0-bf2",
   "11fc0-11fd4 d58-d5e d70-d78 1372-137c 2180-2182 2186-2188 10e69-10e7e 2cfd 10322-10323",
   "10cfc-10cff 10110-10133 10140-10141 10144-10147 10149-1014e 10150-10157 10160-10172",
   "10174-10178 1018b 102ea-102fb 103d3-103d5 1087e-1087f 108ad-108af 108fd-108ff 10a7e",
   "10a9e-10a9f 10917-10919 1085b-1085f 10aed-10aef 10b5c-10b5f 10b7c-10b7f 10bad-10baf",
   "10f22-10f26 10f52-10f54 10fc9-10fcb 1173a-1173b 1105b-11065 10a44-10a48 11c63-11c6c",
   "111ea-111f4 118ea-118f2 16b5b-16b61 16e8a-16e93 1d2ca-1d2d3 1d2ea-1d2f3 1ec7a-1eca2",
   "1ecad-1ecaf 1ecb3-1ecb4 1ed0a-1ed2d 1ed37-1ed3d 109c9-109cf 109d2-109f5 109bd 109f6-109ff",
   "109bc 12432-12433 1245a-12468 1d369-1d371 61 1d00 2c65 1d8f a7bb 1d01-1d02 ab31 250-251 ab30",
   "1d90 252 ab64 62 299 180 1d2f 1d03 1d6c a797 1d80 253 183 1de9 63 1d04 23c a793-a794 1df1d 188",
   "255 2184 a73f 64 1d05-1d06 a7c8 1d6d 1d81 256-257 1df25 1d91 18c 221 a771 1e9f 65 1d07",
   "ab32-ab33 247 1d92 ab34 2c78 1dd 2c7b 259 1d95 25b 1d93 258 25a 25c 1d94 1d08 25d-25e 29a 264",
   "66 a730 ab35 a799 1d6e 1d82 192 214e a7fb 67 a7d1 261 1df01 ab36 262 1e5 1d83 10793-10794 1d77",
   "1df02 a77f 263 1a3 68 29c 195 a795 266 2c68 2c76 a7f6 a727 267 2bb 2bd 69 131 26a a7fe a7f7",
   "1d09 268 1d7b 1df1a 1d96 a7bd 269 1d7c 6a 237 1d0a 249 29d 25f 284 6b 1d0b 1d84 199 2c6a a741",
   "a743 a745 1df03 29e 1df10 6c 29f a747 1d0c a749 19a 2c61 26b ab38-ab39 1079b-1079c 1df13 ab37",
   "1d85 26d 1df26 a78e 1df11 234 a772 1079e-1079f a781 19b 107a0-107a1 6d 1d0d 1d6f 1d86 271 ab3a",
   "a7fd a7ff a773 6e 274 1d3b 1d0e 1d70 272 19e a791 1d87 273 1df27 235 ab3b a774 14b ab3c 1df14",
   "1df07 6f 1d0f 1d11 ab3d 276 1d14 ab41-ab42 ab40 ab43-ab44 1d13 ab3e 1df1b 254 1d10 1d12 ab3f",
   "1d97 ab62 a74d 1d16-1d17 2c7a 275 a74b 277 a7b7 223 1d15 70 1d18 1d7d a751 1d71 1d88 1a5 a753",
   "a755 a7fc 278 2c77 71 a7af a757 a759 2a0 24b 138 72 ab45 280 ab46 1d19 24d 1d72 279 1d1a",
   "107a6-107a7 27b 2c79 1d89 27c-27d 1df28 ab49 27e 1d73 1df16 27f ab47-ab48 ab4a-ab4c 281 ab68",
   "1df15 a775-a776 a75d 73 a731 a7ca 1d74 1d8a 282 1df29 107ba 23f a7d7 1e9c-1e9d 283 ab4d 1d8b",
   "1d98 1aa 285-286 1df0b-1df0c 74 1d1b 167 2c66 1d75 1ab 1ad 288 1df2a 1df09 236 a777 287 1df0d",
   "75 1d1c ab4e 1d1d-1d1e 1d6b ab50-ab51 289 ab4f a7b9 1d7e 1d99 ab52 a7bf 265 2ae-2af 26f a7fa",
   "1d1f 270 28a 1d7f 76 1d20 a75f 1d8c 28b 2c71 2c74 1efd 28c 77 1d21 2c73 28d 78 1d8d ab56-ab59",
   "ab53-ab55 79 28f 24f 1b4 1eff ab5a 21d 7a 1d22 1b6 1d76 1d8e 225 290-291 240 2c6c a763 292",
   "1d23 1b9 1df18 1d9a 1ba 293 fe a7d3 a765 a767 1bf a7d5 a769 ab60-ab61 ab63 a76b a76d 1dd2 a778",
   "1bb a72b a72d a72f 1a8 1bd 185 294 242 2c0 2bc 2ee 2be a723 a78c a78f 295 2bf 2c1 1d24-1d25",
   "a725 2a1-2a2 296 1df0e 1c0-1c3 107b9 297 1df0f 298 2ac-2ad 3b1-3b3 1d26 3b4-3b5 3dd 377 3db",
   "3b6 371 3b7-3b9 3f3 3ba-3bb 1d27 3bc-3c0 1d28 3fb 3df 3d9 3c1 1d29 3fc 3c2 37c 37b 37d 3c4-3c8",
   "1d2a 3c9 ab65 3e1 373 3f8 2c81 2c83 2c85 2c87 2c89 2cb7 2c8b 2c8d 2c8f 2c91 2c93 2c95 2cb9",
   "2c97 2c99 2c9b 2cbb 2cbd 2c9d 2c9f 2ca1 2ca3 2ca5 2ca7 2ca9 2cab 2cad 2caf 2cb1 2cbf 2cc1 3e3",
   "2cec 2cc3 2cc5 2cc7 3e5 3e7 2cf3 2cc9 3e9 2ccb 2ccd 2ccf 2cd1 2cd3 2cd5 3eb 2cee 2cd7 3ed 2cd9",
   "2cdb 2cdd 3ef 2cb3 2cb5 2cdf 2ce1 2ce3 430 4d9 4d5 431-433 493 4fb 495 4f7 434 501 a681 452",
   "a663 503 499 435 454 436 52b a685 497 437 a641 505 511 a643 455 a645 4e1 a689 507 a683 438 48b",
   "456 a647 439 458 2df8 43a 49b 4c4 4a1 49f 49d 51f 51b 43b 1d2b 4c6 52f 513 521 459 a665 509",
   "515 43c 4ce a667 43d 529 4ca 4a3 4c8 523 4a5 45a 50b 43e 4e9 43f 525 4a7 481 440 48f 517 441",
   "50d 4ab 442 a68d 50f 4ad a68b 45b 443 4af 4b1 1c88 479 444-445 4fd 4ff 4b3 4bb 527 a695 461",
   "47f a64d 47d 47b 446 a661 a68f 4b5 a691 447 52d a693 4b7 4cc 4b9 a687 4bd 4bf 45f 448 a697 449",
   "a64f 2e2f a67f 44a a651 44b-44c 48d 463 a653 44d-44e a655 2dfc 44f 519 465 467 a659 46b a65b",
   "469 a65d 46d 46f 471 473 475 a65f 4a9 51d 4cf 2c30-2c5f 10350-10375 10d0 2d00 10d1 2d01 10d2",
   "2d02 10d3 2d03 10d4 2d04 10d5 2d05 10d6 2d06 10f1 2d21 10d7 2d07 10d8 2d08 10d9 2d09 10da 2d0a",
   "10db 2d0b 10dc 2d0c 10f2 2d22 10dd 2d0d 10de 2d0e 10df 2d0f 10e0 2d10 10e1 2d11 10e2 2d12 10f3",
   "2d23 10e3 2d13 10e4 2d14 10e5 2d15 10e6 2d16 10e7 2d17 10e8 2d18 10e9 2d19 10ea 2d1a 10eb 2d1b",
   "10ec 2d1c 10ed 2d1d 10ee 2d1e 10f4 2d24 10ef 2d1f 10f0 2d20 10f5 2d25 10f6-10f7 2d27 10f8-10fa",
   "10fd 2d2d 10fe-10ff 561 560 562-575 588 576-586 559 5d0-5da 5dc-5dd 5e0-5e3 5e6-5ea",
   "10900-10915 800-817 81a-81b 621-623 672 671 624-625 673 773-774 626 8a8-8a9 8ac-8ad 66e 628",
   "fb55-fb56 680 750-755 8a0 756 8be 8a1 8b6-8b7 629-62b 679-67a 67c-67d 67f 8b8 8bf-8c0 62c",
   "683-684 88a 686 6bf 687 8a2 8c1 8c5-8c6 62d-62e 681-682 685 757-758 76e-76f 772 77c 62f-630",
   "688-68d 8ae 68e-690 6ee 759-75a 631-632 691-699 6ef 75b 76b-76c 771 8aa 8b2 8b9 633-634",
   "69a-69c 6fa 75c 76d 770 77d-77e 635-636 69d 8af 69e 6fb 637-638 69f 8a3 88b-88c 639-63a 6a0",
   "8c3 6fc 75d-75f 8b3 641 6a1-6a2 8bb 6a3-6a4 8a4 6a5-6a6 760-761 66f 642 6a7 8bc 6a8 8c4 8a5",
   "8b5 643 6a9-6ac 77f 6ad-6ae 8b4 6af 8b0 8c8 6b0-6b4 762 63b 88d 63c 763-764 8c2 644 6b5-6b8",
   "76a 8a6 8c7 645 765-766 8a7 646 6ba 8bd 6bb-6bd 6b9 767-769 889 647 6be 6c1 6c3 6ff 6d5 648",
   "6c4-6cb 8b1 6cf 778-779 8ab 649-64a 6cc-6ce 6d0-6d1 63d-63f 620 775-777 8ba 6d2 77a-77b 88e",
   "710 712-713 716 715 717-719 74d 71a-71b 71d-71f 74e 720-723 725-726 74f 728-72c 860-86a",
   "840-858 780 799-79a 781-783 79c 784-787 7a2-7a3 788 7a5 789-78b 79b 78c 798 7a0-7a1 78d-78e",
   "7a4 78f-790 79d-79f 791-797 7b1 7a6-7b0 7ca-7e7 7f4-7f5 2d30-2d3b 2d66 2d3c-2d53 2d67",
   "2d54-2d65 2d6f 1200-120f 2d80 1210-121f 1380 1e7ed 1381 1e7ee 1382-1383 2d81 1220-122f 2d82",
   "1230-1237 2d83 ab01-ab06 1238-123f 2d84 1240-1248 1e7f0 124a-124b 1e7f1 124c 1e7f2 124d",
   "1250-1256 1258 125a-125d 1260-1267 1384 1e7f3 1385 1e7f4 1386-1387 2d85 1268-1277 2d86",
   "1278-127f 2d87 1280-1288 128a-128d 1290-1297 2d88 1298-129f 2d89 12a0-12a7 2d8a 12a8-12b0",
   "1e7f5 12b2-12b3 1e7f6 12b4 1e7f7 12b5 12b8-12be 1e7e8 12c0 1e7e9 12c2-12c3 1e7ea 12c4 1e7eb",
   "12c5 12c8-12d6 12d8-12df 2d8b ab11-ab16 12e0-12f7 2d8c ab09-ab0e 12f8-12ff 2d8d 1300-1307 2d8e",
   "1308-1310 1e7f8 1312-1313 1e7f9 1314 1e7fa 1315 1318-131f 2d93-2d96 1320-1327 2d8f 1328-132f",
   "2d90 ab20-ab26 1330-1337 2d91 1338-133f ab28-ab2e 1340-134f 1388 1e7fb 1389 1e7fc 138a-138b",
   "1350-1357 138c 1e7fd 138d 1e7fe 138e-138f 2d92 1358-135a 2da0-2da6 2da8-2dae 2db0-2db6",
   "2db8-2dbe 2dc0-2dc6 2dc8-2dce 1e7e0 2dd0 1e7e1 2dd1 1e7e2 2dd2 1e7e3 2dd3 1e7e4 2dd4 1e7e5",
   "2dd5 1e7e6 2dd6 2dd8-2dde 950 a8fd 972 904-906 973-977 907-90b 960 90c 961 90d-910 a8fe",
   "911-917 97b 918-91c 979 97c 91d-920 978 921 97e 922-928 92a-92c 97f 92d-92f 97a 930 932-933",
   "935-939 93d 97d 1ce9 1cf5-1cf6 a8f2 a8fb 93e 93a-93b 94f 956-957 93f-944 962-963 945 955",
   "946-947 94e 948 a8ff 949-94d 980 985-98b 9e0 98c 9e1 98f-990 993-9a8 9aa-9b0 9f0 9b2 9f1",
   "9b6-9b9 9bd-9c4 9e2-9e3 9c7-9c8 9cb-9cd 9d7 9fc a74 a73 a09-a0a a13 a05-a06 a10 a14 a72",
   "a07-a08 a0f a38-a39 a51 a15-a28 a2a-a2f a75 a30 a32 a35 a5c a3e-a42 a47-a48 a4b-a4d ad0",
   "a85-a8b ae0 a8c ae1 a8d a8f-a91 a93-a9c af9 a9d-aa8 aaa-ab0 ab2 ab5-ab9 ab3 abd-ac4 ae2-ae3",
   "ac5 ac7-ac9 acb-acd b05-b0b b60 b0c b61 b0f-b10 b13-b28 b2a-b2f b5f b30 b32-b33 b35 b71",
   "b36-b39 b3d-b44 b62-b63 b47-b48 b4b-b4d b56-b57 bd0 b85-b8a b8e-b90 b92-b94 b83 b95 b99-b9a",
   "b9e-b9f ba3-ba4 ba8 baa bae-bb0 bb2 bb5 bb4 bb3 bb1 ba9 b9c bb6-bb9 bbe-bc2 bc6-bc8 bca-bcd",
   "bd7 c05-c0b c60 c0c c61 c0e-c10 c12-c1a c58 c1b-c1c c59 c1d-c28 c2a-c32 c35-c39 c33-c34 c5a",
   "c3d-c44 c62-c63 c46-c48 c4a-c4d c55-c56 c85-c8b ce0 c8c ce1 c8e-c90 c92-ca8 caa-cb2 cb5-cb9",
   "cb3 cde cbd cf1-cf2 c80 cbe-cc4 ce2-ce3 cc6-cc8 cca-ccd cd5-cd6 d05-d08 d5f d09-d0b d60 d0c",
   "d61 d0e-d10 d12-d30 d32 d35-d39 d33-d34 d31 d3a d3d d04 d3e-d44 d62-d63 d46-d48 d4a-d4c d57",
   "d3b d85-d96 d9a-db1 db3-dbb dbd dc0-dc6 dcf-dd4 dd6 dd8 df2 ddf df3 dd9-dde dca aaf2 abc0-abda",
   "aae0-aaea abe3-abea aaeb-aaef aaf5 abdb-abe2 abed aaf6 a800-a806 a82c a807-a80a a80c-a827",
   "a882-a8c4 11083-11099 1109b 1109d-110aa 110ac-110b4 110c2 110b5-110b9 11150-1116f 11176",
   "11170-11172 111c4 111da 11183-111b2 111c1-111c3 111dc 111b3-111bc 111ce 111bd-111c0",
   "11200-11201 11240 11202-11208 1123f 11209-11211 11213-1122f 11241 11230-11233 11235",
   "112b0-112de 112e0-112e8 112ea 11280-11283 112a5-112a6 11284-11286 11288 1128a-1128d",
   "1128f-1129d 1129f-112a4 112a7-112a8 11350 11305-1130b 11360 1130c 11361 1130f-11310",
   "11313-11328 1132a-11330 11332-11333 11335-11339 1133d 1135e-1135f 1133e-11344 11362-11363",
   "11347-11348 1134b-1134d 11357 1135d 11449-1144a 11400-11434 11447 11460-11461 11448 1145f",
   "11435-11442 114c7 11480-114af 114c4-114c5 114b0-114be 114c2 11580-115b5 115b8-115bb 115bf",
   "11600-1163c 1163f 11644 11680-11689 116a8 116a7 116a9 1168a-1168b 116b8 1168c-116a6 116aa",
   "116ad-116b6 11900-11906 11909 1190c-11910 1193f 11911-11913 11915-11916 11918-11925 11940",
   "11926 11941 11927 11942 11928-11935 11937-11938 1193d-1193e 119a0-119a7 119aa-119d0 119e1",
   "119e3 119d1-119d7 119da 119e4 119db-119dd 119e0 11800-11836 11839 11700-11704 11706-11715",
   "11717-11719 11740-11746 11720-1172b 1171d-1171f 11d00-11d06 11d08-11d09 11d0b-11d36 11d3a",
   "11d3c-11d3d 11d3f 11d44-11d45 11d98 11d60-11d65 11d67-11d68 11d6a-11d8e 11d90-11d91",
   "11d93-11d94 11d97 1b83-1b8a 1bae 1b8b-1b98 1bbd 1b99 1bac 1b9a 1ba1 1b9b 1ba2 1bbb 1b9c 1ba3",
   "1bbc 1b9d 1bad 1b9e-1b9f 1baf 1ba0 1ba4-1bab 11005-1100e 11071 1100f-11010 11072 11011-11033",
   "11003-11004 11034-11035 11075 11036-11041 11073 11042-11043 11074 11044-11046 1107f 11070",
   "10a00-10a03 10a05-10a06 10a0c 10a10 10a32 10a11-10a13 10a15-10a17 10a19-10a1a 10a34 10a1b",
   "10a33 10a1c-10a2c 10a35 10a2d-10a31 10a3f 11c00-11c08 11c0a-11c2e 11c40 11c2f-11c36",
   "11c38-11c3b 11c3f e01-e3a e40-e45 ede e81-e82 e84 e86-e89 eaa e8a e8c e8e edf e8d e8f-ea3 ea5",
   "ea7-ea9 eab-ebd ec0-ec4 aa80-aabe aac0 aac2 aadb-aadc f40 f90 f6b f41 f91 f42 f92 f44 f94 f45",
   "f95 f46 f96 f47 f97 f49 f99 f4a f9a f4b f9b f4c f9c f4e f9e f4f f9f f50 fa0 f51 fa1 f53 fa3",
   "f54 fa4 f55 fa5 f56 fa6 f58 fa8 f59 fa9 f5a faa f5b fab f5d fad f5e fae f5f faf f60 fb0 f61",
   "fb1 f62 fb2 f6c f63 fb3 f64 fb4 f65 fb5 f66 fb6 f67 fb7 f68 fb8 f88 f8d f89 f8e f8c f8f",
   "f8a-f8b f71-f73 f80-f81 f74-f7d f84 11a0b 11a32 11a0c-11a31 11a00-11a0a 11a34 11a47",
   "11a50-11a53 11a59-11a5a 11a54 11a56 11a55 11a57-11a58 11a5b-11a5c 11a83 11a5d-11a82",
   "11a84-11a85 11a99 11a9d 11c72 11c92 11c73 11c93 11c74 11c94 11c75 11c95 11c76 11c96 11c77",
   "11c97 11c78 11c98 11c79 11c99 11c7a 11c9a 11c7b 11c9b 11c7c 11c9c 11c7d 11c9d 11c7e 11c9e",
   "11c7f 11c9f 11c80 11ca0 11c81 11ca1 11c82 11ca2 11c83 11ca3 11c84 11ca4 11c85 11ca5 11c86",
   "11ca6 11c87 11ca7 11c88-11c89 11ca9 11c8a 11caa 11c8b 11cab 11c8c 11cac 11c8d 11cad 11c8e",
   "11cae 11c8f 11caf-11cb4 1c00-1c09 1c4d-1c4f 1c0a-1c1a 1c24 1c1b 1c25 1c1c-1c23 1c36 1c26-1c35",
   "a840-a847 a869-a86c a848-a853 a867 a854-a857 a868 a86d a858 a871-a872 a859-a85a a86e a85b-a85c",
   "a86f-a870 a85d a862-a865 a85e-a861 a866 a873 1900-191c 1920-192b 1930-1938 1700-170d 171f",
   "170e-1715 1720-1734 1740-1753 1760-176c 176e-1770 1772-1773 1a00-1a1b 11ee0-11ef6 1bc1-1bc2",
   "1bc6-1bc7 1bca-1bcb 1bcf-1bd2 1bd5-1bd6 1bda-1bdb 1bdd-1bde 1be0-1be5 1be8-1bea 1bed-1bee",
   "1bf0-1bf3 a930-a953 a90a-a92a 1000 1075 1001 1076 1002 1077 aa60 a9e9 1003 a9e0 a9ea 1004 105a",
   "1005 1078 aa61 1006 a9e1 aa62 aa7e 1007 aa63 a9eb 1079 aa72 1008 105b a9e2 aa64 a9ec 1061 aa7f",
   "1009 107a aa65 a9e7 100a-100b aa66 100c aa67 100d aa68 a9ed 100e aa69 a9ee 100f 106e a9e3 a9ef",
   "1010-1012 107b a9fb 1013 aa6a a9fc 1014 107c aa6b 105e 1015-1016 107d-107e aa6f 108e a9e8 1017",
   "107f a9fd 1018 a9e4 a9fe 1019 105f 101a 103b 101b aa73 aa7a 103c 101c 1060 101d 103d 1082 1080",
   "1050-1051 1065 101e aa6c 101f 1081 aa6d 103e aa6e aa71 1020 a9fa 105c-105d 106f-1070 1066",
   "1021-1026 1052-1055 1027-102b 1083 1072 109c 102d 1071 102e 1033 102f 1073-1074 1030 1056-1059",
   "1031 1084 1035 1085 1032 109d 1086 1034 1062 1067-1068 a9e5 1039-103a 1063-1064 1069-106d 1087",
   "108b 1088 108c-108d 1089-108a 108f 109a-109b aa7b-aa7d aa74-aa76 10d00 10d1d-10d21 10d01-10d1c",
   "10d22-10d23 11103-11123 11147 11124-11126 11144 11127-11132 11145-11146 11133-11134 1780-17a2",
   "17dc 17a3-17b3 17b6-17c5 17d2 1950-196d 1970-1974 1980-19ab 19b0-19c9 1a20-1a4c 1a53 1a6b",
   "1a55-1a57 1a5c-1a5e 1a4d-1a52 1a61 1a6c 1a62-1a63 1a65-1a6a 1a6e-1a6f 1a73 1a70-1a72 1a6d 1a60",
   "aa00-aa28 aa33-aa36 aa29-aa32 aa40-aa4d 1b05-1b13 1b45-1b46 1b14-1b22 1b47 1b23-1b27 1b48",
   "1b28-1b2f 1b49 1b30-1b32 1b4a-1b4b 1b33 1b35-1b44 a984-a9aa a9be a9ab a9bf a9ad-a9b2 a9b4 a9bc",
   "a9b6-a9b9 a9bd a9ba-a9bb a9c0 11f04-11f10 11f12-11f2c 11f02 11f2d-11f3a 11f3e-11f42 1880-1886",
   "1843 1820 1887 1821 1844 185d 1822 1845 185e 1873 1888 185f 1823 1846 1824 1847 1861 1825 1848",
   "1826 1849 1860 1827-1829 184a 1862 188a 189b 182a 184b 182b 184c 1866 182c 184d 182d 184e 1864",
   "189a 1865 182e 184f 182f-1831 1867 189c-189d 18a2 18a4-18a5 1832 1850 1868 1833 1851 1869 1834",
   "1852 1871 1878 185c 188b 1835 1853 186a 1877 1836 1855 1872 1837 1875 1838 1856 1839 186b 1876",
   "183a 1857 1863 1874 1889 183b-183c 1854 186e 183d 186f 1858 186c 183e 1859 186d 183f-1842",
   "185a-185b 1870 188c 189e 188d-188e 189f 188f-1890 1898 18a0 1891 18a1 1892-1893 18a8 1894 18a3",
   "1895 1899 1896-1897 18a6-18a7 18aa 18a9 1c5a-1c7d ab70-abbf 13f8-13fd 104d8-104fb 1401-157b",
   "157d 166f 157e-158d 1670 158e-1595 1671-1676 1596-15a6 157c 15a7-166c 1677-167f 18b0-18f5",
   "11ab0-11abf 1681-169a 16a0 16a2 16a6 16a8 16f4 16af-16b2 16f1 16b7 16b9-16ba 16be 16c1 16f5",
   "16c3 16c5 16c7-16ca 16f2 16cf 16d2 16d6 16f6 16d7 16da 16dc 16de-16df 16f3 16aa 16f7 16ab 16f8",
   "16a3 16e0 16e3 16b8 16e4 16e1-16e2 16e5-16e6 10cc0 10cc2-10cc9 10ccc-10cd0 10cd2-10cdb 10cdd",
   "10ce0-10ce2 10ce4-10cea 10cec 10cee-10cf2 10c00 10c02-10c03 10c05-10c07 10c09 10c0b 10c0d",
   "10c0f 10c11 10c13-10c14 10c16 10c18 10c1a 10c1c 10c1e 10c20-10c24 10c26 10c28 10c2a",
   "10c2c-10c2d 10c2f-10c32 10c34 10c36 10c38 10c3a 10c3c-10c3f 10c41 10c43 10c45 10c47-10c48",
   "a500-a60c a6a0-a6ef 16800-16a38 16ad0-16aed 1e800-1e8c4 16e60-16e7f 1e922-1e943 1e94b",
   "1100-115e a960-a97c 115f-11a7 d7b0-d7c6 11a8-11ff d7cb-d7fb 32d0-32d2 1b000 32d3-32f3 1b120",
   "3085 1b121 32f5-32fc 1b11f 3091-3093 1b002-1b00e 1b001 1b00f-1b11e 3105-3107 31ac 3108 312a",
   "3109-310b 312f 310c-310e 312b 31ad 310f-3111 312c 3112 31bc-31bd 3113-3119 31b8-31ba 311a-311b",
   "31a6 311c-311d 31a4 311e-3124 31b2 3125 31b0-31b1 3126-3129 312d 31be-31bf a000-a48c a4f8-a4fb",
   "a4fd a4fc a4d0-a4e9 a4eb a4ed a4ea a4ec 11fb0 a4ee-a4f7 16f00-16f03 16f45 16f04-16f05",
   "16f07-16f0d 16f48 16f0e-16f0f 16f4a 16f10-16f12 16f14-16f24 16f26-16f32 16f47 16f33 16f46",
   "16f34-16f39 16f49 16f3a-16f3e 16f40-16f44 16f50-16f53 16f4f 16f54-16f58 16f81 16f59-16f5c",
   "16f83 16f5d-16f60 16f84 16f61-16f65 16f86 16f66-16f6d 16f7f 16f87 16f6e-16f72 16f80",
   "16f73-16f74 16f85 16f82 16f75-16f7e 16f8f-16f9f 118ff 118c0-118df 11ad5-11adb 11ac0-11ad4",
   "11adc-11add 11adf-11ae3 11ade 11ae4 11aef 11af2 11af1 11ae6 11ae9 11ae5 11ae8 11af4 11af7",
   "11af3 11af6 11aec 11aee 11aeb 11aed 11af5 11af8 11ae7 11aea 11af0 16b00-16b2f 16b40-16b41",
   "16b63-16b77 16b7d-16b8f 1e100-1e12c 1e137-1e13b 1e14e 1e290-1e2ad 1e2c0-1e2eb 1e4d0-1e4eb",
   "10280-1029c 102a0-102d0 10920-10939 10300-1030e 1031f 1030f-1031e 1032d-1034a 10428-1047f",
   "1bc00-1bc6a 1bc70-1bc7c 1bc80-1bc88 1bc90-1bc99 10480-1049d 10500-10527 10530-10563",
   "10597-105a1 105a3-105b1 105b3-105b9 105bb-105bc 110d0-110e8 16a40-16a5e 16a70-16abe",
   "10000-1000b 1000d-10026 10028-1003a 1003c-1003d 1003f-1004d 10050-1005d 10080-100fa",
   "10600-10736 10740-10755 10760-10767 10800-10805 10808 1080a-10835 10837-10838 1083c 1083f",
   "12f90-12ff0 10a60-10a7c 10a80-10a9c 10b00-10b2d 10b2f-10b35 10860-1086d 1086f-10876",
   "10881-10882 10884-10886 10888-1088c 1088f-10890 10893-10894 10896-1089c 1089e 108e0-108f2",
   "108f4-108f5 10840-10855 10b40-10b55 10b60-10b72 10b80-10b91 10fe0-10ff5 10ac0-10ac7",
   "10ac9-10ae4 10f01-10f02 10f04-10f05 10f07-10f0e 10f11-10f12 10f14-10f15 10f18-10f1a",
   "10f30-10f44 10f70-10f81 10e80-10ea0 10eb0 10ea1-10ea8 10eb1 10ea9 10fb0-10fc4 10380-1039d",
   "103a0-103c3 103c8-103cf 12000-12262 122d4-122d5 12263-122d3 122d6-12399 12480-12543",
   "13000-1342f 13441-13446 109a0-109af 109b1-109b7 109be-109bf 1099e-1099f 14400-14646",
   "17000-187f7 18d00-18d08 18800-18aff 1b170-1b2fb 18b00-18cd5"]

/-- Characters that share the place of another one: `first-last:other` when consecutive characters
share consecutive places, `first-last=other` when they all share one. -/
def likened : List String :=
  ["a0:20 aa:61 b2-b3:32 b5:3bc b9:31 ba:6f 260:10793 26c:1079b 26e:1079e 27a:107a6 28e:107a0",
   "29b:10794 2b0:68 2b1:266 2b2:6a 2b3:72 2b4:279 2b5:27b 2b6:281 2b7:77 2b8:79 2e0:263 2e1:6c",
   "2e2:73 2e3:78 2e4:295 363:61 364:65 365:69 366:6f 367:75 368:63 369:64 36a:68 36b:6d 36c:72",
   "36d:74 36e:76 36f:78 37a:3b9 384:b4 3c3:3c2 3d0:3b2 3d1:3b8 3d2:3c5 3d5:3c6 3d6:3c0 3f0:3ba",
   "3f1:3c1 3f2:3c2 3f5:3b5 5db:5da 5de-5df:5dd 5e4-5e5:5e3 627:8ad 660-669:30 674:621 67b:fb55",
   "67e:fb56 6e5:648 6e6:64a 6f0-6f9:30 724:723 7c0-7c9:30 870-882=8ad 883:621 884:648 885-886=64a",
   "887:621 8c9:6cc 966-96f:30 9e6-9ef:30 a66-a6f:30 ae6-aef:30 b66-b6f:30 be6-bef:30 c66-c6f:30",
   "c78-c7b:30 c7c-c7e:31 ce6-cef:30 d3c:d3b d4d:d3b d66-d6f:30 de6-def:30 e50-e59:30 ed0-ed9:30",
   "f0b:f0c f20-f29:30 f2a-f32:31 f33:30 102c:102b 1040-1049:30 1090-1099:30 10fc:10dc",
   "1369-1371:31 1680:20 17e0-17e9:30 17f0-17f9:30 1810-1819:30 1946-194f:30 19d0-19d9:30 19da:31",
   "1a58-1a59=1a26 1a5a-1a5b=1a3b 1a64:1a63 1a80-1a89:30 1a90-1a99:30 1abf:77 1ac0:28d",
   "1b50-1b59:30 1bb0-1bb9:30 1bba:1b83 1bbe:1b8a 1bbf:1b99 1bc0:1bc1 1bc3-1bc4=1bc2 1bc5:1bc6",
   "1bc8-1bc9:1bc7 1bcc-1bcd=1bcb 1bce:1bcf 1bd3-1bd4:1bd2 1bd7-1bd8:1bd6 1bd9:1bda 1bdc:1bdb",
   "1bdf:1bde 1be7:1be8 1beb-1bec:1bea 1bef:1bee 1c40-1c49:30 1c50-1c59:30 1c80:432 1c81:434",
   "1c82:43e 1c83:441 1c84-1c85=442 1c86:44a 1c87:463 1cea-1cec=1ce9 1cee-1cf1=1ce9 1cfa:1ce9",
   "1d2c:61 1d2e:62 1d30:64 1d31:65 1d32:1dd 1d33:67 1d34:68 1d35:69 1d36:6a 1d37:6b 1d38:6c",
   "1d39:6d 1d3a:6e 1d3c:6f 1d3d:223 1d3e:70 1d3f:72 1d40:74 1d41:75 1d42:77 1d43:61 1d44-1d45:250",
   "1d46:1d02 1d47:62 1d48:64 1d49:65 1d4a:259 1d4b:25b 1d4c:1d08 1d4d:67 1d4e:1d09 1d4f:6b",
   "1d50:6d 1d51:14b 1d52:6f 1d53:254 1d54-1d55:1d16 1d56:70 1d57:74 1d58:75 1d59:1d1d 1d5a:26f",
   "1d5b:76 1d5c:1d25 1d5d-1d5e:3b2 1d5f:3b4 1d60-1d61:3c6 1d62:69 1d63:72 1d64:75 1d65:76",
   "1d66-1d67:3b2 1d68:3c1 1d69-1d6a:3c6 1d78:43d 1d9b:252 1d9c:63 1d9d:255 1d9f:25c 1da0:66",
   "1da1:25f 1da2:261 1da3:265 1da4:268 1da5:269 1da6:26a 1da7:1d7b 1da8:29d 1da9:26d 1daa:1d85",
   "1dab:29f 1dac:271 1dad:270 1dae:272 1daf:273 1db0:274 1db1:275 1db2:278 1db3:282 1db4:283",
   "1db5:1ab 1db6:289 1db7:28a 1db8:1d1c 1db9:28b 1dba:28c 1dbb:7a 1dbc-1dbd:290 1dbe:292 1dbf:3b8",
   "1dca:72 1dda:67 1ddb:262 1ddc:6b 1ddd-1dde:6c 1ddf:1d0d 1de0-1de1:6e 1de2:280 1de4:73 1de6:7a",
   "1de7:251 1de8:62 1dea:259 1deb:66 1dec:ab38 1dee:70 1def:283 1df1:77 1fbf:1fbd 2002-200a=20",
   "2010:2011 2024:2e 202f:20 203e:fe4c 205f:20 2070:30 2071:69 2074-2079:34 207a:2b 207c:3d",
   "207d-207e:28 207f:6e 2080-2089:30 208a:2b 208b:207b 208c:3d 208d-208e:28 2090:61 2091:65",
   "2092:6f 2093:78 2094:259 2095:68 2096:6b 2097:6c 2098:6d 2099:6e 209a:70 209b:73 209c:74",
   "2102:63 2107:25b 210a:67 210b-210e=68 2110-2111=69 2112-2113=6c 2115:6e 2119:70 211a:71",
   "211b-211d=72 2124:7a 2128:7a 212c:62 212d:63 212f-2130=65 2131:66 2133:6d 2134:6f",
   "2135-2138:5d0 2139:69 213c:3c0 213d-213e=3b3 213f:3c0 2140:2211 2145-2146=64 2147:65 2148:69",
   "2149:6a 2170:69 2174:76 2179:78 217c:6c 217d:63 217e:64 217f:6d 2185:36 2212:207b 2460-2468:31",
   "24d0:61 24d1:62 24d2:63 24d3:64 24d4:65 24d5:66 24d6:67 24d7:68 24d8:69 24d9:6a 24da:6b",
   "24db:6c 24dc:6d 24dd:6e 24de:6f 24df:70 24e0:71 24e1:72 24e2:73 24e3:74 24e4:75 24e5:76",
   "24e6:77 24e7:78 24e8:79 24e9:7a 24ea:30 24f5-24fd:31 24ff:30 2776-277e:31 2780-2788:31",
   "278a-2792:31 2c7c:6a 2c7d:76 2de0-2de2:431 2de3:434 2de4:436 2de5:437 2de6:43a 2de7:43b",
   "2de8:43c 2de9:43d 2dea:43e 2deb:43f 2dec:440 2ded:441 2dee:442 2def:445 2df0:446 2df1:447",
   "2df2:448 2df3:449 2df4:473 2df6:430 2df7:435 2df9:1c88 2dfa:463 2dfb:44e 2dfd:467 2dfe:46b",
   "2dff:46d 3000:20 3007:30 3021-3029:31 3036:3012 3041-3042=32d0 3043-3044=32d1 3045-3046=32d2",
   "3047-3048=32d3 3049-304a=32d4 304b:32d5 304d:32d6 304f:32d7 3051:32d8 3053:32d9 3055:32da",
   "3057:32db 3059:32dc 305b:32dd 305d:32de 305f:32df 3061:32e0 3063-3064=32e1 3066:32e2 3068:32e3",
   "306a-306f:32e4 3072:32ea 3075:32eb 3078:32ec 307b:32ed 307e-3083:32ee 3084:32f3 3086:3085",
   "3087-3088=32f5 3089-308e:32f6 308f-3090:32fb 3095:32d5 3096:32d8 30a1-30a2=32d0 30a3-30a4=32d1",
   "30a5-30a6=32d2 30a7-30a8=32d3 30a9-30aa=32d4 30ab:32d5 30ad:32d6 30af:32d7 30b1:32d8 30b3:32d9",
   "30b5:32da 30b7:32db 30b9:32dc 30bb:32dd 30bd:32de 30bf:32df 30c1:32e0 30c3-30c4=32e1 30c6:32e2",
   "30c8:32e3 30ca-30cf:32e4 30d2:32ea 30d5:32eb 30d8:32ec 30db:32ed 30de-30e3:32ee 30e4:32f3",
   "30e5-30e6=3085 30e7-30e8=32f5 30e9-30ee:32f6 30ef-30f0:32fb 30f1-30f3:3091 30f5:32d5 30f6:32d8",
   "312e:311c 3131-3132:1100 3133:11aa 3134:1102 3135-3136:11ac 3137-3139:1103 313a-313f:11b0",
   "3140:111a 3141-3143:1106 3144:1121 3145-314e:1109 314f-3163:1161 3164:1160 3165-3166:1114",
   "3167-3168:11c7 3169:11cc 316a:11ce 316b:11d3 316c:11d7 316d:11d9 316e:111c 316f:11dd 3170:11df",
   "3171-3172:111d 3173:1120 3174-3175:1122 3176:1127 3177:1129 3178-317c:112b 317d:1132 317e:1136",
   "317f:1140 3180:1147 3181:114c 3182-3183:11f1 3184-3186:1157 3187-3188:1184 3189:1188",
   "318a-318b:1191 318c:1194 318d:119e 318e:11a1 31b4:3106 31b5:310a 31b6:310e 31b7:310f 31bb:310d",
   "31f0:32d7 31f1-31f2:32db 31f3:32e3 31f4:32e6 31f5-31f9:32e9 31fa:32f0 31fb-31ff:32f6 3260:1100",
   "3261-3262:1102 3263-3265:1105 3266:1109 3267-3268:110b 3269-326d:110e 32f4:3085 32fd-32fe:3091",
   "a610:a558 a611:a56a a612:a587 a620-a629:30 a62a:a56e a62b:a5d1 a649:2df8 a64b:1c88 a657:2dfc",
   "a669:43e a66b:43e a66d-a66e=43e a674:454 a675:438 a677:443 a678:44a a679-a67a:44b a67b:461",
   "a699:43e a69b:43e a69c:44a a69d:44c a69e:444 a69f:465 a76f-a770=1dd2 a7b5:1de9 a7f2:63 a7f3:66",
   "a7f4:71 a8d0-a8d9:30 a8f3-a8f7=a8f2 a900-a909:30 a9ac:a9ab a9b5:a9b4 a9d0-a9d9:30 a9f0-a9f9:30",
   "aa50-aa59:30 ab5c:a727 ab5d:ab37 ab5e:26b ab5f:ab52 ab69:28d abf0-abf9:30 fb20:5e2 fb21:5d0",
   "fb22-fb23:5d3 fb24-fb26:5da fb27:5e8 fb28:5ea fb29:2b fb50-fb51=671 fb52-fb54=fb55",
   "fb57-fb59=fb56 fb5a-fb5d=680 fb5e-fb61=67a fb62-fb65=67f fb66-fb69=679 fb6a-fb6d=6a4",
   "fb6e-fb71=6a6 fb72-fb75=684 fb76-fb79=683 fb7a-fb7d=686 fb7e-fb81=687 fb82-fb83=68d",
   "fb84-fb85=68c fb86-fb87=68e fb88-fb89=688 fb8a-fb8b=698 fb8c-fb8d=691 fb8e-fb91=6a9",
   "fb92-fb95=6af fb96-fb99=6b3 fb9a-fb9d=6b1 fb9e-fb9f=6ba fba0-fba3=6bb fba6-fba9=6c1",
   "fbaa-fbad=6be fbae-fbaf=6d2 fbd3-fbd6=6ad fbd7-fbd8=6c7 fbd9-fbda=6c6 fbdb-fbdc=6c8",
   "fbde-fbdf=6cb fbe0-fbe1=6c5 fbe2-fbe3=6c9 fbe4-fbe7=6d0 fbe8-fbe9=649 fbfc-fbff=6cc fe10:2c",
   "fe11:3001 fe12:3002 fe13:3a fe14:3b fe15:21 fe16:3f fe17-fe18:3016 fe31:2014 fe32:2013",
   "fe33-fe34=5f fe35-fe36:28 fe37-fe38:7b fe39-fe3a:3014 fe3b-fe3c:3010 fe3d-fe3e:300a",
   "fe3f-fe40:3008 fe41-fe44:300c fe47-fe48:5b fe49-fe4b=fe4c fe4d-fe4f=5f fe50:2c fe51:3001",
   "fe52:2e fe54:3b fe55:3a fe56:3f fe57:21 fe58:2014 fe59-fe5a:28 fe5b-fe5c:7b fe5d-fe5e:3014",
   "fe5f:23 fe60:26 fe61:2a fe62:2b fe63:2d fe64:3c fe65:3e fe66:3d fe68:5c fe69:24 fe6a:25",
   "fe6b:40 fe80-fe81:621 fe82-fe83:622 fe84:623 fe85-fe86=624 fe87-fe88=625 fe89-fe8c=626",
   "fe8d-fe8e=8ad fe8f-fe92=628 fe93-fe94=629 fe95-fe98=62a fe99-fe9c=62b fe9d-fea0=62c",
   "fea1-fea4=62d fea5-fea8=62e fea9-feaa=62f feab-feac=630 fead-feae=631 feaf-feb0=632",
   "feb1-feb4=633 feb5-feb8=634 feb9-febc=635 febd-fec0=636 fec1-fec4=637 fec5-fec8=638",
   "fec9-fecc=639 fecd-fed0=63a fed1-fed4=641 fed5-fed8=642 fed9-fedc=643 fedd-fee0=644",
   "fee1-fee4=645 fee5-fee8=646 fee9-feec=647 feed-feee=648 feef-fef0=649 fef1-fef4=64a ff01:21",
   "ff02:22 ff03:23 ff04:24 ff05:25 ff06:26 ff07:27 ff08-ff09:28 ff0a:2a ff0b:2b ff0c:2c ff0d:2d",
   "ff0e:2e ff0f:2f ff10-ff19:30 ff1a:3a ff1b:3b ff1c-ff1e:3c ff1f:3f ff20:40 ff3b:5b ff3c:5c",
   "ff3d:5d ff3e:5e ff3f:5f ff40:60 ff41:61 ff42:62 ff43:63 ff44:64 ff45:65 ff46:66 ff47:67",
   "ff48:68 ff49:69 ff4a:6a ff4b:6b ff4c:6c ff4d:6d ff4e:6e ff4f:6f ff50:70 ff51:71 ff52:72",
   "ff53:73 ff54:74 ff55:75 ff56:76 ff57:77 ff58:78 ff59:79 ff5a:7a ff5b:7b ff5c:7c ff5d:7d",
   "ff5e:7e ff5f-ff60:2985 ff61:3002 ff62-ff63:300c ff64:3001 ff65:30fb ff66:3092 ff67-ff69:32d0",
   "ff6a-ff6b:32d3 ff6c:32f3 ff6d:3085 ff6e:32f5 ff6f:32e1 ff70:30fc ff71-ff73:32d0 ff74-ff94:32d3",
   "ff95:3085 ff96-ff9c:32f5 ff9d:3093 ffa0:1160 ffa1-ffa2:1100 ffa3:11aa ffa4:1102 ffa5-ffa6:11ac",
   "ffa7-ffa9:1103 ffaa-ffaf:11b0 ffb0:111a ffb1-ffb3:1106 ffb4:1121 ffb5-ffbe:1109 ffc2-ffc7:1161",
   "ffca-ffcf:1167 ffd2-ffd7:116d ffda-ffdc:1173 ffe0:a2 ffe1:a3 ffe2:ac ffe3:af ffe4:a6 ffe5:a5",
   "ffe6:20a9 ffe8:2502 ffe9:2190 ffea:2191 ffeb:2192 ffec:2193 ffed:25a0 ffee:25cb 10107-1010f:31",
   "10142:31 10143:35 10148:35 1014f:35 10158-1015a=31 1015b-1015e=32 1015f:35 10173:35 1018a:30",
   "102e1-102e9:31 10320:31 10321:35 10376:10350 10377:10353 10378:10357 10379:1035d 1037a:10361",
   "103d1-103d2:31 104a0-104a9:30 10781-10782:2d0 10784:299 10785:253 1078b-1078c:256 1078d:1d91",
   "1078e:258 1078f:25e 10791:264 10792:262 10796:29c 10797:267 10798:284 1079d:a78e 107a3:276",
   "107a4:277 107a5:71 107a8:27d 107a9:27e 107aa:280 107af:288 107b0:2c71 107b2:28f",
   "107b3-107b4:2a1 107b5:298 107b6-107b8:1c0 10858-1085a:31 1086e:1086d 10879-1087d:31",
   "10880:10881 10883:10882 10887:10886 1088d-1088e:1088c 10891-10892:10890 10895:10894",
   "1089d:1089c 108a7-108aa:31 108ab-108ac:34 108fb:31 108fc:35 10916:31 1091a-1091b:32",
   "109c0-109c8:31 10a40-10a43:31 10a7d:31 10a9d:31 10aeb:31 10aec:35 10b58-10b5b:31",
   "10b78-10b7b:31 10ba9-10bac:31 10cfa:31 10cfb:35 10d30-10d39:30 10e60-10e68:31 10f00:10f01",
   "10f03:10f02 10f06:10f05 10f0f:10f0e 10f16:10f15 10f1b:10f1a 10f1d-10f21:31 10f51:31",
   "10fc5-10fc8:31 11052-1105a:31 11066-1106f:30 110f0-110f9:30 11136-1113f:30 111d0-111d9:30",
   "111e1-111e9:31 112f0-112f9:30 11450-11459:30 114d0-114d9:30 11650-11659:30 116c0-116c9:30",
   "11730-11739:30 118e0-118e9:30 11950-11959:30 11a3a:11a2b 11a3b-11a3e:11a2a 11a86-11a87:11a7c",
   "11a88:11a7f 11a89:11a81 11a8a:11a5c 11a8b:11a5d 11a8c:11a60 11a8d:11a6b 11a8e-11a8f:11a6f",
   "11a90:11a74 11a91-11a92:11a7c 11a93:11a7f 11a94:11a81 11a95:11a7a 11c50-11c59:30",
   "11c5a-11c62:31 11d46-11d47=11d26 11d50-11d59:30 11da0-11da9:30 11f50-11f59:30 12400-12407:32",
   "12408-1240e:33 1240f-12414:34 12415-1241d:31 1241e-12422:31 12423-12424:32 12425-1242b:33",
   "1242c-1242e:31 1242f-12431:33 12434-12436:31 12437-12439:33 1243a-1243b=33 1243c-1243f=34",
   "12440-12441:36 12442-12443=37 12444-12445=38 12446-12449=39 1244a-1244e:32 1244f-12452:31",
   "12453-12454:34 12455:35 12456-12457:32 12458-12459:31 12469-1246e:34 16a60-16a69:30",
   "16ac0-16ac9:30 16b50-16b59:30 16e80-16e89:30 16f06:16f04 16f13:16f10 16f25:16f23 16f3f:16f3d",
   "1b122:1b11f 1b132:32d9 1b150:32fc 1b151-1b152:3091 1b155:32d9 1b164:32fc 1b165-1b167:3091",
   "1d2c0-1d2c9:30 1d2e0-1d2e9:30 1d360-1d368:31 1d372-1d376:31 1d377:31 1d378:35 1d400:61",
   "1d401:62 1d402:63 1d403:64 1d404:65 1d405:66 1d406:67 1d407:68 1d408:69 1d409:6a 1d40a:6b",
   "1d40b:6c 1d40c:6d 1d40d:6e 1d40e:6f 1d40f:70 1d410:71 1d411:72 1d412:73 1d413:74 1d414:75",
   "1d415:76 1d416:77 1d417:78 1d418:79 1d419:7a 1d41a:61 1d41b:62 1d41c:63 1d41d:64 1d41e:65",
   "1d41f:66 1d420:67 1d421:68 1d422:69 1d423:6a 1d424:6b 1d425:6c 1d426:6d 1d427:6e 1d428:6f",
   "1d429:70 1d42a:71 1d42b:72 1d42c:73 1d42d:74 1d42e:75 1d42f:76 1d430:77 1d431:78 1d432:79",
   "1d433:7a 1d434:61 1d435:62 1d436:63 1d437:64 1d438:65 1d439:66 1d43a:67 1d43b:68 1d43c:69",
   "1d43d:6a 1d43e:6b 1d43f:6c 1d440:6d 1d441:6e 1d442:6f 1d443:70 1d444:71 1d445:72 1d446:73",
   "1d447:74 1d448:75 1d449:76 1d44a:77 1d44b:78 1d44c:79 1d44d:7a 1d44e:61 1d44f:62 1d450:63",
   "1d451:64 1d452:65 1d453:66 1d454:67 1d456:69 1d457:6a 1d458:6b 1d459:6c 1d45a:6d 1d45b:6e",
   "1d45c:6f 1d45d:70 1d45e:71 1d45f:72 1d460:73 1d461:74 1d462:75 1d463:76 1d464:77 1d465:78",
   "1d466:79 1d467:7a 1d468:61 1d469:62 1d46a:63 1d46b:64 1d46c:65 1d46d:66 1d46e:67 1d46f:68",
   "1d470:69 1d471:6a 1d472:6b 1d473:6c 1d474:6d 1d475:6e 1d476:6f 1d477:70 1d478:71 1d479:72",
   "1d47a:73 1d47b:74 1d47c:75 1d47d:76 1d47e:77 1d47f:78 1d480:79 1d481:7a 1d482:61 1d483:62",
   "1d484:63 1d485:64 1d486:65 1d487:66 1d488:67 1d489:68 1d48a:69 1d48b:6a 1d48c:6b 1d48d:6c",
   "1d48e:6d 1d48f:6e 1d490:6f 1d491:70 1d492:71 1d493:72 1d494:73 1d495:74 1d496:75 1d497:76",
   "1d498:77 1d499:78 1d49a:79 1d49b:7a 1d49c:61 1d49e:63 1d49f:64 1d4a2:67 1d4a5:6a 1d4a6:6b",
   "1d4a9:6e 1d4aa:6f 1d4ab:70 1d4ac:71 1d4ae:73 1d4af:74 1d4b0:75 1d4b1:76 1d4b2:77 1d4b3:78",
   "1d4b4:79 1d4b5:7a 1d4b6:61 1d4b7:62 1d4b8:63 1d4b9:64 1d4bb:66 1d4bd:68 1d4be:69 1d4bf:6a",
   "1d4c0:6b 1d4c1:6c 1d4c2:6d 1d4c3:6e 1d4c5:70 1d4c6:71 1d4c7:72 1d4c8:73 1d4c9:74 1d4ca:75",
   "1d4cb:76 1d4cc:77 1d4cd:78 1d4ce:79 1d4cf:7a 1d4d0:61 1d4d1:62 1d4d2:63 1d4d3:64 1d4d4:65",
   "1d4d5:66 1d4d6:67 1d4d7:68 1d4d8:69 1d4d9:6a 1d4da:6b 1d4db:6c 1d4dc:6d 1d4dd:6e 1d4de:6f",
   "1d4df:70 1d4e0:71 1d4e1:72 1d4e2:73 1d4e3:74 1d4e4:75 1d4e5:76 1d4e6:77 1d4e7:78 1d4e8:79",
   "1d4e9:7a 1d4ea:61 1d4eb:62 1d4ec:63 1d4ed:64 1d4ee:65 1d4ef:66 1d4f0:67 1d4f1:68 1d4f2:69",
   "1d4f3:6a 1d4f4:6b 1d4f5:6c 1d4f6:6d 1d4f7:6e 1d4f8:6f 1d4f9:70 1d4fa:71 1d4fb:72 1d4fc:73",
   "1d4fd:74 1d4fe:75 1d4ff:76 1d500:77 1d501:78 1d502:79 1d503:7a 1d504:61 1d505:62 1d507:64",
   "1d508:65 1d509:66 1d50a:67 1d50d:6a 1d50e:6b 1d50f:6c 1d510:6d 1d511:6e 1d512:6f 1d513:70",
   "1d514:71 1d516:73 1d517:74 1d518:75 1d519:76 1d51a:77 1d51b:78 1d51c:79 1d51e:61 1d51f:62",
   "1d520:63 1d521:64 1d522:65 1d523:66 1d524:67 1d525:68 1d526:69 1d527:6a 1d528:6b 1d529:6c",
   "1d52a:6d 1d52b:6e 1d52c:6f 1d52d:70 1d52e:71 1d52f:72 1d530:73 1d531:74 1d532:75 1d533:76",
   "1d534:77 1d535:78 1d536:79 1d537:7a 1d538:61 1d539:62 1d53b:64 1d53c:65 1d53d:66 1d53e:67",
   "1d540:69 1d541:6a 1d542:6b 1d543:6c 1d544:6d 1d546:6f 1d54a:73 1d54b:74 1d54c:75 1d54d:76",
   "1d54e:77 1d54f:78 1d550:79 1d552:61 1d553:62 1d554:63 1d555:64 1d556:65 1d557:66 1d558:67",
   "1d559:68 1d55a:69 1d55b:6a 1d55c:6b 1d55d:6c 1d55e:6d 1d55f:6e 1d560:6f 1d561:70 1d562:71",
   "1d563:72 1d564:73 1d565:74 1d566:75 1d567:76 1d568:77 1d569:78 1d56a:79 1d56b:7a 1d56c:61",
   "1d56d:62 1d56e:63 1d56f:64 1d570:65 1d571:66 1d572:67 1d573:68 1d574:69 1d575:6a 1d576:6b",
   "1d577:6c 1d578:6d 1d579:6e 1d57a:6f 1d57b:70 1d57c:71 1d57d:72 1d57e:73 1d57f:74 1d580:75",
   "1d581:76 1d582:77 1d583:78 1d584:79 1d585:7a 1d586:61 1d587:62 1d588:63 1d589:64 1d58a:65",
   "1d58b:66 1d58c:67 1d58d:68 1d58e:69 1d58f:6a 1d590:6b 1d591:6c 1d592:6d 1d593:6e 1d594:6f",
   "1d595:70 1d596:71 1d597:72 1d598:73 1d599:74 1d59a:75 1d59b:76 1d59c:77 1d59d:78 1d59e:79",
   "1d59f:7a 1d5a0:61 1d5a1:62 1d5a2:63 1d5a3:64 1d5a4:65 1d5a5:66 1d5a6:67 1d5a7:68 1d5a8:69",
   "1d5a9:6a 1d5aa:6b 1d5ab:6c 1d5ac:6d 1d5ad:6e 1d5ae:6f 1d5af:70 1d5b0:71 1d5b1:72 1d5b2:73",
   "1d5b3:74 1d5b4:75 1d5b5:76 1d5b6:77 1d5b7:78 1d5b8:79 1d5b9:7a 1d5ba:61 1d5bb:62 1d5bc:63",
   "1d5bd:64 1d5be:65 1d5bf:66 1d5c0:67 1d5c1:68 1d5c2:69 1d5c3:6a 1d5c4:6b 1d5c5:6c 1d5c6:6d",
   "1d5c7:6e 1d5c8:6f 1d5c9:70 1d5ca:71 1d5cb:72 1d5cc:73 1d5cd:74 1d5ce:75 1d5cf:76 1d5d0:77",
   "1d5d1:78 1d5d2:79 1d5d3:7a 1d5d4:61 1d5d5:62 1d5d6:63 1d5d7:64 1d5d8:65 1d5d9:66 1d5da:67",
   "1d5db:68 1d5dc:69 1d5dd:6a 1d5de:6b 1d5df:6c 1d5e0:6d 1d5e1:6e 1d5e2:6f 1d5e3:70 1d5e4:71",
   "1d5e5:72 1d5e6:73 1d5e7:74 1d5e8:75 1d5e9:76 1d5ea:77 1d5eb:78 1d5ec:79 1d5ed:7a 1d5ee:61",
   "1d5ef:62 1d5f0:63 1d5f1:64 1d5f2:65 1d5f3:66 1d5f4:67 1d5f5:68 1d5f6:69 1d5f7:6a 1d5f8:6b",
   "1d5f9:6c 1d5fa:6d 1d5fb:6e 1d5fc:6f 1d5fd:70 1d5fe:71 1d5ff:72 1d600:73 1d601:74 1d602:75",
   "1d603:76 1d604:77 1d605:78 1d606:79 1d607:7a 1d608:61 1d609:62 1d60a:63 1d60b:64 1d60c:65",
   "1d60d:66 1d60e:67 1d60f:68 1d610:69 1d611:6a 1d612:6b 1d613:6c 1d614:6d 1d615:6e 1d616:6f",
   "1d617:70 1d618:71 1d619:72 1d61a:73 1d61b:74 1d61c:75 1d61d:76 1d61e:77 1d61f:78 1d620:79",
   "1d621:7a 1d622:61 1d623:62 1d624:63 1d625:64 1d626:65 1d627:66 1d628:67 1d629:68 1d62a:69",
   "1d62b:6a 1d62c:6b 1d62d:6c 1d62e:6d 1d62f:6e 1d630:6f 1d631:70 1d632:71 1d633:72 1d634:73",
   "1d635:74 1d636:75 1d637:76 1d638:77 1d639:78 1d63a:79 1d63b:7a 1d63c:61 1d63d:62 1d63e:63",
   "1d63f:64 1d640:65 1d641:66 1d642:67 1d643:68 1d644:69 1d645:6a 1d646:6b 1d647:6c 1d648:6d",
   "1d649:6e 1d64a:6f 1d64b:70 1d64c:71 1d64d:72 1d64e:73 1d64f:74 1d650:75 1d651:76 1d652:77",
   "1d653:78 1d654:79 1d655:7a 1d656:61 1d657:62 1d658:63 1d659:64 1d65a:65 1d65b:66 1d65c:67",
   "1d65d:68 1d65e:69 1d65f:6a 1d660:6b 1d661:6c 1d662:6d 1d663:6e 1d664:6f 1d665:70 1d666:71",
   "1d667:72 1d668:73 1d669:74 1d66a:75 1d66b:76 1d66c:77 1d66d:78 1d66e:79 1d66f:7a 1d670:61",
   "1d671:62 1d672:63 1d673:64 1d674:65 1d675:66 1d676:67 1d677:68 1d678:69 1d679:6a 1d67a:6b",
   "1d67b:6c 1d67c:6d 1d67d:6e 1d67e:6f 1d67f:70 1d680:71 1d681:72 1d682:73 1d683:74 1d684:75",
   "1d685:76 1d686:77 1d687:78 1d688:79 1d689:7a 1d68a:61 1d68b:62 1d68c:63 1d68d:64 1d68e:65",
   "1d68f:66 1d690:67 1d691:68 1d692:69 1d693:6a 1d694:6b 1d695:6c 1d696:6d 1d697:6e 1d698:6f",
   "1d699:70 1d69a:71 1d69b:72 1d69c:73 1d69d:74 1d69e:75 1d69f:76 1d6a0:77 1d6a1:78 1d6a2:79",
   "1d6a3:7a 1d6a4:131 1d6a5:237 1d6a8-1d6aa:3b1 1d6ab-1d6ac:3b4 1d6ad:3b6 1d6ae-1d6b0:3b7",
   "1d6b1-1d6b2:3ba 1d6b3-1d6b7:3bc 1d6b8:3c1 1d6b9:3b8 1d6ba:3c2 1d6bb-1d6bf:3c4 1d6c0:3c9",
   "1d6c1:2207 1d6c2-1d6c4:3b1 1d6c5-1d6c6:3b4 1d6c7:3b6 1d6c8-1d6ca:3b7 1d6cb-1d6cc:3ba",
   "1d6cd-1d6d1:3bc 1d6d2:3c1 1d6d3-1d6d4=3c2 1d6d5-1d6d9:3c4 1d6da:3c9 1d6db:2202 1d6dc:3b5",
   "1d6dd:3b8 1d6de:3ba 1d6df:3c6 1d6e0:3c1 1d6e1:3c0 1d6e2-1d6e4:3b1 1d6e5-1d6e6:3b4 1d6e7:3b6",
   "1d6e8-1d6ea:3b7 1d6eb-1d6ec:3ba 1d6ed-1d6f1:3bc 1d6f2:3c1 1d6f3:3b8 1d6f4:3c2 1d6f5-1d6f9:3c4",
   "1d6fa:3c9 1d6fb:2207 1d6fc-1d6fe:3b1 1d6ff-1d700:3b4 1d701:3b6 1d702-1d704:3b7 1d705-1d706:3ba",
   "1d707-1d70b:3bc 1d70c:3c1 1d70d-1d70e=3c2 1d70f-1d713:3c4 1d714:3c9 1d715:2202 1d716:3b5",
   "1d717:3b8 1d718:3ba 1d719:3c6 1d71a:3c1 1d71b:3c0 1d71c-1d71e:3b1 1d71f-1d720:3b4 1d721:3b6",
   "1d722-1d724:3b7 1d725-1d726:3ba 1d727-1d72b:3bc 1d72c:3c1 1d72d:3b8 1d72e:3c2 1d72f-1d733:3c4",
   "1d734:3c9 1d735:2207 1d736-1d738:3b1 1d739-1d73a:3b4 1d73b:3b6 1d73c-1d73e:3b7 1d73f-1d740:3ba",
   "1d741-1d745:3bc 1d746:3c1 1d747-1d748=3c2 1d749-1d74d:3c4 1d74e:3c9 1d74f:2202 1d750:3b5",
   "1d751:3b8 1d752:3ba 1d753:3c6 1d754:3c1 1d755:3c0 1d756-1d758:3b1 1d759-1d75a:3b4 1d75b:3b6",
   "1d75c-1d75e:3b7 1d75f-1d760:3ba 1d761-1d765:3bc 1d766:3c1 1d767:3b8 1d768:3c2 1d769-1d76d:3c4",
   "1d76e:3c9 1d76f:2207 1d770-1d772:3b1 1d773-1d774:3b4 1d775:3b6 1d776-1d778:3b7 1d779-1d77a:3ba",
   "1d77b-1d77f:3bc 1d780:3c1 1d781-1d782=3c2 1d783-1d787:3c4 1d788:3c9 1d789:2202 1d78a:3b5",
   "1d78b:3b8 1d78c:3ba 1d78d:3c6 1d78e:3c1 1d78f:3c0 1d790-1d792:3b1 1d793-1d794:3b4 1d795:3b6",
   "1d796-1d798:3b7 1d799-1d79a:3ba 1d79b-1d79f:3bc 1d7a0:3c1 1d7a1:3b8 1d7a2:3c2 1d7a3-1d7a7:3c4",
   "1d7a8:3c9 1d7a9:2207 1d7aa-1d7ac:3b1 1d7ad-1d7ae:3b4 1d7af:3b6 1d7b0-1d7b2:3b7 1d7b3-1d7b4:3ba",
   "1d7b5-1d7b9:3bc 1d7ba:3c1 1d7bb-1d7bc=3c2 1d7bd-1d7c1:3c4 1d7c2:3c9 1d7c3:2202 1d7c4:3b5",
   "1d7c5:3b8 1d7c6:3ba 1d7c7:3c6 1d7c8:3c1 1d7c9:3c0 1d7ca-1d7cb=3dd 1d7ce-1d7d7:30",
   "1d7d8-1d7e1:30 1d7e2-1d7eb:30 1d7ec-1d7f5:30 1d7f6-1d7ff:30 1df04:1079c 1df05:1079f",
   "1df06:107a1 1df08:107a7 1df0a:107b9 1df1e:107ba 1e000-1e006:2c30 1e008-1e018:2c38",
   "1e01b-1e021:2c4b 1e023-1e024:2c53 1e026-1e02a:2c56 1e030:430 1e031-1e033:431 1e034:434",
   "1e035:435 1e036:436 1e037:437 1e038:438 1e039:43a 1e03a:43b 1e03b:43c 1e03c:43e 1e03d:43f",
   "1e03e:440 1e03f:441 1e040:442 1e041:443 1e042-1e043:444 1e044:446 1e045:447 1e046:448",
   "1e047:44b 1e048-1e049:44d 1e04a:a689 1e04b:4d9 1e04c:456 1e04d:458 1e04e:4e9 1e04f:4af",
   "1e050:4cf 1e051:430 1e052-1e054:431 1e055:434 1e056:435 1e057:436 1e058:437 1e059:438",
   "1e05a:43a 1e05b:43b 1e05c:43e 1e05d:43f 1e05e:441 1e05f:443 1e060-1e061:444 1e062:446",
   "1e063:447 1e064:448 1e065:44a 1e066:44b 1e068:456 1e069:455 1e06a:45f 1e06b:4ab 1e06c:a651",
   "1e06d:4b1 1e08f:456 1e140-1e149:30 1e2f0-1e2f9:30 1e4f0-1e4f9:30 1e8c7-1e8cf:31 1e950-1e959:30",
   "1ec71-1ec79:31 1eca3-1ecab:31 1ed01-1ed09:31 1ee00:8ad 1ee01:628 1ee02:62c 1ee03:62f 1ee05:648",
   "1ee06:632 1ee07:62d 1ee08:637 1ee09:64a 1ee0a:643 1ee0b:644 1ee0c:645 1ee0d:646 1ee0e:633",
   "1ee0f:639 1ee10:641 1ee11:635 1ee12:642 1ee13:631 1ee14:634 1ee15-1ee16:62a 1ee17:62e",
   "1ee18:630 1ee19:636 1ee1a:638 1ee1b:63a 1ee1c:66e 1ee1d:6ba 1ee1e:6a1 1ee1f:66f 1ee21:628",
   "1ee22:62c 1ee24:647 1ee27:62d 1ee29:64a 1ee2a:643 1ee2b:644 1ee2c:645 1ee2d:646 1ee2e:633",
   "1ee2f:639 1ee30:641 1ee31:635 1ee32:642 1ee34:634 1ee35-1ee36:62a 1ee37:62e 1ee39:636",
   "1ee3b:63a 1ee42:62c 1ee47:62d 1ee49:64a 1ee4b:644 1ee4d:646 1ee4e:633 1ee4f:639 1ee51:635",
   "1ee52:642 1ee54:634 1ee57:62e 1ee59:636 1ee5b:63a 1ee5d:6ba 1ee5f:66f 1ee61:628 1ee62:62c",
   "1ee64:647 1ee67:62d 1ee68:637 1ee69:64a 1ee6a:643 1ee6c:645 1ee6d:646 1ee6e:633 1ee6f:639",
   "1ee70:641 1ee71:635 1ee72:642 1ee74:634 1ee75-1ee76:62a 1ee77:62e 1ee79:636 1ee7a:638",
   "1ee7b:63a 1ee7c:66e 1ee7e:6a1 1ee80:8ad 1ee81:628 1ee82:62c 1ee83:62f 1ee84:647 1ee85:648",
   "1ee86:632 1ee87:62d 1ee88:637 1ee89:64a 1ee8b:644 1ee8c:645 1ee8d:646 1ee8e:633 1ee8f:639",
   "1ee90:641 1ee91:635 1ee92:642 1ee93:631 1ee94:634 1ee95-1ee96:62a 1ee97:62e 1ee98:630",
   "1ee99:636 1ee9a:638 1ee9b:63a 1eea1:628 1eea2:62c 1eea3:62f 1eea5:648 1eea6:632 1eea7:62d",
   "1eea8:637 1eea9:64a 1eeab:644 1eeac:645 1eead:646 1eeae:633 1eeaf:639 1eeb0:641 1eeb1:635",
   "1eeb2:642 1eeb3:631 1eeb4:634 1eeb5-1eeb6:62a 1eeb7:62e 1eeb8:630 1eeb9:636 1eeba:638",
   "1eebb:63a 1f10b-1f10c=30 1f12b:63 1f12c:72 1f130:61 1f131:62 1f132:63 1f133:64 1f134:65",
   "1f135:66 1f136:67 1f137:68 1f138:69 1f139:6a 1f13a:6b 1f13b:6c 1f13c:6d 1f13d:6e 1f13e:6f",
   "1f13f:70 1f140:71 1f141:72 1f142:73 1f143:74 1f144:75 1f145:76 1f146:77 1f147:78 1f148:79",
   "1f149:7a 1f150:61 1f151:62 1f152:63 1f153:64 1f154:65 1f155:66 1f156:67 1f157:68 1f158:69",
   "1f159:6a 1f15a:6b 1f15b:6c 1f15c:6d 1f15d:6e 1f15e:6f 1f15f:70 1f160:71 1f161:72 1f162:73",
   "1f163:74 1f164:75 1f165:76 1f166:77 1f167:78 1f168:79 1f169:7a 1f170:61 1f171:62 1f172:63",
   "1f173:64 1f174:65 1f175:66 1f176:67 1f177:68 1f178:69 1f179:6a 1f17a:6b 1f17b:6c 1f17c:6d",
   "1f17d:6e 1f17e:6f 1f17f:70 1f180:71 1f181:72 1f182:73 1f183:74 1f184:75 1f185:76 1f186:77",
   "1f187:78 1f188:79 1f189:7a 1f18a:70 1f1a5:64 1f202:32da 1fbf0-1fbf9:30"]

/-- Characters that sort like a sequence: each part is a character of the line-up, with an accent of
its own after a slash, or after a plus sign a mere accent. -/
def spelled : List String :=
  ["bc:31,2044,34 bd:31,2044,32 be:33,2044,34 df:73/2,73 e6:61/2,65 f0:64/2 f8:6f,+1c 111:64,+26",
   "127:68,+26 133:69,6a 140:6c,+109 142:6c,+26 149:2bc,6e 153:6f/2,65 17f:73/5 18d:7a,77",
   "1be:74,73 1c6:64,7a,+15 1c9:6c,6a 1cc:6e,6a 1f3:64,7a 238:64,62 239:71,70 2a3:64,7a 2a4:64,292",
   "2a5:64,291 2a6:74,73 2a7:74,283 2a8:74,255 2a9:66,14b 2aa:6c,73 2ab:6c,7a 3d7:3ba,3b1,3b9",
   "491:433/2 587:565,582 5ef:5d9,5d4,5d5,5d4 5f0:5d5,5d5 5f1:5d5,5d9 5f2:5d9,5d9 5f3:27/b",
   "5f4:22/d 675:621,8ad 676:621,648 677:621,6c7 678:621,64a 6fd:621/2 6fe:645/2 714:713/2",
   "71c:71b/2 727:726/2 72d:712/2 72e:713/8 72f:715/2 7e8:7d6/2 7e9:7d7/2 7ea:7d9/2 9ce:9a4,9cd",
   "c5d:c28,c4d cdd:ca8,ccd d4e:d30,d3b d54:d2e,d3b d55:d2f,d3b d56:d34,d3b d7a:d23,d3b",
   "d7b:d28,d3b d7c:d30,d3b d7d:d32,d3b d7e:d33,d3b d7f:d15,d3b edc:eab,e99 edd:eab,ea1",
   "f00:f68,f7c,+b1 f6a:f62/2 fba:fad/2 fbb:fb1/2 fbc:fb2/2 103f:101e,1039,101e 16a1:16a0/2",
   "16a4:16a2/2 16a5:16a2/8 16a7:16a6/2 16a9:16a8/2 16ac:16a8/5 16ad:16a8/8 16ae:16a8/b",
   "16b3:16b2/2 16b4:16b2/5 16b5:16b2/8 16b6:16b2/b 16bb:16ba/2 16bc:16ba/6 16bd:16ba/a",
   "16bf:16be/2 16c0:16be/8 16c2:16c1/2 16c4:16c3/2 16c6:16c5/2 16cb:16ca/2 16cc:16ca/7",
   "16cd:16ca/9 16ce:16ca/b 16d0:16cf/2 16d1:16cf/8 16d3:16d2/2 16d4:16d2/8 16d5:16c8/2",
   "16d8:16d7/2 16d9:16d7/8 16db:16da/2 16dd:16dc/2 16e7:16e6/2 16e8:16e6/8 16e9:16b9/2",
   "16ea:16ca/4 16ee:16c5,16da 16ef:16d7/2,16d7/2 16f0:16a6,16a6 191d:1908,1929 191e:190b,192a",
   "19de:199c,19b6 19df:199c,19b6,19c1 1a54:1a46,1a60,1a46 1acc:67/2 1acd:72/2 1ace:74/8",
   "1b4c:1b1a,1b44,1b1c 1d2d:61/2,65 1d79:67/2 1d7a:74/2,68 1d9e:64/2 1dd3:61/2 1dd4:61/2,65",
   "1dd5:61,6f 1dd6:61,76 1dd7:63,+1d 1dd8:64/8 1dd9:64/2 1de3:72/8 1de5:73/5 1ded:6f,+21",
   "1df0:75,+21 1df2:61,+18 1df3:6f,+18 1df4:75,+18 1e9a:61,2be 1efb:6c,6c 2018:27/2 2019:27/4",
   "201a:27/7 201b:27/9 201c:22/2 201d:22/3 201e:22/5 201f:22/7 2025:2e,2e 2026:2e,2e,2e",
   "2033:2032,2032 2034:2032,2032,2032 2036:2035,2035 2037:2035,2035,2035 203c:21,21 2047:3f,3f",
   "2048:3f,21 2049:21,3f 2057:2032,2032,2032,2032 20a7:70,74,73 20a8:72,73 2100:61,2f,63",
   "2101:61,2f,73 2103:b0,63 2105:63,2f,6f 2106:63,2f,75 2109:b0,66 210f:68,+26 2116:6e,6f",
   "2120:73,6d 2121:74,65,6c 2122:74,6d 213b:66,61,78 214d:61,2f,73 2150:31,2044,37",
   "2151:31,2044,39 2152:31,2044,31,30 2153:31,2044,33 2154:32,2044,33 2155:31,2044,35",
   "2156:32,2044,35 2157:33,2044,35 2158:34,2044,35 2159:31,2044,36 215a:35,2044,36",
   "215b:31,2044,38 215c:33,2044,38 215d:35,2044,38 215e:37,2044,38 215f:31,2044 2171:69,69",
   "2172:69,69,69 2173:69,76 2175:76,69 2176:76,69,69 2177:76,69,69,69 2178:69,78 217a:78,69",
   "217b:78,69,69 2189:30,2044,33 222c:222b,222b 222d:222b,222b,222b 222f:222e,222e",
   "2230:222e,222e,222e 2469:31,30 246a:31,31 246b:31,32 246c:31,33 246d:31,34 246e:31,35",
   "246f:31,36 2470:31,37 2471:31,38 2472:31,39 2473:32,30 2474:28,31,29 2475:28,32,29",
   "2476:28,33,29 2477:28,34,29 2478:28,35,29 2479:28,36,29 247a:28,37,29 247b:28,38,29",
   "247c:28,39,29 247d:28,31,30,29 247e:28,31,31,29 247f:28,31,32,29 2480:28,31,33,29",
   "2481:28,31,34,29 2482:28,31,35,29 2483:28,31,36,29 2484:28,31,37,29 2485:28,31,38,29",
   "2486:28,31,39,29 2487:28,32,30,29 2488:31,2e 2489:32,2e 248a:33,2e 248b:34,2e 248c:35,2e",
   "248d:36,2e 248e:37,2e 248f:38,2e 2490:39,2e 2491:31,30,2e 2492:31,31,2e 2493:31,32,2e",
   "2494:31,33,2e 2495:31,34,2e 2496:31,35,2e 2497:31,36,2e 2498:31,37,2e 2499:31,38,2e",
   "249a:31,39,2e 249b:32,30,2e 249c:28,61,29 249d:28,62,29 249e:28,63,29 249f:28,64,29",
   "24a0:28,65,29 24a1:28,66,29 24a2:28,67,29 24a3:28,68,29 24a4:28,69,29 24a5:28,6a,29",
   "24a6:28,6b,29 24a7:28,6c,29 24a8:28,6d,29 24a9:28,6e,29 24aa:28,6f,29 24ab:28,70,29",
   "24ac:28,71,29 24ad:28,72,29 24ae:28,73,29 24af:28,74,29 24b0:28,75,29 24b1:28,76,29",
   "24b2:28,77,29 24b3:28,78,29 24b4:28,79,29 24b5:28,7a,29 24eb:31,31 24ec:31,32 24ed:31,33",
   "24ee:31,34 24ef:31,35 24f0:31,36 24f1:31,37 24f2:31,38 24f3:31,39 24f4:32,30 24fe:31,30",
   "277f:31,30 2789:31,30 2793:31,30 2a0c:222b,222b,222b,222b 2a74:3a,3a,3d 2a75:3d,3d",
   "2a76:3d,3d,3d 2ce4:2c95,2c81,2c93 2df5:441,442 2e42:22/8 2e80:4e36/2 2e81:5382/2 2e82:4e5b",
   "2e83:4e5a 2e84:4e59/2 2e85:4ebb 2e86:5182/2 2e87:51e0/2 2e88:5200/2 2e89:5202 2e8a:535c/2",
   "2e8b:5369/2 2e8c:5c0f/2 2e8d:5c0f/8 2e8e:5c22/2 2e8f:5c23 2e90:5c22 2e91:5c23/2 2e92:5df3",
   "2e93:5e7a 2e94:5f51 2e95:5f50/2 2e96:5fc4 2e97:5fc3/2 2e98:624c 2e99:6535 2e9b:65e1",
   "2e9c:65e5/2 2e9d:6708/2 2e9e:6b7a/2 2e9f:6bcd 2ea0:6c11 2ea1:6c35 2ea2:6c3a 2ea3:706c",
   "2ea4:722b 2ea5:722b/2 2ea6:4e2c 2ea7:725b/2 2ea8:72ad 2ea9:738b/2 2eaa:758b/2 2eab:76ee/2",
   "2eac:793a/2 2ead:793b 2eae:7af9/2 2eaf:7cf9 2eb0:7e9f 2eb1:7f53 2eb2:7f52 2eb3:7f53/2",
   "2eb4:7f53/8 2eb5:7f52/2 2eb6:7f8a/2 2eb7:7f8a/8 2eb8:7f8b 2eb9:8002 2eba:8080 2ebb:807f/2",
   "2ebc:8089/2 2ebd:81fc/2 2ebe:8279 2ebf:8279/2 2ec0:8279/8 2ec1:864e 2ec2:8864 2ec3:8980",
   "2ec4:897f 2ec5:89c1 2ec6:89d2 2ec7:89d2/2 2ec8:8ba0 2ec9:8d1d 2eca:8db3/2 2ecb:8f66 2ecc:8fb6",
   "2ecd:8fb6/2 2ece:8fb6/8 2ecf:9091/2 2ed0:9485 2ed1:9577 2ed2:9578 2ed3:957f 2ed4:95e8",
   "2ed5:961c/2 2ed6:961d 2ed7:96e8/2 2ed8:9752 2ed9:97e6 2eda:9875 2edb:98ce 2edc:98de 2edd:98df",
   "2ede:98e0/2 2edf:98e0 2ee0:9963 2ee1:9996/2 2ee2:9a6c 2ee3:9aa8/2 2ee4:9b3c/2 2ee5:9c7c",
   "2ee6:9e1f 2ee7:9e75/2 2ee8:9ea6 2ee9:9ec4 2eea:9efe 2eeb:9f4a/2 2eec:9f50 2eed:9f52/2",
   "2eee:9f7f 2eef:9f8d/2 2ef0:9f99 2ef1:9f9c/2 2ef2:9f9c/8 2ef3:9f9f 2f00:4e00 2f01:4e28",
   "2f02:4e36 2f03:4e3f 2f04:4e59 2f05:4e85 2f06:4e8c 2f07:4ea0 2f08:4eba 2f09:513f 2f0a:5165",
   "2f0b:516b 2f0c:5182 2f0d:5196 2f0e:51ab 2f0f:51e0 2f10:51f5 2f11:5200 2f12:529b 2f13:52f9",
   "2f14:5315 2f15:531a 2f16:5338 2f17:5341 2f18:535c 2f19:5369 2f1a:5382 2f1b:53b6 2f1c:53c8",
   "2f1d:53e3 2f1e:56d7 2f1f:571f 2f20:58eb 2f21:5902 2f22:590a 2f23:5915 2f24:5927 2f25:5973",
   "2f26:5b50 2f27:5b80 2f28:5bf8 2f29:5c0f 2f2a:5c22 2f2b:5c38 2f2c:5c6e 2f2d:5c71 2f2e:5ddb",
   "2f2f:5de5 2f30:5df1 2f31:5dfe 2f32:5e72 2f33:5e7a 2f34:5e7f 2f35:5ef4 2f36:5efe 2f37:5f0b",
   "2f38:5f13 2f39:5f50 2f3a:5f61 2f3b:5f73 2f3c:5fc3 2f3d:6208 2f3e:6236 2f3f:624b 2f40:652f",
   "2f41:6534 2f42:6587 2f43:6597 2f44:65a4 2f45:65b9 2f46:65e0 2f47:65e5 2f48:66f0 2f49:6708",
   "2f4a:6728 2f4b:6b20 2f4c:6b62 2f4d:6b79 2f4e:6bb3 2f4f:6bcb 2f50:6bd4 2f51:6bdb 2f52:6c0f",
   "2f53:6c14 2f54:6c34 2f55:706b 2f56:722a 2f57:7236 2f58:723b 2f59:723f 2f5a:7247 2f5b:7259",
   "2f5c:725b 2f5d:72ac 2f5e:7384 2f5f:7389 2f60:74dc 2f61:74e6 2f62:7518 2f63:751f 2f64:7528",
   "2f65:7530 2f66:758b 2f67:7592 2f68:7676 2f69:767d 2f6a:76ae 2f6b:76bf 2f6c:76ee 2f6d:77db",
   "2f6e:77e2 2f6f:77f3 2f70:793a 2f71:79b8 2f72:79be 2f73:7a74 2f74:7acb 2f75:7af9 2f76:7c73",
   "2f77:7cf8 2f78:7f36 2f79:7f51 2f7a:7f8a 2f7b:7fbd 2f7c:8001 2f7d:800c 2f7e:8012 2f7f:8033",
   "2f80:807f 2f81:8089 2f82:81e3 2f83:81ea 2f84:81f3 2f85:81fc 2f86:820c 2f87:821b 2f88:821f",
   "2f89:826e 2f8a:8272 2f8b:8278 2f8c:864d 2f8d:866b 2f8e:8840 2f8f:884c 2f90:8863 2f91:897e",
   "2f92:898b 2f93:89d2 2f94:8a00 2f95:8c37 2f96:8c46 2f97:8c55 2f98:8c78 2f99:8c9d 2f9a:8d64",
   "2f9b:8d70 2f9c:8db3 2f9d:8eab 2f9e:8eca 2f9f:8f9b 2fa0:8fb0 2fa1:8fb5 2fa2:9091 2fa3:9149",
   "2fa4:91c6 2fa5:91cc 2fa6:91d1 2fa7:9577 2fa8:9580 2fa9:961c 2faa:96b6 2fab:96b9 2fac:96e8",
   "2fad:9751 2fae:975e 2faf:9762 2fb0:9769 2fb1:97cb 2fb2:97ed 2fb3:97f3 2fb4:9801 2fb5:98a8",
   "2fb6:98db 2fb7:98df 2fb8:9996 2fb9:9999 2fba:99ac 2fbb:9aa8 2fbc:9ad8 2fbd:9adf 2fbe:9b25",
   "2fbf:9b2f 2fc0:9b32 2fc1:9b3c 2fc2:9b5a 2fc3:9ce5 2fc4:9e75 2fc5:9e7f 2fc6:9ea5 2fc7:9ebb",
   "2fc8:9ec3 2fc9:9ecd 2fca:9ed1 2fcb:9ef9 2fcc:9efd 2fcd:9f0e 2fce:9f13 2fcf:9f20 2fd0:9f3b",
   "2fd1:9f4a 2fd2:9f52 2fd3:9f8d 2fd4:9f9c 2fd5:9fa0 3006:32db,32f1 301d:22/a 301e:22/b 301f:22/c",
   "3032:3031,+24 3034:3033,+24 3038:5341 3039:5344 303a:5345 303c:32ee,32dc 309f:32f5,32f7",
   "30ff:32d9,32e3 3192:4e00 3193:4e8c 3194:4e09 3195:56db 3196:4e0a 3197:4e2d 3198:4e0b 3199:7532",
   "319a:4e59 319b:4e19 319c:4e01 319d:5929 319e:5730 319f:4eba 31a0:3105/2 31a1:3117/2",
   "31a2:3110/2 31a3:310d/2 31a5:31a4/2 31a7:311b/2 31a8:3128/8 31a9:311a/2 31aa:3127/2",
   "31ab:3128/2 31ae:311e/2 31af:3120/2 31b3:3127/2 3200:28,1100,29 3201:28,1102,29",
   "3202:28,1103,29 3203:28,1105,29 3204:28,1106,29 3205:28,1107,29 3206:28,1109,29",
   "3207:28,110b,29 3208:28,110c,29 3209:28,110e,29 320a:28,110f,29 320b:28,1110,29",
   "320c:28,1111,29 320d:28,1112,29 320e:28,1100,1161,29 320f:28,1102,1161,29 3210:28,1103,1161,29",
   "3211:28,1105,1161,29 3212:28,1106,1161,29 3213:28,1107,1161,29 3214:28,1109,1161,29",
   "3215:28,110b,1161,29 3216:28,110c,1161,29 3217:28,110e,1161,29 3218:28,110f,1161,29",
   "3219:28,1110,1161,29 321a:28,1111,1161,29 321b:28,1112,1161,29 321c:28,110c,116e,29",
   "321d:28,110b,1169,110c,1165,11ab,29 321e:28,110b,1169,1112,116e,29 3220:28,4e00,29",
   "3221:28,4e8c,29 3222:28,4e09,29 3223:28,56db,29 3224:28,4e94,29 3225:28,516d,29",
   "3226:28,4e03,29 3227:28,516b,29 3228:28,4e5d,29 3229:28,5341,29 322a:28,6708,29",
   "322b:28,706b,29 322c:28,6c34,29 322d:28,6728,29 322e:28,91d1,29 322f:28,571f,29",
   "3230:28,65e5,29 3231:28,682a,29 3232:28,6709,29 3233:28,793e,29 3234:28,540d,29",
   "3235:28,7279,29 3236:28,8ca1,29 3237:28,795d,29 3238:28,52b4,29 3239:28,4ee3,29",
   "323a:28,547c,29 323b:28,5b66,29 323c:28,76e3,29 323d:28,4f01,29 323e:28,8cc7,29",
   "323f:28,5354,29 3240:28,796d,29 3241:28,4f11,29 3242:28,81ea,29 3243:28,81f3,29 3244:554f",
   "3245:5e7c 3246:6587 3247:7b8f 3248:31,30 3249:32,30 324a:33,30 324b:34,30 324c:35,30",
   "324d:36,30 324e:37,30 324f:38,30 3250:70,74,65 3251:32,31 3252:32,32 3253:32,33 3254:32,34",
   "3255:32,35 3256:32,36 3257:32,37 3258:32,38 3259:32,39 325a:33,30 325b:33,31 325c:33,32",
   "325d:33,33 325e:33,34 325f:33,35 326e:1100,1161 326f:1102,1161 3270:1103,1161 3271:1105,1161",
   "3272:1106,1161 3273:1107,1161 3274:1109,1161 3275:110b,1161 3276:110c,1161 3277:110e,1161",
   "3278:110f,1161 3279:1110,1161 327a:1111,1161 327b:1112,1161 327c:110e,1161,11b7,1100,1169",
   "327d:110c,116e,110b,1174 327e:110b,116e 3280:4e00 3281:4e8c 3282:4e09 3283:56db 3284:4e94",
   "3285:516d 3286:4e03 3287:516b 3288:4e5d 3289:5341 328a:6708 328b:706b 328c:6c34 328d:6728",
   "328e:91d1 328f:571f 3290:65e5 3291:682a 3292:6709 3293:793e 3294:540d 3295:7279 3296:8ca1",
   "3297:795d 3298:52b4 3299:79d8 329a:7537 329b:5973 329c:9069 329d:512a 329e:5370 329f:6ce8",
   "32a0:9805 32a1:4f11 32a2:5199 32a3:6b63 32a4:4e0a 32a5:4e2d 32a6:4e0b 32a7:5de6 32a8:53f3",
   "32a9:533b 32aa:5b97 32ab:5b66 32ac:76e3 32ad:4f01 32ae:8cc7 32af:5354 32b0:591c 32b1:33,36",
   "32b2:33,37 32b3:33,38 32b4:33,39 32b5:34,30 32b6:34,31 32b7:34,32 32b8:34,33 32b9:34,34",
   "32ba:34,35 32bb:34,36 32bc:34,37 32bd:34,38 32be:34,39 32bf:35,30 32c0:31,6708 32c1:32,6708",
   "32c2:33,6708 32c3:34,6708 32c4:35,6708 32c5:36,6708 32c6:37,6708 32c7:38,6708 32c8:39,6708",
   "32c9:31,30,6708 32ca:31,31,6708 32cb:31,32,6708 32cc:68,67 32cd:65,72,67 32ce:65,76",
   "32cf:6c,74,64 32ff:4ee4,548c 3300:32d0,32e9,+25,30fc,32e3 3301:32d0,32f8,32eb,32d0",
   "3302:32d0,3093,32ec,+25,32d0 3303:32d0,30fc,32f8 3304:32d1,32e5,3093,32d7,+24",
   "3305:32d1,3093,32e0 3306:32d2,32d4,3093 3307:32d3,32dc,32d7,30fc,32e3,+24",
   "3308:32d3,30fc,32d5,30fc 3309:32d4,3093,32dc 330a:32d4,30fc,32f0 330b:32d5,32d1,32f7",
   "330c:32d5,32f6,32e1,32e3 330d:32d5,32fa,32f7,30fc 330e:32d5,+24,32fa,3093",
   "330f:32d5,+24,3093,32ee 3310:32d6,+24,32d5,+24 3311:32d6,+24,32e5,30fc",
   "3312:32d6,3085,32f7,30fc 3313:32d6,+24,32f8,32df,+24,30fc 3314:32d6,32fa",
   "3315:32d6,32fa,32d7,+24,32f6,32f0 3316:32d6,32fa,32f1,30fc,32e3,32f8",
   "3317:32d6,32fa,32fb,32e1,32e3 3318:32d7,+24,32f6,32f0 3319:32d7,+24,32f6,32f0,32e3,3093",
   "331a:32d7,32f8,32dd,+24,32d1,32fa 331b:32d7,32fa,30fc,32e7 331c:32d8,30fc,32dc",
   "331d:32d9,32f8,32e4 331e:32d9,30fc,32ed,+25 331f:32da,32d1,32d7,32f8",
   "3320:32da,3093,32e0,30fc,32f0 3321:32db,32f7,3093,32d7,+24 3322:32dd,3093,32e0",
   "3323:32dd,3093,32e3 3324:32df,+24,30fc,32dc 3325:32e2,+24,32db 3326:32e3,+24,32f8",
   "3327:32e3,3093 3328:32e4,32e8 3329:32e8,32e1,32e3 332a:32e9,32d1,32e1",
   "332b:32e9,+25,30fc,32dd,3093,32e3 332c:32e9,+25,30fc,32e1 332d:32e9,+24,30fc,32f9,32f8",
   "332e:32ea,+25,32d0,32dc,32e3,32f8 332f:32ea,+25,32d7,32f8 3330:32ea,+25,32d9",
   "3331:32ea,+24,32f8 3332:32eb,32d0,32f6,32e1,32e3,+24 3333:32eb,32d1,30fc,32e3",
   "3334:32eb,+24,32e1,32db,32d3,32f8 3335:32eb,32f6,3093 3336:32ec,32d7,32df,30fc,32f8",
   "3337:32ec,+25,32de 3338:32ec,+25,32e5,32ea 3339:32ec,32f8,32e1 333a:32ec,+25,3093,32dc",
   "333b:32ec,+25,30fc,32db,+24 333c:32ec,+24,30fc,32df 333d:32ed,+25,32d1,3093,32e3",
   "333e:32ed,+24,32f8,32e3 333f:32ed,3093 3340:32ed,+25,3093,32e3,+24 3341:32ed,30fc,32f8",
   "3342:32ed,30fc,3093 3343:32ee,32d1,32d7,32fa 3344:32ee,32d1,32f8 3345:32ee,32e1,32e9",
   "3346:32ee,32f8,32d7 3347:32ee,3093,32db,32f5,3093 3348:32ef,32d7,32fa,3093 3349:32ef,32f7",
   "334a:32ef,32f7,32e9,+24,30fc,32f8 334b:32f1,32d5,+24 334c:32f1,32d5,+24,32e3,3093",
   "334d:32f1,30fc,32e3,32f8 334e:32f3,30fc,32e3,+24 334f:32f3,30fc,32f8 3350:3085,32d0,3093",
   "3351:32f7,32e1,32e3,32f8 3352:32f7,32f6 3353:32f8,32ea,+25,30fc 3354:32f8,30fc,32eb,+24,32f8",
   "3355:32f9,32f0 3356:32f9,3093,32e3,32d8,+24,3093 3357:32fb,32e1,32e3 3358:30,70b9 3359:31,70b9",
   "335a:32,70b9 335b:33,70b9 335c:34,70b9 335d:35,70b9 335e:36,70b9 335f:37,70b9 3360:38,70b9",
   "3361:39,70b9 3362:31,30,70b9 3363:31,31,70b9 3364:31,32,70b9 3365:31,33,70b9 3366:31,34,70b9",
   "3367:31,35,70b9 3368:31,36,70b9 3369:31,37,70b9 336a:31,38,70b9 336b:31,39,70b9",
   "336c:32,30,70b9 336d:32,31,70b9 336e:32,32,70b9 336f:32,33,70b9 3370:32,34,70b9 3371:68,70,61",
   "3372:64,61 3373:61,75 3374:62,61,72 3375:6f,76 3376:70,63 3377:64,6d 3378:64,6d,32",
   "3379:64,6d,33 337a:69,75 337b:5e73,6210 337c:662d,548c 337d:5927,6b63 337e:660e,6cbb",
   "337f:682a,5f0f,4f1a,793e 3380:70,61 3381:6e,61 3382:3bc,61 3383:6d,61 3384:6b,61 3385:6b,62",
   "3386:6d,62 3387:67,62 3388:63,61,6c 3389:6b,63,61,6c 338a:70,66 338b:6e,66 338c:3bc,66",
   "338d:3bc,67 338e:6d,67 338f:6b,67 3390:68,7a 3391:6b,68,7a 3392:6d,68,7a 3393:67,68,7a",
   "3394:74,68,7a 3395:3bc,6c 3396:6d,6c 3397:64,6c 3398:6b,6c 3399:66,6d 339a:6e,6d 339b:3bc,6d",
   "339c:6d,6d 339d:63,6d 339e:6b,6d 339f:6d,6d,32 33a0:63,6d,32 33a1:6d,32 33a2:6b,6d,32",
   "33a3:6d,6d,33 33a4:63,6d,33 33a5:6d,33 33a6:6b,6d,33 33a7:6d,2215,73 33a8:6d,2215,73,32",
   "33a9:70,61 33aa:6b,70,61 33ab:6d,70,61 33ac:67,70,61 33ad:72,61,64 33ae:72,61,64,2215,73",
   "33af:72,61,64,2215,73,32 33b0:70,73 33b1:6e,73 33b2:3bc,73 33b3:6d,73 33b4:70,76 33b5:6e,76",
   "33b6:3bc,76 33b7:6d,76 33b8:6b,76 33b9:6d,76 33ba:70,77 33bb:6e,77 33bc:3bc,77 33bd:6d,77",
   "33be:6b,77 33bf:6d,77 33c0:6b,3c9 33c1:6d,3c9 33c2:61,2e,6d,2e 33c3:62,71 33c4:63,63",
   "33c5:63,64 33c6:63,2215,6b,67 33c7:63,6f,2e 33c8:64,62 33c9:67,79 33ca:68,61 33cb:68,70",
   "33cc:69,6e 33cd:6b,6b 33ce:6b,6d 33cf:6b,74 33d0:6c,6d 33d1:6c,6e 33d2:6c,6f,67 33d3:6c,78",
   "33d4:6d,62 33d5:6d,69,6c 33d6:6d,6f,6c 33d7:70,68 33d8:70,2e,6d,2e 33d9:70,70,6d 33da:70,72",
   "33db:73,72 33dc:73,76 33dd:77,62 33de:76,2215,6d 33df:61,2215,6d 33e0:31,65e5 33e1:32,65e5",
   "33e2:33,65e5 33e3:34,65e5 33e4:35,65e5 33e5:36,65e5 33e6:37,65e5 33e7:38,65e5 33e8:39,65e5",
   "33e9:31,30,65e5 33ea:31,31,65e5 33eb:31,32,65e5 33ec:31,33,65e5 33ed:31,34,65e5",
   "33ee:31,35,65e5 33ef:31,36,65e5 33f0:31,37,65e5 33f1:31,38,65e5 33f2:31,39,65e5",
   "33f3:32,30,65e5 33f4:32,31,65e5 33f5:32,32,65e5 33f6:32,33,65e5 33f7:32,34,65e5",
   "33f8:32,35,65e5 33f9:32,36,65e5 33fa:32,37,65e5 33fb:32,38,65e5 33fc:32,39,65e5",
   "33fd:33,30,65e5 33fe:33,31,65e5 33ff:67,61,6c a613:a50c,a60b a614:a51e,a60b a615:a533,a60b",
   "a616:a547,a60c a617:a552,a60b a618:a558,a60c a619:a55a,a60c a61a:a560,a60b a61b:a585,a60b",
   "a61c:a5b4,a60b a61d:a5cb,a60b a61e:a5d1,a60c a61f:a5d8,a60b a676:456,+18 a729:74,7a a733:61,61",
   "a735:61,6f a737:61,75 a739:61,76 a73b:61/2,76 a73d:61,79 a74f:6f,6f a75b:72/8 a761:76,79",
   "a77a:64/8 a77c:66/2 a783:72/2 a785:73/8 a787:74/8 a79b:61,+18 a79d:6f,+18 a79f:75,+18",
   "a7a1:67,+22 a7a3:6b,+22 a7a5:6e,+22 a7a7:72,+22 a7a9:73,+22 a7c1:61,+1e a7c3:77/2 a7d9:73/b",
   "a7f8:68,+26 a7f9:6f/2,65 ab66:64,290 ab67:74,282 fb00:66,66 fb01:66,69 fb02:66,6c",
   "fb03:66,66,69 fb04:66,66,6c fb05:73/5,74 fb06:73,74 fb13:574,576 fb14:574,565 fb15:574,56b",
   "fb16:57e,576 fb17:574,56d fb4f:5d0,5dc fba4:6d5,+70 fba5:6d5,+70 fbb0:6d2,+70 fbb1:6d2,+70",
   "fbdd:621,6c7 fbea:626,8ad fbeb:626,8ad fbec:626,6d5 fbed:626,6d5 fbee:626,648 fbef:626,648",
   "fbf0:626,6c7 fbf1:626,6c7 fbf2:626,6c6 fbf3:626,6c6 fbf4:626,6c8 fbf5:626,6c8 fbf6:626,6d0",
   "fbf7:626,6d0 fbf8:626,6d0 fbf9:626,649 fbfa:626,649 fbfb:626,649 fc00:626,62c fc01:626,62d",
   "fc02:626,645 fc03:626,649 fc04:626,64a fc05:628,62c fc06:628,62d fc07:628,62e fc08:628,645",
   "fc09:628,649 fc0a:628,64a fc0b:62a,62c fc0c:62a,62d fc0d:62a,62e fc0e:62a,645 fc0f:62a,649",
   "fc10:62a,64a fc11:62b,62c fc12:62b,645 fc13:62b,649 fc14:62b,64a fc15:62c,62d fc16:62c,645",
   "fc17:62d,62c fc18:62d,645 fc19:62e,62c fc1a:62e,62d fc1b:62e,645 fc1c:633,62c fc1d:633,62d",
   "fc1e:633,62e fc1f:633,645 fc20:635,62d fc21:635,645 fc22:636,62c fc23:636,62d fc24:636,62e",
   "fc25:636,645 fc26:637,62d fc27:637,645 fc28:638,645 fc29:639,62c fc2a:639,645 fc2b:63a,62c",
   "fc2c:63a,645 fc2d:641,62c fc2e:641,62d fc2f:641,62e fc30:641,645 fc31:641,649 fc32:641,64a",
   "fc33:642,62d fc34:642,645 fc35:642,649 fc36:642,64a fc37:643,8ad fc38:643,62c fc39:643,62d",
   "fc3a:643,62e fc3b:643,644 fc3c:643,645 fc3d:643,649 fc3e:643,64a fc3f:644,62c fc40:644,62d",
   "fc41:644,62e fc42:644,645 fc43:644,649 fc44:644,64a fc45:645,62c fc46:645,62d fc47:645,62e",
   "fc48:645,645 fc49:645,649 fc4a:645,64a fc4b:646,62c fc4c:646,62d fc4d:646,62e fc4e:646,645",
   "fc4f:646,649 fc50:646,64a fc51:647,62c fc52:647,645 fc53:647,649 fc54:647,64a fc55:64a,62c",
   "fc56:64a,62d fc57:64a,62e fc58:64a,645 fc59:64a,649 fc5a:64a,64a fc5b:630,+85 fc5c:631,+85",
   "fc5d:649,+85 fc5e:+5d,+6d fc5f:+60,+6d fc60:+63,+6d fc61:+67,+6d fc62:+6a,+6d fc63:+6d,+85",
   "fc64:626,631 fc65:626,632 fc66:626,645 fc67:626,646 fc68:626,649 fc69:626,64a fc6a:628,631",
   "fc6b:628,632 fc6c:628,645 fc6d:628,646 fc6e:628,649 fc6f:628,64a fc70:62a,631 fc71:62a,632",
   "fc72:62a,645 fc73:62a,646 fc74:62a,649 fc75:62a,64a fc76:62b,631 fc77:62b,632 fc78:62b,645",
   "fc79:62b,646 fc7a:62b,649 fc7b:62b,64a fc7c:641,649 fc7d:641,64a fc7e:642,649 fc7f:642,64a",
   "fc80:643,8ad fc81:643,644 fc82:643,645 fc83:643,649 fc84:643,64a fc85:644,645 fc86:644,649",
   "fc87:644,64a fc88:645,8ad fc89:645,645 fc8a:646,631 fc8b:646,632 fc8c:646,645 fc8d:646,646",
   "fc8e:646,649 fc8f:646,64a fc90:649,+85 fc91:64a,631 fc92:64a,632 fc93:64a,645 fc94:64a,646",
   "fc95:64a,649 fc96:64a,64a fc97:626,62c fc98:626,62d fc99:626,62e fc9a:626,645 fc9b:626,647",
   "fc9c:628,62c fc9d:628,62d fc9e:628,62e fc9f:628,645 fca0:628,647 fca1:62a,62c fca2:62a,62d",
   "fca3:62a,62e fca4:62a,645 fca5:62a,647 fca6:62b,645 fca7:62c,62d fca8:62c,645 fca9:62d,62c",
   "fcaa:62d,645 fcab:62e,62c fcac:62e,645 fcad:633,62c fcae:633,62d fcaf:633,62e fcb0:633,645",
   "fcb1:635,62d fcb2:635,62e fcb3:635,645 fcb4:636,62c fcb5:636,62d fcb6:636,62e fcb7:636,645",
   "fcb8:637,62d fcb9:638,645 fcba:639,62c fcbb:639,645 fcbc:63a,62c fcbd:63a,645 fcbe:641,62c",
   "fcbf:641,62d fcc0:641,62e fcc1:641,645 fcc2:642,62d fcc3:642,645 fcc4:643,62c fcc5:643,62d",
   "fcc6:643,62e fcc7:643,644 fcc8:643,645 fcc9:644,62c fcca:644,62d fccb:644,62e fccc:644,645",
   "fccd:644,647 fcce:645,62c fccf:645,62d fcd0:645,62e fcd1:645,645 fcd2:646,62c fcd3:646,62d",
   "fcd4:646,62e fcd5:646,645 fcd6:646,647 fcd7:647,62c fcd8:647,645 fcd9:647,+85 fcda:64a,62c",
   "fcdb:64a,62d fcdc:64a,62e fcdd:64a,645 fcde:64a,647 fcdf:626,645 fce0:626,647 fce1:628,645",
   "fce2:628,647 fce3:62a,645 fce4:62a,647 fce5:62b,645 fce6:62b,647 fce7:633,645 fce8:633,647",
   "fce9:634,645 fcea:634,647 fceb:643,644 fcec:643,645 fced:644,645 fcee:646,645 fcef:646,647",
   "fcf0:64a,645 fcf1:64a,647 fcf2:+63,+6d fcf3:+67,+6d fcf4:+6a,+6d fcf5:637,649 fcf6:637,64a",
   "fcf7:639,649 fcf8:639,64a fcf9:63a,649 fcfa:63a,64a fcfb:633,649 fcfc:633,64a fcfd:634,649",
   "fcfe:634,64a fcff:62d,649 fd00:62d,64a fd01:62c,649 fd02:62c,64a fd03:62e,649 fd04:62e,64a",
   "fd05:635,649 fd06:635,64a fd07:636,649 fd08:636,64a fd09:634,62c fd0a:634,62d fd0b:634,62e",
   "fd0c:634,645 fd0d:634,631 fd0e:633,631 fd0f:635,631 fd10:636,631 fd11:637,649 fd12:637,64a",
   "fd13:639,649 fd14:639,64a fd15:63a,649 fd16:63a,64a fd17:633,649 fd18:633,64a fd19:634,649",
   "fd1a:634,64a fd1b:62d,649 fd1c:62d,64a fd1d:62c,649 fd1e:62c,64a fd1f:62e,649 fd20:62e,64a",
   "fd21:635,649 fd22:635,64a fd23:636,649 fd24:636,64a fd25:634,62c fd26:634,62d fd27:634,62e",
   "fd28:634,645 fd29:634,631 fd2a:633,631 fd2b:635,631 fd2c:636,631 fd2d:634,62c fd2e:634,62d",
   "fd2f:634,62e fd30:634,645 fd31:633,647 fd32:634,647 fd33:637,645 fd34:633,62c fd35:633,62d",
   "fd36:633,62e fd37:634,62c fd38:634,62d fd39:634,62e fd3a:637,645 fd3b:638,645 fd3c:8ad,+5a",
   "fd3d:8ad,+5a fd50:62a,62c,645 fd51:62a,62d,62c fd52:62a,62d,62c fd53:62a,62d,645",
   "fd54:62a,62e,645 fd55:62a,645,62c fd56:62a,645,62d fd57:62a,645,62e fd58:62c,645,62d",
   "fd59:62c,645,62d fd5a:62d,645,64a fd5b:62d,645,649 fd5c:633,62d,62c fd5d:633,62c,62d",
   "fd5e:633,62c,649 fd5f:633,645,62d fd60:633,645,62d fd61:633,645,62c fd62:633,645,645",
   "fd63:633,645,645 fd64:635,62d,62d fd65:635,62d,62d fd66:635,645,645 fd67:634,62d,645",
   "fd68:634,62d,645 fd69:634,62c,64a fd6a:634,645,62e fd6b:634,645,62e fd6c:634,645,645",
   "fd6d:634,645,645 fd6e:636,62d,649 fd6f:636,62e,645 fd70:636,62e,645 fd71:637,645,62d",
   "fd72:637,645,62d fd73:637,645,645 fd74:637,645,64a fd75:639,62c,645 fd76:639,645,645",
   "fd77:639,645,645 fd78:639,645,649 fd79:63a,645,645 fd7a:63a,645,64a fd7b:63a,645,649",
   "fd7c:641,62e,645 fd7d:641,62e,645 fd7e:642,645,62d fd7f:642,645,645 fd80:644,62d,645",
   "fd81:644,62d,64a fd82:644,62d,649 fd83:644,62c,62c fd84:644,62c,62c fd85:644,62e,645",
   "fd86:644,62e,645 fd87:644,645,62d fd88:644,645,62d fd89:645,62d,62c fd8a:645,62d,645",
   "fd8b:645,62d,64a fd8c:645,62c,62d fd8d:645,62c,645 fd8e:645,62e,62c fd8f:645,62e,645",
   "fd92:645,62c,62e fd93:647,645,62c fd94:647,645,645 fd95:646,62d,645 fd96:646,62d,649",
   "fd97:646,62c,645 fd98:646,62c,645 fd99:646,62c,649 fd9a:646,645,64a fd9b:646,645,649",
   "fd9c:64a,645,645 fd9d:64a,645,645 fd9e:628,62e,64a fd9f:62a,62c,64a fda0:62a,62c,649",
   "fda1:62a,62e,64a fda2:62a,62e,649 fda3:62a,645,64a fda4:62a,645,649 fda5:62c,645,64a",
   "fda6:62c,62d,649 fda7:62c,645,649 fda8:633,62e,649 fda9:635,62d,64a fdaa:634,62d,64a",
   "fdab:636,62d,64a fdac:644,62c,64a fdad:644,645,64a fdae:64a,62d,64a fdaf:64a,62c,64a",
   "fdb0:64a,645,64a fdb1:645,645,64a fdb2:642,645,64a fdb3:646,62d,64a fdb4:642,645,62d",
   "fdb5:644,62d,645 fdb6:639,645,64a fdb7:643,645,64a fdb8:646,62c,62d fdb9:645,62e,64a",
   "fdba:644,62c,645 fdbb:643,645,645 fdbc:644,62c,645 fdbd:646,62c,62d fdbe:62c,62d,64a",
   "fdbf:62d,62c,64a fdc0:645,62c,64a fdc1:641,645,64a fdc2:628,62d,64a fdc3:643,645,645",
   "fdc4:639,62c,645 fdc5:635,645,645 fdc6:633,62e,64a fdc7:646,62c,64a fdf0:635,644,6d2",
   "fdf1:642,644,6d2 fdf2:8ad,644,644,647 fdf3:8ad,643,628,631 fdf4:645,62d,645,62f",
   "fdf5:635,644,639,645 fdf6:631,633,648,644 fdf7:639,644,64a,647 fdf8:648,633,644,645",
   "fdf9:635,644,649 fdfa:635,644,649,20,8ad,644,644,647,20,639,644,64a,647,20,648,633,644,645",
   "fdfb:62c,644,20,62c,644,8ad,644,647 fdfc:631,6cc,8ad,644 fe19:2e,2e,2e fe30:2e,2e fef5:644,622",
   "fef6:644,622 fef7:644,623 fef8:644,623 fef9:644,625 fefa:644,625 fefb:644,8ad fefc:644,8ad",
   "10780:61,61 10783:61/2,65 10787:64,7a 10788:64,290 10789:64,291 1078a:64,292 10790:66,14b",
   "10795:68,+26 10799:6c,73 1079a:6c,7a 107a2:6f,+1c 107ab:74,255 107ac:74,73 107ad:74,282",
   "107ae:74,283 10980:109a0/2 10981:109a1/2 10982:109a2/2 10983:109a3/2 10984:109a4/2",
   "10985:109a5/2 10986:109a6/2 10987:109a6/8 10988:109a7/2 10989:109a8/2 1098a:109a9/2",
   "1098b:109a9/8 1098c:109aa/2 1098d:109aa/8 1098e:109ab/2 1098f:109ab/8 10990:109ac/2",
   "10991:109ad/2 10992:109ae/2 10993:109af/6 10994:109af/a 10995:109b1/2 10996:109b2/2",
   "10997:109b3/2 10998:109b4/2 10999:109b4/8 1099a:109b5/2 1099b:109b5/8 1099c:109b6/2",
   "1099d:109b7/2 109b0:109af/2 10ac8:10ac7/2 10b2e:10b2d/2 10c01:10c00/2 10c04:10c03/2",
   "10c08:10c07/2 10c0a:10c09/2 10c0c:10c0b/2 10c0e:10c0d/2 10c10:10c0f/2 10c12:10c11/2",
   "10c15:10c14/2 10c17:10c16/2 10c19:10c18/2 10c1b:10c1a/2 10c1d:10c1c/2 10c1f:10c1e/2",
   "10c25:10c24/2 10c27:10c26/2 10c29:10c28/2 10c2b:10c2a/2 10c2e:10c2d/2 10c33:10c32/2",
   "10c35:10c34/2 10c37:10c36/2 10c39:10c38/2 10c3b:10c3a/2 10c40:10c3f/2 10c42:10c41/2",
   "10c44:10c43/2 10c46:10c45/2 10cc1:10cc0/2 10cca:10cc9/2 10ccb:10cc9/8 10cd1:10cd0/2",
   "10cdc:10cdb/2 10cde:10cdd/2 10cdf:10cdd/8 10ce3:10ce2/2 10ceb:10cea/2 10ced:10cec/2",
   "10f10:10f0e/2 10f13:10f12/2 10f17:10f15/2 10f1c:10f1a/2 10f27:10f12,10f18 10f45:10f41/2",
   "10ff6:10fe6,10fe9 115d8:11582/2 115d9:11582/8 115da:11583/2 115db:11584/2 115dc:115b2/2",
   "115dd:115b3/2 11705:11704/2 11716:11715/2 1171a:11708/2 16e94:31/2 16e95:32/2 16e96:33/2",
   "1df00:66/8,14b 1df12:64,1df18 1df17:74,1d8b 1df19:64,1d9a 1df1c:74,1d98 1e067:433/2 1ecb1:31/2",
   "1ecb2:32/2 1ed2f:32/2 1ed30:33/2 1ed31:34/2 1ed32:35/2 1ed33:36/2 1ed34:37/2 1ed35:38/2",
   "1ed36:39/2 1f100:30,2e 1f101:30,2c 1f102:31,2c 1f103:32,2c 1f104:33,2c 1f105:34,2c 1f106:35,2c",
   "1f107:36,2c 1f108:37,2c 1f109:38,2c 1f10a:39,2c 1f110:28,61,29 1f111:28,62,29 1f112:28,63,29",
   "1f113:28,64,29 1f114:28,65,29 1f115:28,66,29 1f116:28,67,29 1f117:28,68,29 1f118:28,69,29",
   "1f119:28,6a,29 1f11a:28,6b,29 1f11b:28,6c,29 1f11c:28,6d,29 1f11d:28,6e,29 1f11e:28,6f,29",
   "1f11f:28,70,29 1f120:28,71,29 1f121:28,72,29 1f122:28,73,29 1f123:28,74,29 1f124:28,75,29",
   "1f125:28,76,29 1f126:28,77,29 1f127:28,78,29 1f128:28,79,29 1f129:28,7a,29 1f12a:3014,73,3015",
   "1f12d:63,64 1f12e:77,7a 1f14a:68,76 1f14b:6d,76 1f14c:73,64 1f14d:73,73 1f14e:70,70,76",
   "1f14f:77,63 1f16a:6d,63 1f16b:6d,64 1f16c:6d,72 1f18b:69,63 1f18c:70,61 1f18d:73,61",
   "1f18e:61,62 1f18f:77,63 1f190:64,6a 1f191:63,6c 1f192:63,6f,6f,6c 1f193:66,72,65,65",
   "1f194:69,64 1f195:6e,65,77 1f196:6e,67 1f197:6f,6b 1f198:73,6f,73 1f199:75,70,21 1f19a:76,73",
   "1f19b:33,64 1f19c:32,6e,64,20,73,63,72 1f19d:32,6b 1f19e:34,6b 1f19f:38,6b 1f1a0:35,2e,31",
   "1f1a1:37,2e,31 1f1a2:32,32,2e,32 1f1a3:36,30,70 1f1a4:31,32,30,70 1f1a6:68,63 1f1a7:68,64,72",
   "1f1a8:68,69,20,72,65,73 1f1a9:6c,6f,73,73,6c,65,73,73 1f1aa:73,68,76 1f1ab:75,68,64",
   "1f1ac:76,6f,64 1f200:32ed,32d5 1f201:32d9,32d9 1f210:624b 1f211:5b57 1f212:53cc 1f213:32e2,+24",
   "1f214:4e8c 1f215:591a 1f216:89e3 1f217:5929 1f218:4ea4 1f219:6620 1f21a:7121 1f21b:6599",
   "1f21c:524d 1f21d:5f8c 1f21e:518d 1f21f:65b0 1f220:521d 1f221:7d42 1f222:751f 1f223:8ca9",
   "1f224:58f0 1f225:5439 1f226:6f14 1f227:6295 1f228:6355 1f229:4e00 1f22a:4e09 1f22b:904a",
   "1f22c:5de6 1f22d:4e2d 1f22e:53f3 1f22f:6307 1f230:8d70 1f231:6253 1f232:7981 1f233:7a7a",
   "1f234:5408 1f235:6e80 1f236:6709 1f237:6708 1f238:7533 1f239:5272 1f23a:55b6 1f23b:914d",
   "1f240:3014,672c,3015 1f241:3014,4e09,3015 1f242:3014,4e8c,3015 1f243:3014,5b89,3015",
   "1f244:3014,70b9,3015 1f245:3014,6253,3015 1f246:3014,76d7,3015 1f247:3014,52dd,3015",
   "1f248:3014,6557,3015 1f250:5f97 1f251:53ef"]

/-- Characters that add only an accent, consecutive (`:`) or shared (`=`). -/
def marks : List String :=
  ["300:12 301:11 302:14 303:1a 304:1f 305:27 306:13 307:1b 308:18 309:28 30a:16 30b:19 30c:15",
   "30d-30e=20 30f-311:29 312:20 313-314:f 315-316:20 317-319=21 31a:20 31b:2c 31c-320=21",
   "321-326:2d 327-328:1d 329-32c=21 32d-32e:33 32f:21 330-331:35 332:e 333:21 334:37 335:26",
   "336-337=22 338:1c 339:38 33a-33c=21 33d-33f=20 342:17 345:39 346-347:20 348-349=21 34a-34c=20",
   "34d-34e=21 350-352=20 353-356=21 357:20 358:3a 359-35a=21 35b-35c:20 35d-35e=20 35f:21",
   "360-361:3b 362:21 483:3d 484:20 485:10 486:f 487:20 5b0-5b9:3f 5ba-5bb:48 5bc:4c 5bf:4d 5c1:4b",
   "5c2:4a 5c7:47 64b:5a 64c:5d 64d:60 64e:63 64f:67 650:6a 651-655:6d 656-658:73 659-65e:77",
   "65f:72 670:85 711:86 730-73f:87 741-742:20 745-746:20 7eb-7f3:97 7fd:21 818-819:57 81c-81d=4f",
   "81e-820=50 821-823=51 824-825=52 826-827=53 828-82a=54 82b-82c:55 82d:59 859-85b=21 89e-89f=6f",
   "8e3:7d 8e4:64 8e5:68 8e6:6b 8e7:5c 8e8:5f 8e9:62 8f0:5b 8f1:5e 8f2:61 8f4-8f5:65 8f6:6c",
   "8f7-8f8:7e 8f9-8fa:83 8fb-8fc:81 8fd:80 8fe:69 8ff:76 900-901=b0 902-903:b1 93c:af 953:12",
   "954:11 981-983:b0 9bc:af 9fe:b3 a01-a03:b0 a3c:af a70-a71:b4 a81-a83:b0 abc:af afa:6e afb:6d",
   "afc:6f afd-aff=af b01-b03:b0 b3c:af b55:20 b82:b1 c00-c01=b0 c02-c03:b1 c04:b1 c3c:af",
   "c81-c83:b0 cbc:af cf3:b1 d00:b1 d01-d03:b0 d81-d83:b0 e47-e4d:c1 e4e:c0 ec8-ecd:c9 ece:c8",
   "f39:d1 f7e-f7f:b1 f82-f83=b0 1036:b1 1037:d5 1038:b2 135d:a2 135e:a1 135f:a0 17c6-17c7:b1",
   "17c8-17ca:d6 17cb-17d1=20 17dd:20 1939-193b:e1 1a74:b1 1a75-1a7c:d9 1ab0-1ab4=20 1ab5-1aba=21",
   "1abb-1abc=20 1abd:21 1abe:23 1ac1-1ac2=20 1ac3-1ac4=21 1ac5-1ac9=20 1aca:21 1acb:20",
   "1b00-1b01=b0 1b02:b1 1b03:b6 1b04:b2 1b34:af 1b80:b1 1b81:b8 1b82:b2 1be6:af 1c37:af 1ced:b1",
   "1cf2-1cf3=b2 1dc0-1dc1=20 1dc2:21 1dc3-1dc9=20 1dcb-1dce=20 1dcf-1dd0=21 1dd1:20 1df5-1df8=20",
   "1df9-1dfa=21 1dfb-1dfc:20 1dfd:21 1dfe-1dff:20 20d0-20d2:fb 20d3-20d7:fd 20d8-20da=22",
   "20db-20dc:102 20dd-20e0=23 20e1:104 20e2-20e4=23 20e5:22 20e6-20e9:105 20ea-20eb=22",
   "20ec-20ef=21 20f0:20 2cef:20 2cf0:10 2cf1:f 302a-302f:f3 3099-309a:24 a66f:3e a67c-a67d=20",
   "a6f0-a6f1:a3 a80b:b1 a880-a881:b1 a8c5:b0 a92b-a92d:d2 a980-a981:b0 a982:b7 a983:b2 a9b3:af",
   "aabf:cf aac1:d0 abec:b9 fb1e:4e fe20:3c fe22:3b fe27:21 fe29:3b fe2e:3d fe70-fe71=5a fe72:5d",
   "fe74:60 fe76-fe77=63 fe78-fe79=67 fe7a-fe7b=6a fe7c-fe7d=6d fe7e-fe7f=6e ff9e-ff9f:24 101fd:21",
   "10a0d:21 10a0e-10a0f:b1 10a38-10a3a:ba 10ae5-10ae6:20 10d24-10d27=20 10eab:70 10eac:6f",
   "10f46-10f47=21 10f48-10f4a=20 10f4b:21 10f4c-10f4d:20 10f4e-10f50=21 10f82-10f83:20",
   "10f84-10f85:20 11000-11002:b0 11080-11082:b0 110ba:af 11100-11102:b0 11173:af 11180-11182:b0",
   "111c9:b3 111ca:af 111cb-111cc:bd 111cf:b0 11234:b1 11236:af 11237:6d 1123e:6e 112df:b1",
   "112e9:af 11300:b1 11301-11303:b0 1133b-1133c=af 11443-11445:b0 11446:af 1145e:b3",
   "114bf-114c1:b0 114c3:af 115bc-115be:b0 115c0:af 1163d-1163e:b1 11640:b0 116ab-116ac:b1",
   "116b7:af 11837-11838:b1 1183a:af 1193b:b1 1193c:b0 11943:af 119de-119df:b1 11a33:af",
   "11a35-11a37=b0 11a38-11a39:b1 11a96-11a97:b1 11a98:bf 11c3c-11c3e:b0 11cb5:b1 11cb6:b0",
   "11d40-11d41:b1 11d42-11d43:af 11d95-11d96:b1 11f00-11f01:b0 11f03:b2 16af0-16af4:a5",
   "16b30-16b36:e4 16ff0-16ff1:f9 1bc9d:20 1bc9e:22 1e130:e8 1e131:e4 1e132-1e133:e6",
   "1e134-1e135:e9 1e136:e5 1e2ae:20 1e2ec-1e2ef:eb 1e4ec-1e4ef:ef 1e944-1e946=aa 1e947-1e949:ac",
   "1e94a:ab"]

def ignored : List String :=
  ["0-8 e-1f 7f-84 86-9f ad 34f 488-489 591-5af 5bd 5c4-5c5 600-605 610-61a 61c 640 6d6-6dd",
   "6df-6e4 6e7-6e8 6ea-6ed 70f 740 743-744 747-74a 7fa 890-891 898-89d 8ca-8e2 8ea-8ef 8f3",
   "951-952 f18-f19 f35 f37 f3e-f3f f86-f87 fc6 17b4-17b5 17d3 180a-180f 1a7f 1b6b-1b73 1cd0-1ce8",
   "1cf4 1cf7-1cf9 200b-200f 202a-202e 2060-2064 2066-206f 2d7f a670-a672 a8e0-a8f1 fe00-fe0f fe21",
   "fe23-fe26 fe28 fe2a-fe2d fe2f fe73 feff fff9-fffb 102e0 10efd-10eff 110bd 110cd 11366-1136c",
   "11370-11374 13430-13440 13447-13455 16fe4 1bca0-1bca3 1cf00-1cf2d 1cf30-1cf46 1d165-1d169",
   "1d16d-1d182 1d185-1d18b 1d1aa-1d1ad 1d242-1d244 1da00-1da36 1da3b-1da6c 1da75 1da84",
   "1da9b-1da9f 1daa1-1daaf 1e8d0-1e8d6 e0001 e0020-e007f e0100-e01ef"]

def joined : List String :=
  ["e4d+e32:e33 ecd+eb2:eb3 fb2+f71:fb2,f71 fb2+f71+f72:fb2,f73 fb2+f71+f74:fb2,f75",
   "fb2+f71+f80:f77 fb3+f71:fb3,f71 fb3+f71+f72:fb3,f73 fb3+f71+f74:fb3,f75 fb3+f71+f80:f79",
   "6c+b7:6c,+109"]

def leadingVowels : List String :=
  ["e40-e44 ec0-ec4 19b5-19b7 19ba aab5-aab6 aab9 aabb-aabc"]

def consonants : List String :=
  ["e01-e2e e81-e82 e84 e86-e8a e8c-ea3 ea5 ea7-eae edc-edf 1980-19ab aa80-aaaf"]

/-- The places of the characters below 128; zero for one without weight. -/
def asciiPlaces : List Nat :=
  [0, 0, 0, 0, 0, 0, 0, 0, 0, 2, 3, 4, 5, 6, 0, 0, 0, 0, 0, 0, 0, 0, 0, 0, 0, 0, 0, 0, 0, 0, 0, 0,
   10, 105, 307, 450, 7283, 451, 447, 304, 310, 311, 439, 1192, 37, 14, 130, 444, 7335, 7336, 7337,
   7338, 7339, 7340, 7341, 7342, 7343, 7344, 66, 60, 1196, 1197, 1198, 112, 438, 7850, 7864, 7875,
   7885, 7899, 7922, 7931, 7946, 7958, 7971, 7978, 7989, 8016, 8025, 8043, 8073, 8085, 8092, 8125,
   8146, 8160, 8184, 8193, 8197, 8206, 8213, 312, 445, 313, 727, 12, 724, 7850, 7864, 7875, 7885,
   7899, 7922, 7931, 7946, 7958, 7971, 7978, 7989, 8016, 8025, 8043, 8073, 8085, 8092, 8125, 8146,
   8160, 8184, 8193, 8197, 8206, 8213, 314, 1200, 315, 1202, 0]

end PlanningSearch.Text.Collation
