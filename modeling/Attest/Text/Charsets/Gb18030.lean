import Attest.Text.Charset

/-!
# GB 18030

What the standard GB 18030 adds to GBK. The characters with four bytes are numbered
in the order of their bytes; they are all characters of the basic plane that have no
two bytes, in order.

## Main definitions

* `gb18030Additions`: The characters of two bytes that GBK lacks.
* `gb18030Basic`: The characters of four bytes in the basic plane, by their number.
-/

namespace Attest

namespace Text

namespace Charsets

/-- The characters of two bytes that GBK lacks. -/
def gb18030Additions : Charset :=
  ⟨[.span 0xa140 63 0xe4c6,
    .span 0xa180 33 0xe505,
    .span 0xa240 63 0xe526,
    .span 0xa280 33 0xe565,
    .span 0xa2ab 6 0xe766,
    .row 0xa2e3 "€\ue76d",
    .row 0xa2ef "\ue76e\ue76f",
    .row 0xa2fd "\ue770\ue771",
    .span 0xa340 63 0xe586,
    .span 0xa380 33 0xe5c5,
    .span 0xa440 63 0xe5e6,
    .span 0xa480 33 0xe625,
    .span 0xa4f4 11 0xe772,
    .span 0xa540 63 0xe646,
    .span 0xa580 33 0xe685,
    .span 0xa5f7 8 0xe77d,
    .span 0xa640 63 0xe6a6,
    .span 0xa680 33 0xe6e5,
    .span 0xa6b9 8 0xe785,
    .span 0xa6d9 7 0xe78d,
    .row 0xa6ec "\ue794\ue795",
    .row 0xa6f3 "\ue796",
    .span 0xa6f6 9 0xe797,
    .span 0xa740 63 0xe706,
    .span 0xa780 33 0xe745,
    .span 0xa7c2 15 0xe7a0,
    .span 0xa7f2 13 0xe7af,
    .span 0xa896 11 0xe7bc,
    .row 0xa8bc "\ue7c7\ufffd\ufffdǹ",
    .span 0xa8c1 4 0xe7c9,
    .span 0xa8ea 21 0xe7cd,
    .row 0xa958 "\ue7e2\ufffd\ufffd\ue7e3",
    .span 0xa95d 3 0xe7e4,
    .row 0xa989 "〾⿰⿱⿲⿳⿴⿵⿶⿷⿸⿹⿺⿻",
    .span 0xa997 13 0xe7f4,
    .span 0xa9f0 15 0xe801,
    .span 0xaaa1 94 0xe000,
    .span 0xaba1 94 0xe05e,
    .span 0xaca1 94 0xe0bc,
    .span 0xada1 94 0xe11a,
    .span 0xaea1 94 0xe178,
    .span 0xafa1 94 0xe1d6,
    .span 0xd7fa 5 0xe810,
    .span 0xf8a1 94 0xe234,
    .span 0xf9a1 94 0xe292,
    .span 0xfaa1 94 0xe2f0,
    .span 0xfba1 94 0xe34e,
    .span 0xfca1 94 0xe3ac,
    .span 0xfda1 94 0xe40a,
    .row 0xfe50 "⺁",
    .span 0xfe51 3 0xe816,
    .row 0xfe54 "⺄㑳㑇⺈⺋\ue81e㖞㘚㘎⺌⺗㥮㤘\ue826㧏㧟㩳㧐\ue82b\ue82c㭎㱮㳠⺧\ue831\ue832⺪䁖䅟⺮䌷⺳⺶⺷\ue83b䎱䎬⺻䏝䓖䙡",
    .row 0xfe7d "䙌\ue843",
    .row 0xfe80 "䜣䜩䝼䞍⻊䥇䥺䥽䦂䦃䦅䦆䦟䦛䦷䦶\ue854\ue855䲣䲟䲠䲡䱷䲢䴓䴔䴕䴖䴗䴘䴙䶮\ue864",
    .span 0xfea1 94 0xe468]⟩

/-- The characters of four bytes in the basic plane, by their number. -/
def gb18030Basic : Charset :=
  ⟨[.span 0 36 0x0080, .span 36 2 0x00a5, .span 38 7 0x00a9, .span 45 5 0x00b2,
    .span 50 31 0x00b8, .span 81 8 0x00d8, .span 89 6 0x00e2, .span 95 1 0x00eb,
    .span 96 4 0x00ee, .span 100 3 0x00f4, .span 103 1 0x00f8, .span 104 1 0x00fb,
    .span 105 4 0x00fd, .span 109 17 0x0102, .span 126 7 0x0114, .span 133 15 0x011c,
    .span 148 24 0x012c, .span 172 3 0x0145, .span 175 4 0x0149, .span 179 29 0x014e,
    .span 208 98 0x016c, .span 306 1 0x01cf, .span 307 1 0x01d1, .span 308 1 0x01d3,
    .span 309 1 0x01d5, .span 310 1 0x01d7, .span 311 1 0x01d9, .span 312 1 0x01db,
    .span 313 28 0x01dd, .span 341 87 0x01fa, .span 428 15 0x0252, .span 443 101 0x0262,
    .span 544 1 0x02c8, .span 545 13 0x02cc, .span 558 183 0x02da, .span 741 1 0x03a2,
    .span 742 7 0x03aa, .span 749 1 0x03c2, .span 750 55 0x03ca, .span 805 14 0x0402,
    .span 819 1 0x0450, .span 820 7102 0x0452, .span 7922 2 0x2011, .span 7924 1 0x2017,
    .span 7925 2 0x201a, .span 7927 7 0x201e, .span 7934 9 0x2027, .span 7943 1 0x2031,
    .span 7944 1 0x2034, .span 7945 5 0x2036, .span 7950 112 0x203c, .span 8062 86 0x20ad,
    .span 8148 1 0x2104, .span 8149 3 0x2106, .span 8152 12 0x210a, .span 8164 10 0x2117,
    .span 8174 62 0x2122, .span 8236 4 0x216c, .span 8240 22 0x217a, .span 8262 2 0x2194,
    .span 8264 110 0x219a, .span 8374 6 0x2209, .span 8380 1 0x2210, .span 8381 3 0x2212,
    .span 8384 4 0x2216, .span 8388 2 0x221b, .span 8390 2 0x2221, .span 8392 1 0x2224,
    .span 8393 1 0x2226, .span 8394 2 0x222c, .span 8396 5 0x222f, .span 8401 5 0x2238,
    .span 8406 10 0x223e, .span 8416 3 0x2249, .span 8419 5 0x224d, .span 8424 13 0x2253,
    .span 8437 2 0x2262, .span 8439 6 0x2268, .span 8445 37 0x2270, .span 8482 3 0x2296,
    .span 8485 11 0x229a, .span 8496 25 0x22a6, .span 8521 82 0x22c0, .span 8603 333 0x2313,
    .span 8936 10 0x246a, .span 8946 100 0x249c, .span 9046 4 0x254c, .span 9050 13 0x2574,
    .span 9063 3 0x2590, .span 9066 10 0x2596, .span 9076 16 0x25a2, .span 9092 8 0x25b4,
    .span 9100 8 0x25be, .span 9108 3 0x25c8, .span 9111 2 0x25cc, .span 9113 18 0x25d0,
    .span 9131 31 0x25e6, .span 9162 2 0x2607, .span 9164 54 0x260a, .span 9218 1 0x2641,
    .span 9219 2110 0x2643, .span 11329 2 0x2e82, .span 11331 3 0x2e85, .span 11334 2 0x2e89,
    .span 11336 10 0x2e8d, .span 11346 15 0x2e98, .span 11361 2 0x2ea8, .span 11363 3 0x2eab,
    .span 11366 4 0x2eaf, .span 11370 2 0x2eb4, .span 11372 3 0x2eb8, .span 11375 14 0x2ebc,
    .span 11389 293 0x2ecb, .span 11682 4 0x2ffc, .span 11686 1 0x3004, .span 11687 5 0x3018,
    .span 11692 2 0x301f, .span 11694 20 0x302a, .span 11714 2 0x303f, .span 11716 7 0x3094,
    .span 11723 2 0x309f, .span 11725 5 0x30f7, .span 11730 6 0x30ff, .span 11736 246 0x312a,
    .span 11982 7 0x322a, .span 11989 113 0x3232, .span 12102 234 0x32a4, .span 12336 12 0x3390,
    .span 12348 2 0x339f, .span 12350 34 0x33a2, .span 12384 9 0x33c5, .span 12393 2 0x33cf,
    .span 12395 2 0x33d3, .span 12397 113 0x33d6, .span 12510 43 0x3448, .span 12553 298 0x3474,
    .span 12851 111 0x359f, .span 12962 11 0x360f, .span 12973 765 0x361b, .span 13738 85 0x3919,
    .span 13823 96 0x396f, .span 13919 14 0x39d1, .span 13933 147 0x39e0, .span 14080 218 0x3a74,
    .span 14298 287 0x3b4f, .span 14585 113 0x3c6f, .span 14698 885 0x3ce1,
    .span 15583 264 0x4057, .span 15847 471 0x4160, .span 16318 116 0x4338, .span 16434 4 0x43ad,
    .span 16438 43 0x43b2, .span 16481 248 0x43de, .span 16729 373 0x44d7, .span 17102 20 0x464d,
    .span 17122 193 0x4662, .span 17315 5 0x4724, .span 17320 82 0x472a, .span 17402 16 0x477d,
    .span 17418 441 0x478e, .span 17859 50 0x4948, .span 17909 2 0x497b, .span 17911 4 0x497e,
    .span 17915 1 0x4984, .span 17916 20 0x4987, .span 17936 3 0x499c, .span 17939 22 0x49a0,
    .span 17961 703 0x49b8, .span 18664 39 0x4c78, .span 18703 111 0x4ca4,
    .span 18814 148 0x4d1a, .span 18962 81 0x4daf, .span 19043 14426 0x9fa6,
    .span 33469 1 0xe76c, .span 33470 1 0xe7c8, .span 33471 13 0xe7e7, .span 33484 1 0xe815,
    .span 33485 5 0xe819, .span 33490 7 0xe81f, .span 33497 4 0xe827, .span 33501 4 0xe82d,
    .span 33505 8 0xe833, .span 33513 7 0xe83c, .span 33520 16 0xe844, .span 33536 14 0xe856,
    .span 33550 4295 0xe865, .span 37845 76 0xf92d, .span 37921 27 0xf97a, .span 37948 81 0xf996,
    .span 38029 9 0xf9e8, .span 38038 26 0xf9f2, .span 38064 1 0xfa10, .span 38065 1 0xfa12,
    .span 38066 3 0xfa15, .span 38069 6 0xfa19, .span 38075 1 0xfa22, .span 38076 2 0xfa25,
    .span 38078 1030 0xfa2a, .span 39108 1 0xfe32, .span 39109 4 0xfe45, .span 39113 1 0xfe53,
    .span 39114 1 0xfe58, .span 39115 1 0xfe67, .span 39116 149 0xfe6c, .span 39265 129 0xff5f,
    .span 39394 26 0xffe6]⟩

end Charsets

end Text

end Attest
