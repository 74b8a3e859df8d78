import Attest.Text.Ranges

/-!
# Characters of Labels

Which characters of a domain label stay as they are when the label is prepared.

To prepare a label, capitals are made small, other forms of a character are replaced by
the usual one, and characters that nobody sees are dropped; blanks, controls and code
points that are no characters are refused. A character beyond ASCII may stand in a
prepared label if none of this concerns it. The table is for version 3.2 of the character
data, in which labels are prepared; code points that were free then are let through.

A label is written in one direction. Whether characters are of the one or the other is a
property of its own.

## Main definitions

* `staysInLabel`: Whether a code point beyond ASCII stays as it is.
* `isRightToLeft`, `isLeftToRight`: The directions.
-/

namespace Attest

namespace Text

/-- The ranges of the code points beyond ASCII that stay as they are. -/
def labelRanges : Ranges :=
  [(0x00a1, 0x00a7), (0x00a9, 0x00a9), (0x00ab, 0x00ac), (0x00ae, 0x00ae), (0x00b0, 0x00b1),
    (0x00b6, 0x00b7), (0x00bb, 0x00bb), (0x00bf, 0x00bf), (0x00d7, 0x00d7), (0x00e0, 0x00ff),
    (0x0101, 0x0101), (0x0103, 0x0103), (0x0105, 0x0105), (0x0107, 0x0107), (0x0109, 0x0109),
    (0x010b, 0x010b), (0x010d, 0x010d), (0x010f, 0x010f), (0x0111, 0x0111), (0x0113, 0x0113),
    (0x0115, 0x0115), (0x0117, 0x0117), (0x0119, 0x0119), (0x011b, 0x011b), (0x011d, 0x011d),
    (0x011f, 0x011f), (0x0121, 0x0121), (0x0123, 0x0123), (0x0125, 0x0125), (0x0127, 0x0127),
    (0x0129, 0x0129), (0x012b, 0x012b), (0x012d, 0x012d), (0x012f, 0x012f), (0x0131, 0x0131),
    (0x0135, 0x0135), (0x0137, 0x0138), (0x013a, 0x013a), (0x013c, 0x013c), (0x013e, 0x013e),
    (0x0142, 0x0142), (0x0144, 0x0144), (0x0146, 0x0146), (0x0148, 0x0148), (0x014b, 0x014b),
    (0x014d, 0x014d), (0x014f, 0x014f), (0x0151, 0x0151), (0x0153, 0x0153), (0x0155, 0x0155),
    (0x0157, 0x0157), (0x0159, 0x0159), (0x015b, 0x015b), (0x015d, 0x015d), (0x015f, 0x015f),
    (0x0161, 0x0161), (0x0163, 0x0163), (0x0165, 0x0165), (0x0167, 0x0167), (0x0169, 0x0169),
    (0x016b, 0x016b), (0x016d, 0x016d), (0x016f, 0x016f), (0x0171, 0x0171), (0x0173, 0x0173),
    (0x0175, 0x0175), (0x0177, 0x0177), (0x017a, 0x017a), (0x017c, 0x017c), (0x017e, 0x017e),
    (0x0180, 0x0180), (0x0183, 0x0183), (0x0185, 0x0185), (0x0188, 0x0188), (0x018c, 0x018d),
    (0x0192, 0x0192), (0x0195, 0x0195), (0x0199, 0x019b), (0x019e, 0x019e), (0x01a1, 0x01a1),
    (0x01a3, 0x01a3), (0x01a5, 0x01a5), (0x01a8, 0x01a8), (0x01aa, 0x01ab), (0x01ad, 0x01ad),
    (0x01b0, 0x01b0), (0x01b4, 0x01b4), (0x01b6, 0x01b6), (0x01b9, 0x01bb), (0x01bd, 0x01c3),
    (0x01ce, 0x01ce), (0x01d0, 0x01d0), (0x01d2, 0x01d2), (0x01d4, 0x01d4), (0x01d6, 0x01d6),
    (0x01d8, 0x01d8), (0x01da, 0x01da), (0x01dc, 0x01dd), (0x01df, 0x01df), (0x01e1, 0x01e1),
    (0x01e3, 0x01e3), (0x01e5, 0x01e5), (0x01e7, 0x01e7), (0x01e9, 0x01e9), (0x01eb, 0x01eb),
    (0x01ed, 0x01ed), (0x01ef, 0x01f0), (0x01f5, 0x01f5), (0x01f9, 0x01f9), (0x01fb, 0x01fb),
    (0x01fd, 0x01fd), (0x01ff, 0x01ff), (0x0201, 0x0201), (0x0203, 0x0203), (0x0205, 0x0205),
    (0x0207, 0x0207), (0x0209, 0x0209), (0x020b, 0x020b), (0x020d, 0x020d), (0x020f, 0x020f),
    (0x0211, 0x0211), (0x0213, 0x0213), (0x0215, 0x0215), (0x0217, 0x0217), (0x0219, 0x0219),
    (0x021b, 0x021b), (0x021d, 0x021d), (0x021f, 0x021f), (0x0221, 0x0221), (0x0223, 0x0223),
    (0x0225, 0x0225), (0x0227, 0x0227), (0x0229, 0x0229), (0x022b, 0x022b), (0x022d, 0x022d),
    (0x022f, 0x022f), (0x0231, 0x0231), (0x0233, 0x0239), (0x023c, 0x023c), (0x023f, 0x0240),
    (0x0242, 0x0242), (0x0247, 0x0247), (0x0249, 0x0249), (0x024b, 0x024b), (0x024d, 0x024d),
    (0x024f, 0x02af), (0x02b9, 0x02d7), (0x02de, 0x02df), (0x02e5, 0x033f), (0x0342, 0x0342),
    (0x0346, 0x034e), (0x0350, 0x036f), (0x0371, 0x0371), (0x0373, 0x0373), (0x0375, 0x0375),
    (0x0377, 0x0379), (0x037b, 0x037d), (0x0380, 0x0383), (0x038b, 0x038b), (0x038d, 0x038d),
    (0x0390, 0x0390), (0x03a2, 0x03a2), (0x03ac, 0x03c1), (0x03c3, 0x03ce), (0x03d7, 0x03d7),
    (0x03d9, 0x03d9), (0x03db, 0x03db), (0x03dd, 0x03dd), (0x03df, 0x03df), (0x03e1, 0x03e1),
    (0x03e3, 0x03e3), (0x03e5, 0x03e5), (0x03e7, 0x03e7), (0x03e9, 0x03e9), (0x03eb, 0x03eb),
    (0x03ed, 0x03ed), (0x03ef, 0x03ef), (0x03f3, 0x03f3), (0x03f6, 0x03f6), (0x03f8, 0x03f8),
    (0x03fb, 0x03fc), (0x0430, 0x045f), (0x0461, 0x0461), (0x0463, 0x0463), (0x0465, 0x0465),
    (0x0467, 0x0467), (0x0469, 0x0469), (0x046b, 0x046b), (0x046d, 0x046d), (0x046f, 0x046f),
    (0x0471, 0x0471), (0x0473, 0x0473), (0x0475, 0x0475), (0x0477, 0x0477), (0x0479, 0x0479),
    (0x047b, 0x047b), (0x047d, 0x047d), (0x047f, 0x047f), (0x0481, 0x0489), (0x048b, 0x048b),
    (0x048d, 0x048d), (0x048f, 0x048f), (0x0491, 0x0491), (0x0493, 0x0493), (0x0495, 0x0495),
    (0x0497, 0x0497), (0x0499, 0x0499), (0x049b, 0x049b), (0x049d, 0x049d), (0x049f, 0x049f),
    (0x04a1, 0x04a1), (0x04a3, 0x04a3), (0x04a5, 0x04a5), (0x04a7, 0x04a7), (0x04a9, 0x04a9),
    (0x04ab, 0x04ab), (0x04ad, 0x04ad), (0x04af, 0x04af), (0x04b1, 0x04b1), (0x04b3, 0x04b3),
    (0x04b5, 0x04b5), (0x04b7, 0x04b7), (0x04b9, 0x04b9), (0x04bb, 0x04bb), (0x04bd, 0x04bd),
    (0x04bf, 0x04bf), (0x04c2, 0x04c2), (0x04c4, 0x04c4), (0x04c6, 0x04c6), (0x04c8, 0x04c8),
    (0x04ca, 0x04ca), (0x04cc, 0x04cc), (0x04ce, 0x04cf), (0x04d1, 0x04d1), (0x04d3, 0x04d3),
    (0x04d5, 0x04d5), (0x04d7, 0x04d7), (0x04d9, 0x04d9), (0x04db, 0x04db), (0x04dd, 0x04dd),
    (0x04df, 0x04df), (0x04e1, 0x04e1), (0x04e3, 0x04e3), (0x04e5, 0x04e5), (0x04e7, 0x04e7),
    (0x04e9, 0x04e9), (0x04eb, 0x04eb), (0x04ed, 0x04ed), (0x04ef, 0x04ef), (0x04f1, 0x04f1),
    (0x04f3, 0x04f3), (0x04f5, 0x04f5), (0x04f7, 0x04f7), (0x04f9, 0x04f9), (0x04fb, 0x04fb),
    (0x04fd, 0x04fd), (0x04ff, 0x04ff), (0x0501, 0x0501), (0x0503, 0x0503), (0x0505, 0x0505),
    (0x0507, 0x0507), (0x0509, 0x0509), (0x050b, 0x050b), (0x050d, 0x050d), (0x050f, 0x050f),
    (0x0511, 0x0511), (0x0513, 0x0513), (0x0515, 0x0515), (0x0517, 0x0517), (0x0519, 0x0519),
    (0x051b, 0x051b), (0x051d, 0x051d), (0x051f, 0x051f), (0x0521, 0x0521), (0x0523, 0x0523),
    (0x0525, 0x0525), (0x0527, 0x0527), (0x0529, 0x0529), (0x052b, 0x052b), (0x052d, 0x052d),
    (0x052f, 0x0530), (0x0557, 0x0586), (0x0588, 0x0674), (0x0679, 0x06dc), (0x06de, 0x070e),
    (0x0710, 0x0957), (0x0960, 0x09db), (0x09de, 0x09de), (0x09e0, 0x0a32), (0x0a34, 0x0a35),
    (0x0a37, 0x0a58), (0x0a5c, 0x0a5d), (0x0a5f, 0x0b5b), (0x0b5e, 0x0e32), (0x0e34, 0x0eb2),
    (0x0eb4, 0x0edb), (0x0ede, 0x0f0b), (0x0f0d, 0x0f42), (0x0f44, 0x0f4c), (0x0f4e, 0x0f51),
    (0x0f53, 0x0f56), (0x0f58, 0x0f5b), (0x0f5d, 0x0f68), (0x0f6a, 0x0f72), (0x0f74, 0x0f74),
    (0x0f7a, 0x0f80), (0x0f82, 0x0f92), (0x0f94, 0x0f9c), (0x0f9e, 0x0fa1), (0x0fa3, 0x0fa6),
    (0x0fa8, 0x0fab), (0x0fad, 0x0fb8), (0x0fba, 0x109f), (0x10c6, 0x10c6), (0x10c8, 0x10cc),
    (0x10ce, 0x139f), (0x13f6, 0x167f), (0x1681, 0x1805), (0x1807, 0x180a), (0x180f, 0x1c8f),
    (0x1cbb, 0x1cbc), (0x1cc0, 0x1dff), (0x1e01, 0x1e01), (0x1e03, 0x1e03), (0x1e05, 0x1e05),
    (0x1e07, 0x1e07), (0x1e09, 0x1e09), (0x1e0b, 0x1e0b), (0x1e0d, 0x1e0d), (0x1e0f, 0x1e0f),
    (0x1e11, 0x1e11), (0x1e13, 0x1e13), (0x1e15, 0x1e15), (0x1e17, 0x1e17), (0x1e19, 0x1e19),
    (0x1e1b, 0x1e1b), (0x1e1d, 0x1e1d), (0x1e1f, 0x1e1f), (0x1e21, 0x1e21), (0x1e23, 0x1e23),
    (0x1e25, 0x1e25), (0x1e27, 0x1e27), (0x1e29, 0x1e29), (0x1e2b, 0x1e2b), (0x1e2d, 0x1e2d),
    (0x1e2f, 0x1e2f), (0x1e31, 0x1e31), (0x1e33, 0x1e33), (0x1e35, 0x1e35), (0x1e37, 0x1e37),
    (0x1e39, 0x1e39), (0x1e3b, 0x1e3b), (0x1e3d, 0x1e3d), (0x1e3f, 0x1e3f), (0x1e41, 0x1e41),
    (0x1e43, 0x1e43), (0x1e45, 0x1e45), (0x1e47, 0x1e47), (0x1e49, 0x1e49), (0x1e4b, 0x1e4b),
    (0x1e4d, 0x1e4d), (0x1e4f, 0x1e4f), (0x1e51, 0x1e51), (0x1e53, 0x1e53), (0x1e55, 0x1e55),
    (0x1e57, 0x1e57), (0x1e59, 0x1e59), (0x1e5b, 0x1e5b), (0x1e5d, 0x1e5d), (0x1e5f, 0x1e5f),
    (0x1e61, 0x1e61), (0x1e63, 0x1e63), (0x1e65, 0x1e65), (0x1e67, 0x1e67), (0x1e69, 0x1e69),
    (0x1e6b, 0x1e6b), (0x1e6d, 0x1e6d), (0x1e6f, 0x1e6f), (0x1e71, 0x1e71), (0x1e73, 0x1e73),
    (0x1e75, 0x1e75), (0x1e77, 0x1e77), (0x1e79, 0x1e79), (0x1e7b, 0x1e7b), (0x1e7d, 0x1e7d),
    (0x1e7f, 0x1e7f), (0x1e81, 0x1e81), (0x1e83, 0x1e83), (0x1e85, 0x1e85), (0x1e87, 0x1e87),
    (0x1e89, 0x1e89), (0x1e8b, 0x1e8b), (0x1e8d, 0x1e8d), (0x1e8f, 0x1e8f), (0x1e91, 0x1e91),
    (0x1e93, 0x1e93), (0x1e95, 0x1e99), (0x1e9c, 0x1e9d), (0x1e9f, 0x1e9f), (0x1ea1, 0x1ea1),
    (0x1ea3, 0x1ea3), (0x1ea5, 0x1ea5), (0x1ea7, 0x1ea7), (0x1ea9, 0x1ea9), (0x1eab, 0x1eab),
    (0x1ead, 0x1ead), (0x1eaf, 0x1eaf), (0x1eb1, 0x1eb1), (0x1eb3, 0x1eb3), (0x1eb5, 0x1eb5),
    (0x1eb7, 0x1eb7), (0x1eb9, 0x1eb9), (0x1ebb, 0x1ebb), (0x1ebd, 0x1ebd), (0x1ebf, 0x1ebf),
    (0x1ec1, 0x1ec1), (0x1ec3, 0x1ec3), (0x1ec5, 0x1ec5), (0x1ec7, 0x1ec7), (0x1ec9, 0x1ec9),
    (0x1ecb, 0x1ecb), (0x1ecd, 0x1ecd), (0x1ecf, 0x1ecf), (0x1ed1, 0x1ed1), (0x1ed3, 0x1ed3),
    (0x1ed5, 0x1ed5), (0x1ed7, 0x1ed7), (0x1ed9, 0x1ed9), (0x1edb, 0x1edb), (0x1edd, 0x1edd),
    (0x1edf, 0x1edf), (0x1ee1, 0x1ee1), (0x1ee3, 0x1ee3), (0x1ee5, 0x1ee5), (0x1ee7, 0x1ee7),
    (0x1ee9, 0x1ee9), (0x1eeb, 0x1eeb), (0x1eed, 0x1eed), (0x1eef, 0x1eef), (0x1ef1, 0x1ef1),
    (0x1ef3, 0x1ef3), (0x1ef5, 0x1ef5), (0x1ef7, 0x1ef7), (0x1ef9, 0x1ef9), (0x1efb, 0x1efb),
    (0x1efd, 0x1efd), (0x1eff, 0x1f07), (0x1f10, 0x1f17), (0x1f1e, 0x1f27), (0x1f30, 0x1f37),
    (0x1f40, 0x1f47), (0x1f4e, 0x1f58), (0x1f5a, 0x1f5a), (0x1f5c, 0x1f5c), (0x1f5e, 0x1f5e),
    (0x1f60, 0x1f67), (0x1f70, 0x1f70), (0x1f72, 0x1f72), (0x1f74, 0x1f74), (0x1f76, 0x1f76),
    (0x1f78, 0x1f78), (0x1f7a, 0x1f7a), (0x1f7c, 0x1f7c), (0x1f7e, 0x1f7f), (0x1fb0, 0x1fb1),
    (0x1fb5, 0x1fb6), (0x1fc5, 0x1fc6), (0x1fd0, 0x1fd2), (0x1fd4, 0x1fd7), (0x1fdc, 0x1fdc),
    (0x1fe0, 0x1fe2), (0x1fe4, 0x1fe7), (0x1ff0, 0x1ff1), (0x1ff5, 0x1ff6), (0x1fff, 0x1fff),
    (0x2010, 0x2010), (0x2012, 0x2016), (0x2018, 0x2023), (0x2027, 0x2027), (0x2030, 0x2032),
    (0x2035, 0x2035), (0x2038, 0x203b), (0x203d, 0x203d), (0x203f, 0x2046), (0x204a, 0x2056),
    (0x2058, 0x205e), (0x2064, 0x2069), (0x2072, 0x2073), (0x208f, 0x20a7), (0x20a9, 0x20ff),
    (0x2104, 0x2104), (0x2108, 0x2108), (0x2114, 0x2114), (0x2117, 0x2118), (0x211e, 0x211f),
    (0x2123, 0x2123), (0x2125, 0x2125), (0x2127, 0x2127), (0x2129, 0x2129), (0x212e, 0x212e),
    (0x213a, 0x213c), (0x2141, 0x2144), (0x214a, 0x2152), (0x2180, 0x2182), (0x2184, 0x222b),
    (0x222e, 0x222e), (0x2231, 0x2328), (0x232b, 0x245f), (0x24eb, 0x2a0b), (0x2a0d, 0x2a73),
    (0x2a77, 0x2adb), (0x2add, 0x2bff), (0x2c30, 0x2c5f), (0x2c61, 0x2c61), (0x2c65, 0x2c66),
    (0x2c68, 0x2c68), (0x2c6a, 0x2c6a), (0x2c6c, 0x2c6c), (0x2c71, 0x2c71), (0x2c73, 0x2c74),
    (0x2c76, 0x2c7d), (0x2c81, 0x2c81), (0x2c83, 0x2c83), (0x2c85, 0x2c85), (0x2c87, 0x2c87),
    (0x2c89, 0x2c89), (0x2c8b, 0x2c8b), (0x2c8d, 0x2c8d), (0x2c8f, 0x2c8f), (0x2c91, 0x2c91),
    (0x2c93, 0x2c93), (0x2c95, 0x2c95), (0x2c97, 0x2c97), (0x2c99, 0x2c99), (0x2c9b, 0x2c9b),
    (0x2c9d, 0x2c9d), (0x2c9f, 0x2c9f), (0x2ca1, 0x2ca1), (0x2ca3, 0x2ca3), (0x2ca5, 0x2ca5),
    (0x2ca7, 0x2ca7), (0x2ca9, 0x2ca9), (0x2cab, 0x2cab), (0x2cad, 0x2cad), (0x2caf, 0x2caf),
    (0x2cb1, 0x2cb1), (0x2cb3, 0x2cb3), (0x2cb5, 0x2cb5), (0x2cb7, 0x2cb7), (0x2cb9, 0x2cb9),
    (0x2cbb, 0x2cbb), (0x2cbd, 0x2cbd), (0x2cbf, 0x2cbf), (0x2cc1, 0x2cc1), (0x2cc3, 0x2cc3),
    (0x2cc5, 0x2cc5), (0x2cc7, 0x2cc7), (0x2cc9, 0x2cc9), (0x2ccb, 0x2ccb), (0x2ccd, 0x2ccd),
    (0x2ccf, 0x2ccf), (0x2cd1, 0x2cd1), (0x2cd3, 0x2cd3), (0x2cd5, 0x2cd5), (0x2cd7, 0x2cd7),
    (0x2cd9, 0x2cd9), (0x2cdb, 0x2cdb), (0x2cdd, 0x2cdd), (0x2cdf, 0x2cdf), (0x2ce1, 0x2ce1),
    (0x2ce3, 0x2cea), (0x2cec, 0x2cec), (0x2cee, 0x2cf1), (0x2cf3, 0x2e9e), (0x2ea0, 0x2ef2),
    (0x2ef4, 0x2eff), (0x2fd6, 0x2fef), (0x2ffc, 0x2fff), (0x3001, 0x3035), (0x3037, 0x3037),
    (0x303b, 0x309a), (0x309d, 0x309e), (0x30a0, 0x30fe), (0x3100, 0x3130), (0x318f, 0x3191),
    (0x31a0, 0x31ff), (0x321d, 0x321f), (0x3244, 0x3250), (0x327c, 0x327f), (0x32cc, 0x32cf),
    (0x32ff, 0x32ff), (0x3377, 0x337a), (0x33de, 0x33df), (0x33ff, 0xa63f), (0xa641, 0xa641),
    (0xa643, 0xa643), (0xa645, 0xa645), (0xa647, 0xa647), (0xa649, 0xa649), (0xa64b, 0xa64b),
    (0xa64d, 0xa64d), (0xa64f, 0xa64f), (0xa651, 0xa651), (0xa653, 0xa653), (0xa655, 0xa655),
    (0xa657, 0xa657), (0xa659, 0xa659), (0xa65b, 0xa65b), (0xa65d, 0xa65d), (0xa65f, 0xa65f),
    (0xa661, 0xa661), (0xa663, 0xa663), (0xa665, 0xa665), (0xa667, 0xa667), (0xa669, 0xa669),
    (0xa66b, 0xa66b), (0xa66d, 0xa67f), (0xa681, 0xa681), (0xa683, 0xa683), (0xa685, 0xa685),
    (0xa687, 0xa687), (0xa689, 0xa689), (0xa68b, 0xa68b), (0xa68d, 0xa68d), (0xa68f, 0xa68f),
    (0xa691, 0xa691), (0xa693, 0xa693), (0xa695, 0xa695), (0xa697, 0xa697), (0xa699, 0xa699),
    (0xa69b, 0xa721), (0xa723, 0xa723), (0xa725, 0xa725), (0xa727, 0xa727), (0xa729, 0xa729),
    (0xa72b, 0xa72b), (0xa72d, 0xa72d), (0xa72f, 0xa731), (0xa733, 0xa733), (0xa735, 0xa735),
    (0xa737, 0xa737), (0xa739, 0xa739), (0xa73b, 0xa73b), (0xa73d, 0xa73d), (0xa73f, 0xa73f),
    (0xa741, 0xa741), (0xa743, 0xa743), (0xa745, 0xa745), (0xa747, 0xa747), (0xa749, 0xa749),
    (0xa74b, 0xa74b), (0xa74d, 0xa74d), (0xa74f, 0xa74f), (0xa751, 0xa751), (0xa753, 0xa753),
    (0xa755, 0xa755), (0xa757, 0xa757), (0xa759, 0xa759), (0xa75b, 0xa75b), (0xa75d, 0xa75d),
    (0xa75f, 0xa75f), (0xa761, 0xa761), (0xa763, 0xa763), (0xa765, 0xa765), (0xa767, 0xa767),
    (0xa769, 0xa769), (0xa76b, 0xa76b), (0xa76d, 0xa76d), (0xa76f, 0xa778), (0xa77a, 0xa77a),
    (0xa77c, 0xa77c), (0xa77f, 0xa77f), (0xa781, 0xa781), (0xa783, 0xa783), (0xa785, 0xa785),
    (0xa787, 0xa78a), (0xa78c, 0xa78c), (0xa78e, 0xa78f), (0xa791, 0xa791), (0xa793, 0xa795),
    (0xa797, 0xa797), (0xa799, 0xa799), (0xa79b, 0xa79b), (0xa79d, 0xa79d), (0xa79f, 0xa79f),
    (0xa7a1, 0xa7a1), (0xa7a3, 0xa7a3), (0xa7a5, 0xa7a5), (0xa7a7, 0xa7a7), (0xa7a9, 0xa7a9),
    (0xa7af, 0xa7af), (0xa7b5, 0xa7b5), (0xa7b7, 0xa7b7), (0xa7b9, 0xa7b9), (0xa7bb, 0xa7bb),
    (0xa7bd, 0xa7bd), (0xa7bf, 0xa7bf), (0xa7c1, 0xa7c1), (0xa7c3, 0xa7c3), (0xa7c8, 0xa7c8),
    (0xa7ca, 0xa7cf), (0xa7d1, 0xa7d5), (0xa7d7, 0xa7d7), (0xa7d9, 0xa7f4), (0xa7f6, 0xd7ff),
    (0xfa0e, 0xfa0f), (0xfa11, 0xfa11), (0xfa13, 0xfa14), (0xfa1f, 0xfa1f), (0xfa21, 0xfa21),
    (0xfa23, 0xfa24), (0xfa27, 0xfa29), (0xfa2e, 0xfa2f), (0xfa6b, 0xfaff), (0xfb07, 0xfb12),
    (0xfb18, 0xfb1c), (0xfb1e, 0xfb1e), (0xfb37, 0xfb37), (0xfb3d, 0xfb3d), (0xfb3f, 0xfb3f),
    (0xfb42, 0xfb42), (0xfb45, 0xfb45), (0xfbb2, 0xfbd2), (0xfd3e, 0xfd4f), (0xfd90, 0xfd91),
    (0xfdc8, 0xfdcf), (0xfdfd, 0xfdff), (0xfe10, 0xfe2f), (0xfe45, 0xfe48), (0xfe53, 0xfe53),
    (0xfe67, 0xfe67), (0xfe6c, 0xfe6f), (0xfe73, 0xfe73), (0xfe75, 0xfe75), (0xfefd, 0xfefe),
    (0xff00, 0xff00), (0xffbf, 0xffc1), (0xffc8, 0xffc9), (0xffd0, 0xffd1), (0xffd8, 0xffd9),
    (0xffdd, 0xffdf), (0xffe7, 0xffe7), (0xffef, 0xfff8), (0x10000, 0x103ff), (0x10428, 0x104af),
    (0x104d4, 0x1056f), (0x1057b, 0x1057b), (0x1058b, 0x1058b), (0x10593, 0x10593),
    (0x10596, 0x10c7f), (0x10cb3, 0x1189f), (0x118c0, 0x16e3f), (0x16e60, 0x1d15d),
    (0x1d165, 0x1d172), (0x1d17b, 0x1d1ba), (0x1d1c1, 0x1d3ff), (0x1d455, 0x1d455),
    (0x1d49d, 0x1d49d), (0x1d4a0, 0x1d4a1), (0x1d4a3, 0x1d4a4), (0x1d4a7, 0x1d4a8),
    (0x1d4ad, 0x1d4ad), (0x1d4ba, 0x1d4ba), (0x1d4bc, 0x1d4bc), (0x1d4c1, 0x1d4c1),
    (0x1d4c4, 0x1d4c4), (0x1d506, 0x1d506), (0x1d50b, 0x1d50c), (0x1d515, 0x1d515),
    (0x1d51d, 0x1d51d), (0x1d53a, 0x1d53a), (0x1d53f, 0x1d53f), (0x1d545, 0x1d545),
    (0x1d547, 0x1d549), (0x1d551, 0x1d551), (0x1d6a4, 0x1d6a7), (0x1d7ca, 0x1d7cd),
    (0x1d800, 0x1e8ff), (0x1e922, 0x1fffd), (0x20000, 0x2f7ff), (0x2fa1e, 0x2fffd),
    (0x30000, 0x3fffd), (0x40000, 0x4fffd), (0x50000, 0x5fffd), (0x60000, 0x6fffd),
    (0x70000, 0x7fffd), (0x80000, 0x8fffd), (0x90000, 0x9fffd), (0xa0000, 0xafffd),
    (0xb0000, 0xbfffd), (0xc0000, 0xcfffd), (0xd0000, 0xdfffd), (0xe0000, 0xe0000),
    (0xe0002, 0xe001f), (0xe0080, 0xefffd)]

/-- The ranges of the code points in labels that are written from right to left. -/
def rightToLeftRanges : Ranges :=
  [(0x05be, 0x05be), (0x05c0, 0x05c0), (0x05c3, 0x05c3), (0x05d0, 0x05ea), (0x05f0, 0x05f4),
    (0x061b, 0x061b), (0x061f, 0x061f), (0x0621, 0x063a), (0x0640, 0x064a), (0x066d, 0x066f),
    (0x0671, 0x06d5), (0x06e5, 0x06e6), (0x06fa, 0x06fe), (0x0700, 0x070d), (0x0710, 0x0710),
    (0x0712, 0x072c), (0x0780, 0x07a5), (0x07b1, 0x07b1), (0xfe73, 0xfe73)]

/-- The ranges of the code points in labels that are written from left to right. -/
def leftToRightRanges : Ranges :=
  [(0x0061, 0x007a), (0x00e0, 0x00f6), (0x00f8, 0x021f), (0x0223, 0x0233), (0x0250, 0x02ad),
    (0x02bb, 0x02c1), (0x02d0, 0x02d1), (0x02ee, 0x02ee), (0x0390, 0x0390), (0x03ac, 0x03f3),
    (0x0430, 0x0482), (0x048b, 0x04ce), (0x04d1, 0x04f5), (0x04f9, 0x04f9), (0x0501, 0x050f),
    (0x0559, 0x055f), (0x0561, 0x0586), (0x0589, 0x0589), (0x0903, 0x0903), (0x0905, 0x0939),
    (0x093d, 0x0940), (0x0949, 0x094c), (0x0950, 0x0950), (0x0960, 0x0961), (0x0964, 0x0970),
    (0x0982, 0x0983), (0x0985, 0x098c), (0x098f, 0x0990), (0x0993, 0x09a8), (0x09aa, 0x09b0),
    (0x09b2, 0x09b2), (0x09b6, 0x09b9), (0x09be, 0x09c0), (0x09c7, 0x09c8), (0x09cb, 0x09cc),
    (0x09d7, 0x09d7), (0x09e0, 0x09e1), (0x09e6, 0x09f1), (0x09f4, 0x09fa), (0x0a05, 0x0a0a),
    (0x0a0f, 0x0a10), (0x0a13, 0x0a28), (0x0a2a, 0x0a30), (0x0a32, 0x0a32), (0x0a35, 0x0a35),
    (0x0a38, 0x0a39), (0x0a3e, 0x0a40), (0x0a5c, 0x0a5c), (0x0a66, 0x0a6f), (0x0a72, 0x0a74),
    (0x0a83, 0x0a83), (0x0a85, 0x0a8b), (0x0a8d, 0x0a8d), (0x0a8f, 0x0a91), (0x0a93, 0x0aa8),
    (0x0aaa, 0x0ab0), (0x0ab2, 0x0ab3), (0x0ab5, 0x0ab9), (0x0abd, 0x0ac0), (0x0ac9, 0x0ac9),
    (0x0acb, 0x0acc), (0x0ad0, 0x0ad0), (0x0ae0, 0x0ae0), (0x0ae6, 0x0aef), (0x0b02, 0x0b03),
    (0x0b05, 0x0b0c), (0x0b0f, 0x0b10), (0x0b13, 0x0b28), (0x0b2a, 0x0b30), (0x0b32, 0x0b33),
    (0x0b36, 0x0b39), (0x0b3d, 0x0b3e), (0x0b40, 0x0b40), (0x0b47, 0x0b48), (0x0b4b, 0x0b4c),
    (0x0b57, 0x0b57), (0x0b5f, 0x0b61), (0x0b66, 0x0b70), (0x0b83, 0x0b83), (0x0b85, 0x0b8a),
    (0x0b8e, 0x0b90), (0x0b92, 0x0b95), (0x0b99, 0x0b9a), (0x0b9c, 0x0b9c), (0x0b9e, 0x0b9f),
    (0x0ba3, 0x0ba4), (0x0ba8, 0x0baa), (0x0bae, 0x0bb5), (0x0bb7, 0x0bb9), (0x0bbe, 0x0bbf),
    (0x0bc1, 0x0bc2), (0x0bc6, 0x0bc8), (0x0bca, 0x0bcc), (0x0bd7, 0x0bd7), (0x0be7, 0x0bf2),
    (0x0c01, 0x0c03), (0x0c05, 0x0c0c), (0x0c0e, 0x0c10), (0x0c12, 0x0c28), (0x0c2a, 0x0c33),
    (0x0c35, 0x0c39), (0x0c41, 0x0c44), (0x0c60, 0x0c61), (0x0c66, 0x0c6f), (0x0c82, 0x0c83),
    (0x0c85, 0x0c8c), (0x0c8e, 0x0c90), (0x0c92, 0x0ca8), (0x0caa, 0x0cb3), (0x0cb5, 0x0cb9),
    (0x0cbe, 0x0cbe), (0x0cc0, 0x0cc4), (0x0cc7, 0x0cc8), (0x0cca, 0x0ccb), (0x0cd5, 0x0cd6),
    (0x0cde, 0x0cde), (0x0ce0, 0x0ce1), (0x0ce6, 0x0cef), (0x0d02, 0x0d03), (0x0d05, 0x0d0c),
    (0x0d0e, 0x0d10), (0x0d12, 0x0d28), (0x0d2a, 0x0d39), (0x0d3e, 0x0d40), (0x0d46, 0x0d48),
    (0x0d4a, 0x0d4c), (0x0d57, 0x0d57), (0x0d60, 0x0d61), (0x0d66, 0x0d6f), (0x0d82, 0x0d83),
    (0x0d85, 0x0d96), (0x0d9a, 0x0db1), (0x0db3, 0x0dbb), (0x0dbd, 0x0dbd), (0x0dc0, 0x0dc6),
    (0x0dcf, 0x0dd1), (0x0dd8, 0x0ddf), (0x0df2, 0x0df4), (0x0e01, 0x0e30), (0x0e32, 0x0e32),
    (0x0e40, 0x0e46), (0x0e4f, 0x0e5b), (0x0e81, 0x0e82), (0x0e84, 0x0e84), (0x0e87, 0x0e88),
    (0x0e8a, 0x0e8a), (0x0e8d, 0x0e8d), (0x0e94, 0x0e97), (0x0e99, 0x0e9f), (0x0ea1, 0x0ea3),
    (0x0ea5, 0x0ea5), (0x0ea7, 0x0ea7), (0x0eaa, 0x0eab), (0x0ead, 0x0eb0), (0x0eb2, 0x0eb2),
    (0x0ebd, 0x0ebd), (0x0ec0, 0x0ec4), (0x0ec6, 0x0ec6), (0x0ed0, 0x0ed9), (0x0f00, 0x0f17),
    (0x0f1a, 0x0f34), (0x0f36, 0x0f36), (0x0f38, 0x0f38), (0x0f3e, 0x0f47), (0x0f49, 0x0f6a),
    (0x0f7f, 0x0f7f), (0x0f85, 0x0f85), (0x0f88, 0x0f8b), (0x0fbe, 0x0fc5), (0x0fc7, 0x0fcc),
    (0x0fcf, 0x0fcf), (0x1000, 0x1021), (0x1023, 0x1027), (0x1029, 0x102a), (0x102c, 0x102c),
    (0x1031, 0x1031), (0x1038, 0x1038), (0x1040, 0x1057), (0x10d0, 0x10f8), (0x10fb, 0x10fb),
    (0x1100, 0x1159), (0x115f, 0x11a2), (0x11a8, 0x11f9), (0x1200, 0x1206), (0x1208, 0x1246),
    (0x1248, 0x1248), (0x124a, 0x124d), (0x1250, 0x1256), (0x1258, 0x1258), (0x125a, 0x125d),
    (0x1260, 0x1286), (0x1288, 0x1288), (0x128a, 0x128d), (0x1290, 0x12ae), (0x12b0, 0x12b0),
    (0x12b2, 0x12b5), (0x12b8, 0x12be), (0x12c0, 0x12c0), (0x12c2, 0x12c5), (0x12c8, 0x12ce),
    (0x12d0, 0x12d6), (0x12d8, 0x12ee), (0x12f0, 0x130e), (0x1310, 0x1310), (0x1312, 0x1315),
    (0x1318, 0x131e), (0x1320, 0x1346), (0x1348, 0x135a), (0x1361, 0x137c), (0x1401, 0x1676),
    (0x1681, 0x169a), (0x16a0, 0x16f0), (0x1700, 0x170c), (0x170e, 0x1711), (0x1720, 0x1731),
    (0x1735, 0x1736), (0x1740, 0x1751), (0x1760, 0x176c), (0x176e, 0x1770), (0x1780, 0x17b6),
    (0x17be, 0x17c5), (0x17c7, 0x17c8), (0x17d4, 0x17da), (0x17dc, 0x17dc), (0x17e0, 0x17e9),
    (0x1810, 0x1819), (0x1820, 0x1877), (0x1880, 0x18a8), (0x1e01, 0x1e99), (0x1ea1, 0x1ef9),
    (0x1f00, 0x1f15), (0x1f20, 0x1f45), (0x1f50, 0x1f57), (0x1f60, 0x1f7c), (0x1fb0, 0x1fb1),
    (0x1fb6, 0x1fb6), (0x1fc6, 0x1fd2), (0x1fd6, 0x1fd7), (0x1fe0, 0x1fe7), (0x1ff6, 0x1ff6),
    (0x2180, 0x2182), (0x2336, 0x237a), (0x2395, 0x2395), (0x3005, 0x3007), (0x3021, 0x3029),
    (0x3031, 0x3035), (0x303b, 0x303c), (0x3041, 0x3096), (0x309d, 0x309e), (0x30a1, 0x30fa),
    (0x30fc, 0x30fe), (0x3105, 0x312c), (0x3190, 0x31b7), (0x31f0, 0x31ff), (0x327f, 0x327f),
    (0x3400, 0x4db5), (0x4e00, 0x9fa5), (0xa000, 0xa48c), (0xac00, 0xd7a3), (0xfa0e, 0xfa29),
    (0x10300, 0x1031e), (0x10320, 0x10323), (0x10330, 0x1034a), (0x10428, 0x1044d),
    (0x1d000, 0x1d0f5), (0x1d100, 0x1d126), (0x1d12a, 0x1d166), (0x1d16a, 0x1d172),
    (0x1d183, 0x1d184), (0x1d18c, 0x1d1a9), (0x1d1ae, 0x1d1dd), (0x20000, 0x2a6d6)]

/-- Whether a code point beyond ASCII stays as it is when a label is prepared. -/
def staysInLabel (n : Nat) : Bool :=
  labelRanges.has n

/-- Whether a code point in a label is written from right to left. -/
def isRightToLeft (n : Nat) : Bool :=
  rightToLeftRanges.has n

/-- Whether a code point in a label is written from left to right. -/
def isLeftToRight (n : Nat) : Bool :=
  leftToRightRanges.has n

end Text

end Attest
