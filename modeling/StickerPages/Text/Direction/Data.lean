/-!
# Directions of writing: the character data

The strong classes L, R and AL of the Unicode character database, as closed ranges in rising order.
The ranges run on over characters without a visible shape; the few of those that have a direction of
their own are listed apart.
-/

namespace StickerPages.Text

/-- The part of `fromLeft` from 0x41 to 0x1a55. -/
def fromLeftPartA : List (Nat × Nat) :=
  [(0x41, 0x5a), (0x61, 0x7a), (0xaa, 0xaa), (0xb5, 0xb5), (0xba, 0xba), (0xc0, 0xd6), (0xd8, 0xf6), (0xf8, 0x2b8),
   (0x2bb, 0x2c1), (0x2d0, 0x2d1), (0x2e0, 0x2e4), (0x2ee, 0x2ee), (0x370, 0x373), (0x376, 0x37d), (0x37f, 0x37f), (0x386, 0x386),
   (0x388, 0x3f5), (0x3f7, 0x482), (0x48a, 0x589), (0x903, 0x939), (0x93b, 0x93b), (0x93d, 0x940), (0x949, 0x94c), (0x94e, 0x950),
   (0x958, 0x961), (0x964, 0x980), (0x982, 0x9b9), (0x9bd, 0x9c0), (0x9c7, 0x9cc), (0x9ce, 0x9e1), (0x9e6, 0x9f1), (0x9f4, 0x9fa),
   (0x9fc, 0x9fd), (0xa03, 0xa39), (0xa3e, 0xa40), (0xa59, 0xa6f), (0xa72, 0xa74), (0xa76, 0xa76), (0xa83, 0xab9), (0xabd, 0xac0),
   (0xac9, 0xacc), (0xad0, 0xae1), (0xae6, 0xaf0), (0xaf9, 0xaf9), (0xb02, 0xb39), (0xb3d, 0xb3e), (0xb40, 0xb40), (0xb47, 0xb4c),
   (0xb57, 0xb61), (0xb66, 0xb77), (0xb83, 0xbbf), (0xbc1, 0xbcc), (0xbd0, 0xbf2), (0xc01, 0xc03), (0xc05, 0xc39), (0xc3d, 0xc3d),
   (0xc41, 0xc44), (0xc58, 0xc61), (0xc66, 0xc77), (0xc7f, 0xc80), (0xc82, 0xcb9), (0xcbd, 0xccb), (0xcd5, 0xce1), (0xce6, 0xcf2),
   (0xd02, 0xd3a), (0xd3d, 0xd40), (0xd46, 0xd4c), (0xd4e, 0xd61), (0xd66, 0xd7f), (0xd82, 0xdc6), (0xdcf, 0xdd1), (0xdd8, 0xe30),
   (0xe32, 0xe33), (0xe40, 0xe46), (0xe4f, 0xeb0), (0xeb2, 0xeb3), (0xebd, 0xec6), (0xed0, 0xf17), (0xf1a, 0xf34), (0xf36, 0xf36),
   (0xf38, 0xf38), (0xf3e, 0xf6c), (0xf7f, 0xf7f), (0xf85, 0xf85), (0xf88, 0xf8c), (0xfbe, 0xfc5), (0xfc7, 0x102c), (0x1031, 0x1031),
   (0x1038, 0x1038), (0x103b, 0x103c), (0x103f, 0x1057), (0x105a, 0x105d), (0x1061, 0x1070), (0x1075, 0x1081), (0x1083, 0x1084), (0x1087, 0x108c),
   (0x108e, 0x109c), (0x109e, 0x135a), (0x1360, 0x138f), (0x13a0, 0x13fd), (0x1401, 0x169a), (0x16a0, 0x1711), (0x1715, 0x1731), (0x1734, 0x1751),
   (0x1760, 0x1770), (0x1780, 0x17b3), (0x17b6, 0x17b6), (0x17be, 0x17c5), (0x17c7, 0x17c8), (0x17d4, 0x17da), (0x17dc, 0x17dc), (0x17e0, 0x17e9),
   (0x1810, 0x1884), (0x1887, 0x18a8), (0x18aa, 0x191e), (0x1923, 0x1926), (0x1929, 0x1931), (0x1933, 0x1938), (0x1946, 0x19da), (0x1a00, 0x1a16),
   (0x1a19, 0x1a1a), (0x1a1e, 0x1a55)]

/-- The part of `fromLeft` from 0x1a57 to 0xff5a. -/
def fromLeftPartB : List (Nat × Nat) :=
  [(0x1a57, 0x1a57), (0x1a61, 0x1a61), (0x1a63, 0x1a64), (0x1a6d, 0x1a72), (0x1a80, 0x1aad), (0x1b04, 0x1b33), (0x1b35, 0x1b35), (0x1b3b, 0x1b3b),
   (0x1b3d, 0x1b41), (0x1b43, 0x1b6a), (0x1b74, 0x1b7e), (0x1b82, 0x1ba1), (0x1ba6, 0x1ba7), (0x1baa, 0x1baa), (0x1bae, 0x1be5), (0x1be7, 0x1be7),
   (0x1bea, 0x1bec), (0x1bee, 0x1bee), (0x1bf2, 0x1c2b), (0x1c34, 0x1c35), (0x1c3b, 0x1cc7), (0x1cd3, 0x1cd3), (0x1ce1, 0x1ce1), (0x1ce9, 0x1cec),
   (0x1cee, 0x1cf3), (0x1cf5, 0x1cf7), (0x1cfa, 0x1dbf), (0x1e00, 0x1fbc), (0x1fbe, 0x1fbe), (0x1fc2, 0x1fcc), (0x1fd0, 0x1fdb), (0x1fe0, 0x1fec),
   (0x1ff2, 0x1ffc), (0x2071, 0x2071), (0x207f, 0x207f), (0x2090, 0x209c), (0x2102, 0x2102), (0x2107, 0x2107), (0x210a, 0x2113), (0x2115, 0x2115),
   (0x2119, 0x211d), (0x2124, 0x2124), (0x2126, 0x2126), (0x2128, 0x2128), (0x212a, 0x212d), (0x212f, 0x2139), (0x213c, 0x213f), (0x2145, 0x2149),
   (0x214e, 0x214f), (0x2160, 0x2188), (0x2336, 0x237a), (0x2395, 0x2395), (0x249c, 0x24e9), (0x26ac, 0x26ac), (0x2800, 0x28ff), (0x2c00, 0x2ce4),
   (0x2ceb, 0x2cee), (0x2cf2, 0x2cf3), (0x2d00, 0x2d70), (0x2d80, 0x2dde), (0x3005, 0x3007), (0x3021, 0x3029), (0x302e, 0x302f), (0x3031, 0x3035),
   (0x3038, 0x303c), (0x3041, 0x3096), (0x309d, 0x309f), (0x30a1, 0x30fa), (0x30fc, 0x31bf), (0x31f0, 0x321c), (0x3220, 0x324f), (0x3260, 0x327b),
   (0x327f, 0x32b0), (0x32c0, 0x32cb), (0x32d0, 0x3376), (0x337b, 0x33dd), (0x33e0, 0x33fe), (0x3400, 0x4dbf), (0x4e00, 0xa48c), (0xa4d0, 0xa60c),
   (0xa610, 0xa66e), (0xa680, 0xa69d), (0xa6a0, 0xa6ef), (0xa6f2, 0xa6f7), (0xa722, 0xa787), (0xa789, 0xa801), (0xa803, 0xa805), (0xa807, 0xa80a),
   (0xa80c, 0xa824), (0xa827, 0xa827), (0xa830, 0xa837), (0xa840, 0xa873), (0xa880, 0xa8c3), (0xa8ce, 0xa8d9), (0xa8f2, 0xa8fe), (0xa900, 0xa925),
   (0xa92e, 0xa946), (0xa952, 0xa97c), (0xa983, 0xa9b2), (0xa9b4, 0xa9b5), (0xa9ba, 0xa9bb), (0xa9be, 0xa9e4), (0xa9e6, 0xaa28), (0xaa2f, 0xaa30),
   (0xaa33, 0xaa34), (0xaa40, 0xaa42), (0xaa44, 0xaa4b), (0xaa4d, 0xaa7b), (0xaa7d, 0xaaaf), (0xaab1, 0xaab1), (0xaab5, 0xaab6), (0xaab9, 0xaabd),
   (0xaac0, 0xaac0), (0xaac2, 0xaaeb), (0xaaee, 0xaaf5), (0xab01, 0xab69), (0xab70, 0xabe4), (0xabe6, 0xabe7), (0xabe9, 0xabec), (0xabf0, 0xfb17),
   (0xff21, 0xff3a), (0xff41, 0xff5a)]

/-- The part of `fromLeft` from 0xff66 to 0x3134a. -/
def fromLeftPartC : List (Nat × Nat) :=
  [(0xff66, 0xffdc), (0x10000, 0x10100), (0x10102, 0x1013f), (0x1018d, 0x1018e), (0x101d0, 0x101fc), (0x10280, 0x102d0), (0x10300, 0x10375), (0x10380, 0x107ba),
   (0x11000, 0x11000), (0x11002, 0x11037), (0x11047, 0x1104d), (0x11066, 0x1106f), (0x11071, 0x11072), (0x11075, 0x11075), (0x11082, 0x110b2), (0x110b7, 0x110b8),
   (0x110bb, 0x110c1), (0x110d0, 0x110f9), (0x11103, 0x11126), (0x1112c, 0x1112c), (0x11136, 0x11172), (0x11174, 0x11176), (0x11182, 0x111b5), (0x111bf, 0x111c8),
   (0x111cd, 0x111ce), (0x111d0, 0x1122e), (0x11232, 0x11233), (0x11235, 0x11235), (0x11238, 0x1123d), (0x11280, 0x112de), (0x112e0, 0x112e2), (0x112f0, 0x112f9),
   (0x11302, 0x11339), (0x1133d, 0x1133f), (0x11341, 0x11363), (0x11400, 0x11437), (0x11440, 0x11441), (0x11445, 0x11445), (0x11447, 0x1145d), (0x1145f, 0x114b2),
   (0x114b9, 0x114b9), (0x114bb, 0x114be), (0x114c1, 0x114c1), (0x114c4, 0x115b1), (0x115b8, 0x115bb), (0x115be, 0x115be), (0x115c1, 0x115db), (0x11600, 0x11632),
   (0x1163b, 0x1163c), (0x1163e, 0x1163e), (0x11641, 0x11659), (0x11680, 0x116aa), (0x116ac, 0x116ac), (0x116ae, 0x116af), (0x116b6, 0x116b6), (0x116b8, 0x1171a),
   (0x11720, 0x11721), (0x11726, 0x11726), (0x11730, 0x1182e), (0x11838, 0x11838), (0x1183b, 0x11938), (0x1193d, 0x1193d), (0x1193f, 0x11942), (0x11944, 0x119d3),
   (0x119dc, 0x119df), (0x119e1, 0x11a00), (0x11a07, 0x11a08), (0x11a0b, 0x11a32), (0x11a39, 0x11a3a), (0x11a3f, 0x11a46), (0x11a50, 0x11a50), (0x11a57, 0x11a58),
   (0x11a5c, 0x11a89), (0x11a97, 0x11a97), (0x11a9a, 0x11c2f), (0x11c3e, 0x11c8f), (0x11ca9, 0x11ca9), (0x11cb1, 0x11cb1), (0x11cb4, 0x11cb4), (0x11d00, 0x11d30),
   (0x11d46, 0x11d46), (0x11d50, 0x11d8e), (0x11d93, 0x11d94), (0x11d96, 0x11d96), (0x11d98, 0x11ef2), (0x11ef5, 0x11fd4), (0x11fff, 0x16aed), (0x16af5, 0x16b2f),
   (0x16b37, 0x16f4a), (0x16f50, 0x16f87), (0x16f93, 0x16fe1), (0x16fe3, 0x16fe3), (0x16ff0, 0x1bc9c), (0x1bc9f, 0x1bc9f), (0x1cf50, 0x1d166), (0x1d16a, 0x1d172),
   (0x1d183, 0x1d184), (0x1d18c, 0x1d1a9), (0x1d1ae, 0x1d1e8), (0x1d2e0, 0x1d2f3), (0x1d360, 0x1d6da), (0x1d6dc, 0x1d714), (0x1d716, 0x1d74e), (0x1d750, 0x1d788),
   (0x1d78a, 0x1d7c2), (0x1d7c4, 0x1d7cb), (0x1d800, 0x1d9ff), (0x1da37, 0x1da3a), (0x1da6d, 0x1da74), (0x1da76, 0x1da83), (0x1da85, 0x1da8b), (0x1df00, 0x1df1e),
   (0x1e100, 0x1e12c), (0x1e137, 0x1e2ad), (0x1e2c0, 0x1e2eb), (0x1e2f0, 0x1e2f9), (0x1e7e0, 0x1e7fe), (0x1f110, 0x1f12e), (0x1f130, 0x1f169), (0x1f170, 0x1f1ac),
   (0x1f1e6, 0x1f251), (0x20000, 0x3134a)]

/-- Characters of scripts that run from left to right. -/
def fromLeft : List (Nat × Nat) :=
  fromLeftPartA ++ fromLeftPartB ++ fromLeftPartC

/-- Characters of scripts that run from right to left. -/
def fromRight : List (Nat × Nat) :=
  [(0x5be, 0x5be), (0x5c0, 0x5c0), (0x5c3, 0x5c3), (0x5c6, 0x5c6), (0x5d0, 0x5f4), (0x608, 0x608), (0x60b, 0x60b), (0x60d, 0x60d),
   (0x61b, 0x64a), (0x66d, 0x66f), (0x671, 0x6d5), (0x6e5, 0x6e6), (0x6ee, 0x6ef), (0x6fa, 0x710), (0x712, 0x72f), (0x74d, 0x7a5),
   (0x7b1, 0x7ea), (0x7f4, 0x7f5), (0x7fa, 0x7fa), (0x7fe, 0x815), (0x81a, 0x81a), (0x824, 0x824), (0x828, 0x828), (0x830, 0x858),
   (0x85e, 0x88e), (0x8a0, 0x8c9), (0xfb1d, 0xfb1d), (0xfb1f, 0xfb28), (0xfb2a, 0xfd3d), (0xfd50, 0xfdc7), (0xfdf0, 0xfdfc), (0xfe70, 0xfefc),
   (0x10800, 0x1091b), (0x10920, 0x10a00), (0x10a10, 0x10a35), (0x10a40, 0x10ae4), (0x10aeb, 0x10b35), (0x10b40, 0x10d23), (0x10e80, 0x10ea9), (0x10ead, 0x10f45),
   (0x10f51, 0x10f81), (0x10f86, 0x10ff6), (0x1e800, 0x1e8cf), (0x1e900, 0x1e943), (0x1e94b, 0x1eebb)]

/-- Characters without a visible shape that set the direction from left to right: a mark, the areas for
private use, and joiners of scripts that run so. -/
def shapelessFromLeft : List (Nat × Nat) :=
  [(0x200e, 0x200e), (0xe000, 0xf8ff), (0x110bd, 0x110bd), (0x110cd, 0x110cd), (0x13430, 0x13438), (0xf0000, 0xffffd), (0x100000, 0x10fffd)]

/-- Characters without a visible shape that set the direction from right to left. -/
def shapelessFromRight : List (Nat × Nat) :=
  [(0x61c, 0x61c), (0x70f, 0x70f), (0x200f, 0x200f)]

end StickerPages.Text
