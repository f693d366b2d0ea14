import StreamPipelines.Text.Printable

/-!
Characters in plain form. A character is plain when it prints, is the same after its case is
folded and its compatibility variants are resolved, and is not barred from names: so capitals,
letters of another width or style, ligatures, and characters that describe others are not plain.
-/

namespace StreamPipelines
namespace Text

/-- Ranges of characters outside ASCII that print without being plain. -/
def foldedRanges : List (Nat × Nat) :=
  [(0xa8, 0xa8), (0xaa, 0xaa), (0xaf, 0xaf), (0xb2, 0xb5), (0xb8, 0xba), (0xbc, 0xbe), (0xc0, 0xd6),
   (0xd8, 0xde), (0x132, 0x134), (0x136, 0x136), (0x13f, 0x141), (0x149, 0x14a), (0x178, 0x179),
   (0x181, 0x182), (0x184, 0x184), (0x186, 0x187), (0x189, 0x18b), (0x18e, 0x191), (0x193, 0x194),
   (0x196, 0x198), (0x19c, 0x19d), (0x19f, 0x1a0), (0x1a2, 0x1a2), (0x1a4, 0x1a4), (0x1a6, 0x1a7),
   (0x1a9, 0x1a9), (0x1ac, 0x1ac), (0x1ae, 0x1af), (0x1b1, 0x1b3), (0x1b5, 0x1b5), (0x1b7, 0x1b8),
   (0x1bc, 0x1bc), (0x1c4, 0x1cd), (0x1f1, 0x1f4), (0x1f6, 0x1f8), (0x23a, 0x23b), (0x23d, 0x23e),
   (0x241, 0x241), (0x243, 0x246), (0x2b0, 0x2b8), (0x2d8, 0x2dd), (0x2e0, 0x2e4), (0x340, 0x341),
   (0x343, 0x345), (0x34f, 0x34f), (0x37a, 0x37a), (0x37e, 0x38f), (0x391, 0x3ab), (0x3cf, 0x3d6),
   (0x3f0, 0x3f2), (0x3f4, 0x3f5), (0x3f7, 0x3f7), (0x3f9, 0x3fa), (0x3fd, 0x42f), (0x4c0, 0x4c1),
   (0x531, 0x556), (0x587, 0x587), (0x675, 0x678), (0x958, 0x95f), (0x9dc, 0x9df), (0xa33, 0xa33),
   (0xa36, 0xa36), (0xa59, 0xa5b), (0xa5e, 0xa5e), (0xb5c, 0xb5d), (0xe33, 0xe33), (0xeb3, 0xeb3),
   (0xedc, 0xedd), (0xf0c, 0xf0c), (0xf43, 0xf43), (0xf4d, 0xf4d), (0xf52, 0xf52), (0xf57, 0xf57),
   (0xf5c, 0xf5c), (0xf69, 0xf69), (0xf73, 0xf73), (0xf75, 0xf79), (0xf81, 0xf81), (0xf93, 0xf93),
   (0xf9d, 0xf9d), (0xfa2, 0xfa2), (0xfa7, 0xfa7), (0xfac, 0xfac), (0xfb9, 0xfb9), (0x10a0, 0x10cd),
   (0x10fc, 0x10fc), (0x13f8, 0x13fd), (0x17b4, 0x17b5), (0x180b, 0x180f), (0x1c80, 0x1c89),
   (0x1c90, 0x1cbf), (0x1d2c, 0x1d2e), (0x1d30, 0x1d3a), (0x1d3c, 0x1d4d), (0x1d4f, 0x1d6a),
   (0x1d78, 0x1d78), (0x1d9b, 0x1dbf), (0x1e9a, 0x1e9b), (0x1f08, 0x1f0f), (0x1f18, 0x1f1d),
   (0x1f28, 0x1f2f), (0x1f38, 0x1f3f), (0x1f48, 0x1f4d), (0x1f59, 0x1f5f), (0x1f68, 0x1f6f),
   (0x1f7d, 0x1faf), (0x1fb2, 0x1fb4), (0x1fb7, 0x1fc4), (0x1fc7, 0x1fcf), (0x1fd3, 0x1fd3),
   (0x1fd8, 0x1fdf), (0x1fe3, 0x1fe3), (0x1fe8, 0x1ff4), (0x1ff7, 0x1ffe), (0x2011, 0x2011),
   (0x2017, 0x2017), (0x2024, 0x2026), (0x2033, 0x2034), (0x2036, 0x2037), (0x203c, 0x203c),
   (0x203e, 0x203e), (0x2047, 0x2049), (0x2057, 0x2057), (0x2070, 0x209c), (0x20a8, 0x20a8),
   (0x2100, 0x2103), (0x2105, 0x2107), (0x2109, 0x2113), (0x2115, 0x2116), (0x2119, 0x211d),
   (0x2120, 0x2122), (0x212a, 0x212d), (0x212f, 0x2139), (0x213b, 0x2140), (0x2145, 0x2149),
   (0x2150, 0x217f), (0x2183, 0x2183), (0x2189, 0x2189), (0x222c, 0x222d), (0x222f, 0x2230),
   (0x2329, 0x232a), (0x2460, 0x24ea), (0x2a0c, 0x2a0c), (0x2a74, 0x2a76), (0x2adc, 0x2adc),
   (0x2c00, 0x2c2f), (0x2c60, 0x2c60), (0x2c62, 0x2c64), (0x2c6d, 0x2c70), (0x2c72, 0x2c72),
   (0x2c75, 0x2c75), (0x2c7c, 0x2c80), (0x2ceb, 0x2ceb), (0x2ced, 0x2ced), (0x2cf2, 0x2cf2),
   (0x2d6f, 0x2d6f), (0x2e9f, 0x2e9f), (0x2ef3, 0x2fff), (0x3002, 0x3002), (0x3036, 0x3036),
   (0x3038, 0x303a), (0x309b, 0x309c), (0x309f, 0x309f), (0x30ff, 0x30ff), (0x3131, 0x318e),
   (0x3192, 0x319f), (0x31ef, 0x31ef), (0x3200, 0x3247), (0x3250, 0x327e), (0x3280, 0x33ff),
   (0xa69c, 0xa69d), (0xa779, 0xa779), (0xa77b, 0xa77b), (0xa77d, 0xa77e), (0xa78b, 0xa78b),
   (0xa78d, 0xa78d), (0xa790, 0xa790), (0xa792, 0xa792), (0xa7aa, 0xa7ae), (0xa7b0, 0xa7b4),
   (0xa7c4, 0xa7c7), (0xa7c9, 0xa7c9), (0xa7cb, 0xa7cc), (0xa7dc, 0xa7f5), (0xa7f8, 0xa7f9),
   (0xab5c, 0xab5f), (0xab69, 0xab69), (0xab70, 0xabbf), (0xf900, 0xfa0d), (0xfa10, 0xfa10),
   (0xfa12, 0xfa12), (0xfa15, 0xfa1e), (0xfa20, 0xfa20), (0xfa22, 0xfa22), (0xfa25, 0xfa26),
   (0xfa2a, 0xfb1d), (0xfb1f, 0xfbb1), (0xfbd3, 0xfd3d), (0xfd50, 0xfd8f), (0xfd92, 0xfdc7),
   (0xfdf0, 0xfdfc), (0xfe00, 0xfe19), (0xfe30, 0xfe44), (0xfe47, 0xfe72), (0xfe74, 0xfffd),
   (0x10400, 0x10427), (0x104b0, 0x104d3), (0x10570, 0x10595), (0x10781, 0x107ba),
   (0x10c80, 0x10cb2), (0x10d50, 0x10d65), (0x118a0, 0x118bf), (0x16e40, 0x16e5f),
   (0x16ea0, 0x16eb8), (0x1ccd6, 0x1ccf9), (0x1d15e, 0x1d164), (0x1d1bb, 0x1d1c0),
   (0x1d400, 0x1d7ff), (0x1e030, 0x1e06d), (0x1e900, 0x1e921), (0x1ee00, 0x1eebb),
   (0x1f100, 0x1f10a), (0x1f110, 0x1f12e), (0x1f130, 0x1f14f), (0x1f16a, 0x1f16c),
   (0x1f190, 0x1f190), (0x1f200, 0x1f251), (0x1fbf0, 0x1fbf9), (0x2f800, 0x2fa1d),
   (0xe0100, 0xe01ef)]

/-- Ranges in which every other character, from the first to the last, is not plain. -/
def foldedAlternates : List (Nat × Nat) :=
  [(0x100, 0x130), (0x139, 0x13d), (0x143, 0x147), (0x14c, 0x176), (0x17b, 0x17f), (0x1cf, 0x1db),
   (0x1de, 0x1ee), (0x1fa, 0x232), (0x248, 0x24e), (0x370, 0x376), (0x3d8, 0x3ee), (0x460, 0x480),
   (0x48a, 0x4be), (0x4c3, 0x4cd), (0x4d0, 0x52e), (0x1e00, 0x1e94), (0x1e9e, 0x1efe),
   (0x1f71, 0x1f7b), (0x2124, 0x2128), (0x2c67, 0x2c6b), (0x2c82, 0x2ce2), (0xa640, 0xa66c),
   (0xa680, 0xa69a), (0xa722, 0xa72e), (0xa732, 0xa770), (0xa780, 0xa786), (0xa796, 0xa7a8),
   (0xa7b6, 0xa7c2), (0xa7ce, 0xa7da)]

def isFolded (n : Nat) : Bool :=
  inRanges foldedRanges n ||
    foldedAlternates.any fun r => r.1 ≤ n && n ≤ r.2 && (n - r.1) % 2 == 0

/-- Within ASCII all but blanks, controls and capital letters. -/
def isPlain (n : Nat) : Bool :=
  if n < 0x80 then 0x20 < n && n < 0x7f && !(0x41 ≤ n && n ≤ 0x5a)
  else !inRanges nonPrinting n && !isFolded n

end Text
end StreamPipelines
