import StreamPipelines.Text.Printable

/-!
Marks, which belong to the character before them. Most extend its shape without taking room of
their own; the spacing marks, which are written beside it, take some. A few of the spacing marks
extend the grapheme all the same.
-/

namespace StreamPipelines
namespace Text

/-- Ranges of spacing marks that do not extend a grapheme. -/
def spacingMarks : List (Nat × Nat) :=
  [(0x903, 0x903), (0x93b, 0x93b), (0x93e, 0x94f), (0x982, 0x983), (0x9bf, 0x9cc), (0xa03, 0xa03),
   (0xa3e, 0xa40), (0xa83, 0xa83), (0xabe, 0xacc), (0xb02, 0xb03), (0xb40, 0xb4c), (0xbbf, 0xbcc),
   (0xc01, 0xc03), (0xc41, 0xc44), (0xc82, 0xc83), (0xcbe, 0xcc4), (0xcf3, 0xd03), (0xd3f, 0xd4c),
   (0xd82, 0xd83), (0xdd0, 0xdde), (0xdf2, 0xdf3), (0xf3e, 0xf3f), (0xf7f, 0xf7f), (0x102b, 0x103c),
   (0x1056, 0x1057), (0x1062, 0x1064), (0x1067, 0x106d), (0x1083, 0x108c), (0x108f, 0x108f),
   (0x109a, 0x109c), (0x17b6, 0x17c8), (0x1923, 0x1938), (0x1a19, 0x1a1a), (0x1a55, 0x1a72),
   (0x1b04, 0x1b04), (0x1b3e, 0x1b41), (0x1b82, 0x1b82), (0x1ba1, 0x1ba7), (0x1be7, 0x1bee),
   (0x1c24, 0x1c35), (0x1ce1, 0x1ce1), (0x1cf7, 0x1cf7), (0xa823, 0xa827), (0xa880, 0xa881),
   (0xa8b4, 0xa8c3), (0xa952, 0xa952), (0xa983, 0xa983), (0xa9b4, 0xa9bf), (0xaa2f, 0xaa34),
   (0xaa4d, 0xaa4d), (0xaa7b, 0xaa7d), (0xaaeb, 0xaaef), (0xaaf5, 0xaaf5), (0xabe3, 0xabea),
   (0xabec, 0xabec), (0x11000, 0x11002), (0x11082, 0x11082), (0x110b0, 0x110b8), (0x1112c, 0x1112c),
   (0x11145, 0x11146), (0x11182, 0x11182), (0x111b3, 0x111bf), (0x111ce, 0x111ce),
   (0x1122c, 0x11233), (0x112e0, 0x112e2), (0x11302, 0x11303), (0x1133f, 0x1134c),
   (0x11362, 0x11363), (0x113b9, 0x113cd), (0x11435, 0x11445), (0x114b1, 0x114c1),
   (0x115b0, 0x115be), (0x11630, 0x1163e), (0x116ac, 0x116af), (0x1171e, 0x11726),
   (0x1182c, 0x11838), (0x11931, 0x11938), (0x11940, 0x11940), (0x11942, 0x11942),
   (0x119d1, 0x119df), (0x119e4, 0x119e4), (0x11a39, 0x11a39), (0x11a57, 0x11a58),
   (0x11a97, 0x11a97), (0x11b61, 0x11b67), (0x11c2f, 0x11c3e), (0x11ca9, 0x11cb4),
   (0x11d8a, 0x11d96), (0x11ef5, 0x11ef6), (0x11f03, 0x11f03), (0x11f34, 0x11f3f),
   (0x1612a, 0x1612c), (0x16f51, 0x16f87)]

/-- Ranges of marks that extend a grapheme and have a place in the line all the same. -/
def spacingExtenders : List (Nat × Nat) :=
  [(0x9be, 0x9be), (0x9d7, 0x9d7), (0xb3e, 0xb3e), (0xb57, 0xb57), (0xbbe, 0xbbe), (0xbd7, 0xbd7),
   (0xcbf, 0xccb), (0xcd5, 0xcd6), (0xd3e, 0xd3e), (0xd57, 0xd57), (0xdcf, 0xdcf), (0xddf, 0xddf),
   (0x1715, 0x1715), (0x1734, 0x1734), (0x1b35, 0x1b35), (0x1b3b, 0x1b3b), (0x1b3d, 0x1b3d),
   (0x1b43, 0x1b44), (0x1baa, 0x1baa), (0x1bf2, 0x1bf3), (0x302e, 0x302f), (0xa953, 0xa953),
   (0xa9c0, 0xa9c0), (0x111c0, 0x111c0), (0x11235, 0x11235), (0x1133e, 0x1133e), (0x1134d, 0x11357),
   (0x113b8, 0x113b8), (0x113c2, 0x113c9), (0x113cf, 0x113cf), (0x114b0, 0x114b0),
   (0x114bd, 0x114bd), (0x115af, 0x115af), (0x116b6, 0x116b6), (0x11930, 0x11930),
   (0x1193d, 0x1193d), (0x11a07, 0x11a08), (0x11c3f, 0x11c3f), (0x11f41, 0x11f41),
   (0x16ff0, 0x16ff1), (0x1d165, 0x1d166), (0x1d16d, 0x1d172)]

def isMark (n : Nat) : Bool :=
  inRanges graphemeExtending n || inRanges spacingMarks n

/-- A mark without a place of its own in the line. -/
def isNonspacing (n : Nat) : Bool :=
  inRanges graphemeExtending n && !inRanges spacingExtenders n

end Text
end StreamPipelines
