/-!
White space and the trimming of texts. A character is blank when it has the Unicode property
White_Space; trimming takes blank characters off both ends and leaves the inside alone.
-/

namespace StreamPipelines
namespace Text

/-- The twenty-five characters with the property White_Space. -/
def isBlank (c : Char) : Bool :=
  let n := c.toNat
  (0x09 ≤ n && n ≤ 0x0d) || n == 0x20 || n == 0x85 || n == 0xa0 || n == 0x1680 ||
    (0x2000 ≤ n && n ≤ 0x200a) || n == 0x2028 || n == 0x2029 || n == 0x202f || n == 0x205f ||
    n == 0x3000

/-- Takes from both ends every character of the class `p`. -/
def stripChars (p : Char → Bool) (cs : List Char) : List Char :=
  ((cs.dropWhile p).reverse.dropWhile p).reverse

def trim (s : String) : String :=
  String.ofList (stripChars isBlank s.toList)

/-- The text without its trailing copies of `c`. -/
def trimEndOf (c : Char) (cs : List Char) : List Char :=
  (cs.reverse.dropWhile (· == c)).reverse

def trimStartOf (c : Char) (cs : List Char) : List Char :=
  cs.dropWhile (· == c)

end Text
end StreamPipelines
