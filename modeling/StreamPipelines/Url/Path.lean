import StreamPipelines.Url.PercentEncoding

/-!
The path of a URL as a list of segments. A slash or back slash ends a segment. The segment `.`
names the place where it stands and `..` the one above it, also where the dots are percent
encoded; there is nothing above the root, and a drive letter is not left.
-/

namespace StreamPipelines
namespace Url

/-- Resolves `%2e` and `%2E`, which stand for dots, and nothing else. -/
def decodeDots : List Char → List Char
  | '%' :: '2' :: 'e' :: rest | '%' :: '2' :: 'E' :: rest => '.' :: decodeDots rest
  | c :: rest => c :: decodeDots rest
  | [] => []

def isHere (segment : List Char) : Bool :=
  decodeDots segment = ['.']

def isAbove (segment : List Char) : Bool :=
  decodeDots segment = ['.', '.']

def isDriveLetter : List Char → Bool
  | [c, d] => c.isAlpha && (d = ':' || d = '|')
  | _ => false

/-- The segments of the place above, the last segment first. -/
def above : List (List Char) → List (List Char)
  | [] => []
  | segment :: more => if isDriveLetter segment then segment :: more else more

/-- Follows the segments from the place `place`, which is given last segment first. A last
segment that names a place gives way to an empty one. -/
def follow (place : List (List Char)) : List (List Char) → List (List Char)
  | [] => place.reverse
  | [last] =>
      if isAbove last then ([] :: above place).reverse
      else if isHere last then ([] :: place).reverse
      else (last :: place).reverse
  | segment :: more =>
      if isAbove segment then follow (above place) more
      else if isHere segment then follow place more
      else follow (segment :: place) more

def isSlash (c : Char) : Bool :=
  c = '/' || c = '\\'

/-- The segments of the text of a path, whose first slash may be missing. -/
def pathSegments (cs : List Char) : List (List Char) :=
  let cs := match cs with
    | c :: rest => if isSlash c then rest else c :: rest
    | [] => []
  follow [] ((cs.splitOnP isSlash).map (percentEncode inPathSet))

end Url
end StreamPipelines
