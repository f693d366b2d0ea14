import StreamPipelines.Text.Direction
import StreamPipelines.Text.Folding
import StreamPipelines.Text.Joining
import StreamPipelines.Url.Punycode

/-!
The labels of a domain name. A label that begins with `xn--` stands for one with characters
outside ASCII. That one has to be in the only form in which it may be written: plain, composed,
and laid out in one direction when the name has letters that are written from right to left.
-/

namespace StreamPipelines
namespace Url

/-- What an ASCII label begins with when it stands for another one. -/
def encodedLabelMark : List Char :=
  ['x', 'n', '-', '-']

def isLabelCharacter (n : Nat) : Bool :=
  Text.isPlain n || n == Text.nonJoiner || n == Text.joiner

/-- Whether a label outside ASCII may be written so, whatever the other labels are. -/
def isLabel (cs : List Char) : Bool :=
  let text := cs.map Char.toNat
  text.any (0x80 ≤ ·) && text.all isLabelCharacter &&
    !((text.head?.map Text.isMark).getD false) && !encodedLabelMark.isPrefixOf cs &&
    Text.isComposed text && Text.joinersFit [] text

/-- The label that a label of ASCII characters in lower case stands for. -/
def readLabel (cs : List Char) : Option (List Char) :=
  if encodedLabelMark.isPrefixOf cs then
    (Punycode.decode (cs.drop encodedLabelMark.length)).filter isLabel
  else some cs

def isRightward (d : Text.Direction) : Bool :=
  d = .right || d = .arabicDigit

/-- A label of one direction: it begins with a letter, ends with a letter or a digit, marks
aside, and in between has no letter of the other direction nor digits of two kinds. -/
def isLaidOut (label : List Text.Direction) : Bool :=
  let last := (label.reverse.dropWhile (· = .nonspacing)).head?
  match label with
  | [] => true
  | .left :: _ => !label.any isRightward && (last = some .left || last = some .digit)
  | .right :: _ =>
      !label.contains .left && !(label.contains .digit && label.contains .arabicDigit) &&
        (last = some .right || last = some .digit || last = some .arabicDigit)
  | _ => false

/-- Whether the labels of one name go together. -/
def areLaidOut (labels : List (List Char)) : Bool :=
  let directions := labels.map (·.map fun c => Text.direction c.toNat)
  !directions.any (·.any isRightward) || directions.all isLaidOut

/-- Whether a name of ASCII characters in lower case stands for a domain name. -/
def isDomainName (cs : List Char) : Bool :=
  match (cs.splitOn '.').mapM readLabel with
  | none => false
  | some labels => areLaidOut labels

end Url
end StreamPipelines
