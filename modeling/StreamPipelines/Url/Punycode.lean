/-!
Punycode, which writes a text with ASCII alone. The ASCII characters of the text come first, up to
the last hyphen; behind it numbers say which other characters are put where, in the order of
their code points. A number has digits to the base 36, the least one first, and ends with a digit
below a threshold that follows the size of the numbers before it.
-/

namespace StreamPipelines
namespace Url
namespace Punycode

def digit? (c : Char) : Option Nat :=
  if 'a' ≤ c ∧ c ≤ 'z' then some (c.toNat - 0x61)
  else if '0' ≤ c ∧ c ≤ '9' then some (c.toNat - 0x30 + 26)
  else none

/-- The threshold for the digit at a place counted in steps of 36. -/
def threshold (bias place : Nat) : Nat :=
  if place ≤ bias then 1 else if bias + 26 ≤ place then 26 else place - bias

/-- Divides by 35 until the number is at most 455, and adds 36 for each division. -/
def scaleBias (n bias : Nat) : Nat :=
  if 455 < n then scaleBias (n / 35) (bias + 36) else bias + 36 * n / (n + 38)
termination_by n
decreasing_by omega

/-- The bias behind a number, when there are `count` characters with the one it puts in. The first
number is large and counts for little. -/
def nextBias (number count : Nat) (first : Bool) : Nat :=
  let n := if first then number / 700 else number / 2
  scaleBias (n + n / count) 0

/-- The numbers stay below this bound. -/
def numberBound : Nat :=
  0x100000000

structure Decoder where
  /-- The text so far. -/
  text : List Char
  /-- The last code point that was put in. -/
  codePoint : Nat
  /-- Where the next character goes, counted on through the higher code points. -/
  index : Nat
  /-- The index before the number that is being read. -/
  start : Nat
  bias : Nat
  /-- What the next digit is multiplied by. -/
  weight : Nat
  place : Nat
  deriving DecidableEq

namespace Decoder

def ofText (text : List Char) : Decoder :=
  ⟨text, 0x80, 0, 0, 72, 1, 36⟩

/-- No number is under way. -/
def isDone (d : Decoder) : Bool :=
  d.place = 36

/-- Puts in the character that the number at its end, with the index `index`, stands for. -/
def insert (d : Decoder) (index : Nat) : Option Decoder :=
  let count := d.text.length + 1
  let codePoint := d.codePoint + index / count
  let spot := index % count
  if codePoint.isValidChar then
    some ⟨d.text.insertIdx spot (Char.ofNat codePoint), codePoint, spot + 1, spot + 1,
      nextBias (index - d.start) count (d.start = 0), 1, 36⟩
  else none

def step (d : Decoder) (c : Char) : Option Decoder :=
  match digit? c with
  | none => none
  | some digit =>
      let index := d.index + digit * d.weight
      let t := threshold d.bias d.place
      let weight := d.weight * (36 - t)
      if numberBound ≤ index then none
      else if digit < t then d.insert index
      else if numberBound ≤ weight then none
      else some { d with index := index, weight := weight, place := d.place + 36 }

end Decoder

/-- The ASCII characters and the digits; a hyphen that comes first parts nothing. -/
def splitDigits (cs : List Char) : List Char × List Char :=
  match cs.reverse.span (· != '-') with
  | (digits, _ :: c :: text) => ((c :: text).reverse, digits.reverse)
  | _ => ([], cs)

def decode (cs : List Char) : Option (List Char) :=
  let (text, digits) := splitDigits cs
  match digits.foldlM Decoder.step (.ofText text) with
  | none => none
  | some d => if d.isDone then some d.text else none

end Punycode
end Url
end StreamPipelines
