import StreamPipelines.Binary64.Basic
import StreamPipelines.Text.Decimal

/-!
The shortest decimal text of a floating-point number. Of the decimal numbers that round to the
given one the text has the fewest digits, and of those with equally many it is the nearest, a tie
going to the even last digit. Lengths are tried in order, on the grid of decimals of that length
only the two neighbours of the number, all in whole numbers.
-/

namespace StreamPipelines
namespace Binary64

open Text (digits)

/-- The magnitude in quarter units. -/
def quarters (x : Binary64) : Nat :=
  4 * x.units

/-- The least magnitude, in quarter units, that rounds to `x` or ties with its lower neighbour. -/
def lowerEnd (x : Binary64) : Nat :=
  if x.fraction.val = 0 ∧ 1 < x.exponent.val then x.quarters - (1 <<< x.shift)
  else x.quarters - (2 <<< x.shift)

def upperEnd (x : Binary64) : Nat :=
  x.quarters + (2 <<< x.shift)

/-- A grid of decimals `d · 10ᵏ` beside the quarter units: `d` on the grid has the size of
`d * step` over `count`. -/
structure Grid where
  exponent : Int
  step : Nat
  count : Nat

def Grid.ofExponent (k : Int) : Grid :=
  match k with
  | .ofNat k => ⟨.ofNat k, Nat.pow 10 k * (4 * unitsOfOne), 1⟩
  | .negSucc k => ⟨.negSucc k, 4 * unitsOfOne, Nat.pow 10 (k + 1)⟩

/-- The decimal `d` rounds to `x`; the ends of the interval do so when `x` is even. -/
def Grid.hits (g : Grid) (x : Binary64) (d : Nat) : Bool :=
  let low := x.lowerEnd * g.count
  let high := x.upperEnd * g.count
  if x.fraction.val % 2 = 0 then low ≤ d * g.step && d * g.step ≤ high
  else low < d * g.step && d * g.step < high

/-- The neighbour of `x` on the grid that rounds to `x`, the nearer one if both do. -/
def Grid.nearest? (g : Grid) (x : Binary64) : Option Nat :=
  let value := x.quarters * g.count
  let d := value / g.step
  let below := value - d * g.step
  let above := (d + 1) * g.step - value
  match g.hits x d, g.hits x (d + 1) with
  | true, true =>
      if below < above then some d
      else if above < below then some (d + 1)
      else some (d + d % 2)
  | true, false => some d
  | false, true => some (d + 1)
  | false, false => none

/-- The power of ten just below the magnitude, which must not be zero. -/
def magnitude (x : Binary64) : Int :=
  if unitsOfOne ≤ x.units then (digits (x.units / unitsOfOne)).length - 1
  else -((digits ((unitsOfOne - 1) / x.units)).length : Int)

/-- Tries the grids that have `length` digits and more, `fuel` of them. -/
def searchGrids (x : Binary64) (length : Nat) : Nat → Nat × Int
  | 0 => (0, 0)
  | fuel + 1 =>
      let g := Grid.ofExponent (x.magnitude - length + 1)
      match g.nearest? x with
      | some d => (d, g.exponent)
      | none => searchGrids x (length + 1) fuel

/-- Seventeen digits always suffice. -/
def maxDigits : Nat :=
  17

def dropTrailingZeros (ds : List Char) : List Char :=
  (ds.reverse.dropWhile (· == '0')).reverse

/-- The digits, first one not zero, and the power of ten of the first digit. -/
def shortest (x : Binary64) : List Char × Int :=
  let (d, k) := searchGrids x 1 maxDigits
  let ds := digits d
  (dropTrailingZeros ds, k + ds.length - 1)

/-- How a floating-point number is laid out: positionally, with at least one digit on both sides
of the point, from `lowest` up to below `highest` powers of ten, and else with an exponent. -/
structure Layout where
  lowest : Int
  highest : Int

def Layout.positional (ds : List Char) (magnitude : Int) : List Char :=
  match magnitude with
  | .ofNat k =>
      let whole := (ds ++ List.replicate (k + 1 - ds.length) '0').take (k + 1)
      let part := ds.drop (k + 1)
      whole ++ '.' :: (if part.isEmpty then ['0'] else part)
  | .negSucc k => '0' :: '.' :: List.replicate k '0' ++ ds

def Layout.scientific (ds : List Char) (magnitude : Int) : List Char :=
  let mantissa := match ds with
    | [] => []
    | [d] => [d]
    | d :: more => d :: '.' :: more
  let sign := if magnitude < 0 then '-' else '+'
  mantissa ++ 'e' :: sign :: digits magnitude.natAbs

def Layout.render (l : Layout) (x : Binary64) : List Char :=
  let sign := if x.negative then ['-'] else []
  if x.units = 0 then sign ++ ['0', '.', '0']
  else
    let (ds, magnitude) := x.shortest
    if l.lowest ≤ magnitude ∧ magnitude < l.highest then
      sign ++ Layout.positional ds magnitude
    else sign ++ Layout.scientific ds magnitude

end Binary64
end StreamPipelines
