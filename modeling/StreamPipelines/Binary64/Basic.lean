/-!
Finite numbers of the 64-bit binary floating-point format, in exact arithmetic. Every such number
is a whole multiple of 2⁻¹⁰⁷⁴, the smallest positive one; `units` is that multiple, and rounding
a quotient of units to the nearest number, a tie to the even one, is the only place where
precision is lost. There are no infinities: a result out of range is `none`.
-/

namespace StreamPipelines

/-- The significands of most numbers are not below 2⁵², and all of them are below twice that. -/
abbrev leadingOne : Nat :=
  0x10000000000000

structure Binary64 where
  negative : Bool
  exponent : Fin 2047
  fraction : Fin leadingOne
  deriving DecidableEq

namespace Binary64

/-- The fraction with the leading one that all but the smallest exponent imply. -/
def significand (x : Binary64) : Nat :=
  if x.exponent.val = 0 then x.fraction.val else leadingOne + x.fraction.val

/-- The power of two, in units, that one step of the significand stands for. -/
def shift (x : Binary64) : Nat :=
  x.exponent.val - 1

/-- The magnitude as a multiple of 2⁻¹⁰⁷⁴. -/
def units (x : Binary64) : Nat :=
  x.significand <<< x.shift

/-- How many units make the number one. -/
def unitsOfOne : Nat :=
  1 <<< 1074

def zero (negative : Bool) : Binary64 :=
  ⟨negative, 0, 0⟩

def withSign (negative : Bool) (x : Binary64) : Binary64 :=
  { x with negative := negative }

/-- The whole number nearest to `num / den`; of two equally near ones the even one. -/
def roundQuotient (num den : Nat) : Nat :=
  let q := num / den
  let r := num % den
  if 2 * r < den then q
  else if 2 * r = den then q + q % 2
  else q + 1

/-- The number of `significand <<< shift` units, for a significand of at most 53 bits. -/
def ofSignificand? (significand shift : Nat) : Option Binary64 :=
  if significand < leadingOne then some ⟨false, 0, Fin.ofNat _ significand⟩
  else if shift + 1 < 2047 then
    some ⟨false, Fin.ofNat _ (shift + 1), Fin.ofNat _ (significand - leadingOne)⟩
  else none

/-- The nonnegative number nearest to `num / den` units. -/
def ofQuotient? (num den : Nat) : Option Binary64 :=
  let shift := (num / den).log2 - 52
  let rounded := roundQuotient num (den <<< shift)
  if rounded = 2 * leadingOne then ofSignificand? leadingOne (shift + 1)
  else ofSignificand? rounded shift

def ofNat? (n : Nat) : Option Binary64 :=
  ofQuotient? (n * unitsOfOne) 1

/-- The rounded product of the magnitudes. -/
def mul? (x y : Binary64) : Option Binary64 :=
  ofQuotient? (x.units * y.units) unitsOfOne

/-- The rounded quotient of the magnitudes. -/
def div? (x y : Binary64) : Option Binary64 :=
  ofQuotient? (x.units * unitsOfOne) y.units

def tenPower? (k : Nat) : Option Binary64 :=
  ofNat? (Nat.pow 10 k)

/-- The largest power of ten in range. -/
def maxTenPower : Nat :=
  308

/-- Divides by the largest power of ten in range, `steps` times or until nothing is left, and then
by the power `k`. -/
def scaleDown? (k : Nat) : Nat → Binary64 → Option Binary64
  | 0, x => (tenPower? k).bind x.div?
  | steps + 1, x =>
      if x.units = 0 then some x
      else ((tenPower? maxTenPower).bind x.div?).bind (scaleDown? k steps)

/-- The decimal number `significand · 10ᵉ`, where `e` is the exponent, in two steps: the significand
is rounded first, then its product with the power of ten. -/
def ofScientific? (significand : Nat) (exponent : Int) : Option Binary64 :=
  match ofNat? significand with
  | none => none
  | some x =>
      match exponent with
      | .ofNat k =>
          if k ≤ maxTenPower then (tenPower? k).bind x.mul?
          else if x.units = 0 then some x
          else none
      | .negSucc k => scaleDown? (k % maxTenPower + 1) (k / maxTenPower) x

end Binary64
end StreamPipelines
