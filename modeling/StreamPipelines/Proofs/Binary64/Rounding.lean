import Mathlib.Algebra.Order.Field.Rat
import StreamPipelines.Binary64.Shortest

/-!
The rounding intervals of floating-point numbers. Each magnitude has an interval of numbers that
round to it; an end belongs to the interval of its even neighbour. The intervals do not overlap, so
that a number rounds to one magnitude at most.
-/

namespace StreamPipelines
namespace Binary64

/-- The exponent and the fraction in one number, in the order of the magnitudes. -/
def bits (x : Binary64) : Nat :=
  x.exponent.val * leadingOne + x.fraction.val

theorem bits_inj {x y : Binary64} (same : x.bits = y.bits) :
    x.exponent = y.exponent ∧ x.fraction = y.fraction := by
  have hx := x.fraction.isLt
  have hy := y.fraction.isLt
  unfold bits at same
  constructor <;> apply Fin.ext <;> simp only [leadingOne] at * <;> omega

theorem quarters_eq (x : Binary64) : x.quarters = 4 * (x.significand * 2 ^ x.shift) := by
  rw [quarters, units, Nat.shiftLeft_eq]

theorem significand_lt (x : Binary64) : x.significand < 2 * leadingOne := by
  have := x.fraction.isLt
  unfold significand
  split <;> omega

theorem significand_of_pos {x : Binary64} (pos : 0 < x.exponent.val) :
    x.significand = leadingOne + x.fraction.val :=
  if_neg (Nat.ne_of_gt pos)

theorem upperEnd_eq (x : Binary64) : x.upperEnd = x.quarters + 2 * 2 ^ x.shift := by
  rw [upperEnd, Nat.shiftLeft_eq]

theorem lowerEnd_eq (x : Binary64) :
    x.lowerEnd = x.quarters -
      if x.fraction.val = 0 ∧ 1 < x.exponent.val then 2 ^ x.shift else 2 * 2 ^ x.shift := by
  rw [lowerEnd, Nat.shiftLeft_eq, Nat.shiftLeft_eq, Nat.one_mul]
  split <;> rfl

theorem significand_pos {x : Binary64} (pos : 0 < x.units) : 0 < x.significand :=
  Nat.pos_of_ne_zero fun none => by simp [units, none] at pos

/-- The ends lie on both sides of the number, and above zero. -/
theorem ends_around {x : Binary64} (pos : 0 < x.units) :
    0 < x.lowerEnd ∧ x.lowerEnd < x.quarters ∧ x.quarters < x.upperEnd := by
  have stepPos : 0 < 2 ^ x.shift := Nat.two_pow_pos _
  have least := Nat.mul_le_mul_right (2 ^ x.shift) (significand_pos pos)
  rw [upperEnd_eq, lowerEnd_eq, quarters_eq]
  generalize x.significand * 2 ^ x.shift = value at *
  generalize 2 ^ x.shift = step at *
  split <;> omega

/-- The number of quarter units rounds to `x`. -/
def IsRoundedTo (q : ℚ) (x : Binary64) : Prop :=
  (x.lowerEnd : ℚ) ≤ q ∧ q ≤ x.upperEnd ∧
    (x.fraction.val % 2 ≠ 0 → (x.lowerEnd : ℚ) ≠ q ∧ q ≠ x.upperEnd)

/-- With one exponent the spacing is the same on both sides. -/
theorem upperEnd_le_of_fraction {x y : Binary64} (same : x.exponent = y.exponent)
    (below : x.fraction.val < y.fraction.val) :
    x.upperEnd ≤ y.lowerEnd ∧
      (x.fraction.val % 2 = 0 → y.fraction.val % 2 = 0 → x.upperEnd < y.lowerEnd) := by
  obtain ⟨more, apart⟩ := Nat.exists_eq_add_of_lt below
  have spacing : y.shift = x.shift := by rw [shift, shift, same]
  have significand : y.significand = x.significand + (more + 1) := by
    simp only [significand, same]
    split <;> omega
  have notFirst : ¬(y.fraction.val = 0 ∧ 1 < y.exponent.val) := fun h => by omega
  have pos : 0 < 2 ^ x.shift := Nat.two_pow_pos _
  rw [upperEnd_eq, lowerEnd_eq, if_neg notFirst, quarters_eq, quarters_eq, spacing, significand,
    Nat.add_mul, Nat.add_mul, Nat.one_mul]
  generalize 2 ^ x.shift = step at *
  refine ⟨by omega, fun _ _ => ?_⟩
  have room : step ≤ more * step := Nat.le_mul_of_pos_left step (by omega)
  omega

/-- Above the smallest exponent but one the spacing doubles at the least. -/
theorem upperEnd_le_of_exponent {x y : Binary64} (below : x.exponent.val < y.exponent.val) :
    x.upperEnd ≤ y.lowerEnd ∧ (x.fraction.val % 2 = 0 → x.upperEnd < y.lowerEnd) := by
  have fraction := x.fraction.isLt
  have significand : y.significand = leadingOne + y.fraction.val :=
    significand_of_pos (Nat.zero_lt_of_lt below)
  rw [upperEnd_eq, lowerEnd_eq, quarters_eq, quarters_eq, significand]
  by_cases first : y.exponent.val = 1
  · -- Both numbers are spaced by one unit.
    have lowest : x.exponent.val = 0 := by omega
    have small : x.significand = x.fraction.val := if_pos lowest
    rw [if_neg (by omega), small, shift, shift, first, lowest]
    simp only [leadingOne] at *
    omega
  · have wider : 2 * 2 ^ x.shift ≤ 2 ^ y.shift := by
      rw [← Nat.pow_succ']
      exact Nat.pow_le_pow_right (by decide) (by simp only [shift]; omega)
    have pos : 0 < 2 ^ x.shift := Nat.two_pow_pos _
    have top : x.significand ≤ leadingOne + x.fraction.val := by
      unfold Binary64.significand
      split <;> omega
    have gap : (if y.fraction.val = 0 ∧ 1 < y.exponent.val then 2 ^ y.shift
        else 2 * 2 ^ y.shift) ≤ 2 ^ y.shift + 4 * (y.fraction.val * 2 ^ y.shift) := by
      split
      · exact Nat.le_add_right _ _
      · rename_i notFirst
        have := Nat.le_mul_of_pos_left (2 ^ y.shift) (show 0 < y.fraction.val by omega)
        omega
    have high := Nat.mul_le_mul_right (2 ^ x.shift) top
    have most := Nat.mul_le_mul_right (2 ^ x.shift) (Nat.le_sub_one_of_lt fraction)
    generalize 2 ^ x.shift = step at *
    rw [Nat.add_mul] at high ⊢
    refine ⟨by simp only [leadingOne] at *; omega, fun even => ?_⟩
    have fewer : x.fraction.val ≤ leadingOne - 2 := by
      simp only [leadingOne] at *
      omega
    have less := Nat.mul_le_mul_right step fewer
    simp only [leadingOne] at *
    omega

theorem upperEnd_le_lowerEnd {x y : Binary64} (below : x.bits < y.bits) :
    x.upperEnd ≤ y.lowerEnd ∧
      (x.fraction.val % 2 = 0 → y.fraction.val % 2 = 0 → x.upperEnd < y.lowerEnd) := by
  have hx := x.fraction.isLt
  have hy := y.fraction.isLt
  by_cases same : x.exponent = y.exponent
  · refine upperEnd_le_of_fraction same ?_
    rw [bits, bits, same] at below
    omega
  · have lower : x.exponent.val < y.exponent.val := by
      have apart := Fin.val_ne_of_ne same
      simp only [bits, leadingOne] at *
      omega
    exact (upperEnd_le_of_exponent lower).imp_right fun h even _ => h even

theorem IsRoundedTo.not_lt {q : ℚ} {x y : Binary64} (hx : IsRoundedTo q x) (hy : IsRoundedTo q y) :
    ¬x.bits < y.bits := by
  intro below
  obtain ⟨apart, overlap⟩ := upperEnd_le_lowerEnd below
  obtain ⟨-, atMost, xOdd⟩ := hx
  obtain ⟨atLeast, -, yOdd⟩ := hy
  have apart : (x.upperEnd : ℚ) ≤ y.lowerEnd := Nat.cast_le.mpr apart
  -- The number is the common end of the intervals, which the odd one of the two does not have.
  have atEnd : q = x.upperEnd := le_antisymm atMost (apart.trans atLeast)
  have atStart : (y.lowerEnd : ℚ) = q := le_antisymm atLeast (atMost.trans apart)
  have xEven : x.fraction.val % 2 = 0 := Decidable.byContradiction fun odd => (xOdd odd).2 atEnd
  have yEven : y.fraction.val % 2 = 0 := Decidable.byContradiction fun odd => (yOdd odd).1 atStart
  have strict : (x.upperEnd : ℚ) < y.lowerEnd := Nat.cast_lt.mpr (overlap xEven yEven)
  exact absurd (atStart.trans atEnd) strict.ne'

/-- A number rounds to one magnitude at most. -/
theorem IsRoundedTo.bits_eq {q : ℚ} {x y : Binary64} (hx : IsRoundedTo q x)
    (hy : IsRoundedTo q y) : x.bits = y.bits :=
  Nat.le_antisymm (Nat.le_of_not_lt (hy.not_lt hx)) (Nat.le_of_not_lt (hx.not_lt hy))

end Binary64
end StreamPipelines
