import Mathlib.Data.List.TakeWhile
import Mathlib.Tactic.FieldSimp
import Mathlib.Tactic.Linarith
import Mathlib.Tactic.NormNum
import Mathlib.Tactic.Positivity
import Mathlib.Tactic.Ring
import StreamPipelines.Proofs.Binary64.Rounding
import StreamPipelines.Proofs.Text.Digits

/-!
The search for the shortest decimal. The decimal that is found rounds to the number, and one of
seventeen digits is found at the latest; so different numbers have different decimals.
-/

namespace StreamPipelines
namespace Binary64

open Text (digits)

theorem unitsOfOne_pos : 0 < unitsOfOne := by
  decide

/-- The decimal number `d · 10ᵏ` in quarter units. -/
def decimal (d : Nat) (k : Int) : ℚ :=
  d * 10 ^ k * (4 * unitsOfOne)

theorem Grid.count_pos (k : Int) : 0 < (Grid.ofExponent k).count := by
  cases k with
  | ofNat n => exact Nat.one_pos
  | negSucc n => exact Nat.pow_pos (by decide)

theorem Grid.step_pos (k : Int) : 0 < (Grid.ofExponent k).step := by
  have unit : 0 < 4 * unitsOfOne := Nat.mul_pos (by decide) unitsOfOne_pos
  cases k with
  | ofNat n => exact Nat.mul_pos (Nat.pow_pos (by decide)) unit
  | negSucc n => exact unit

theorem Grid.exponent_ofExponent (k : Int) : (Grid.ofExponent k).exponent = k := by
  cases k <;> rfl

theorem Grid.step_eq (k : Int) :
    ((Grid.ofExponent k).step : ℚ) = 10 ^ k * (4 * unitsOfOne) * (Grid.ofExponent k).count := by
  cases k with
  | ofNat n =>
      have step : (Grid.ofExponent (.ofNat n)).step = 10 ^ n * (4 * unitsOfOne) := rfl
      have count : (Grid.ofExponent (.ofNat n)).count = 1 := rfl
      rw [step, count, Int.ofNat_eq_natCast, zpow_natCast]
      push_cast
      ring
  | negSucc n =>
      have step : (Grid.ofExponent (.negSucc n)).step = 4 * unitsOfOne := rfl
      have count : (Grid.ofExponent (.negSucc n)).count = 10 ^ (n + 1) := rfl
      rw [step, count, zpow_negSucc]
      push_cast
      field_simp

theorem Grid.mul_step_eq (k : Int) (d : Nat) :
    ((d * (Grid.ofExponent k).step : Nat) : ℚ) = decimal d k * (Grid.ofExponent k).count := by
  rw [Nat.cast_mul, Grid.step_eq, decimal, ← mul_assoc, ← mul_assoc]

/-- A place on a grid compares with a number of quarter units as its decimal does. -/
theorem Grid.mul_step_le_iff (k : Int) (d n : Nat) :
    d * (Grid.ofExponent k).step ≤ n * (Grid.ofExponent k).count ↔ decimal d k ≤ n := by
  rw [← Nat.cast_le (α := ℚ), Grid.mul_step_eq, Nat.cast_mul]
  exact mul_le_mul_iff_of_pos_right (Nat.cast_pos.mpr (Grid.count_pos k))

theorem Grid.le_mul_step_iff (k : Int) (d n : Nat) :
    n * (Grid.ofExponent k).count ≤ d * (Grid.ofExponent k).step ↔ n ≤ decimal d k := by
  rw [← Nat.cast_le (α := ℚ), Grid.mul_step_eq, Nat.cast_mul]
  exact mul_le_mul_iff_of_pos_right (Nat.cast_pos.mpr (Grid.count_pos k))

theorem Grid.hits_iff (k : Int) (x : Binary64) (d : Nat) :
    (Grid.ofExponent k).hits x d = true ↔ IsRoundedTo (decimal d k) x := by
  have atLeast := Grid.le_mul_step_iff k d x.lowerEnd
  have atMost := Grid.mul_step_le_iff k d x.upperEnd
  have above := (Grid.mul_step_le_iff k d x.lowerEnd).not
  have below := (Grid.le_mul_step_iff k d x.upperEnd).not
  rw [Nat.not_le, not_le] at above below
  by_cases even : x.fraction.val % 2 = 0
  · simp [Grid.hits, IsRoundedTo, even, atLeast, atMost]
  · unfold Grid.hits
    dsimp only
    rw [if_neg even, Bool.and_eq_true, decide_eq_true_eq, decide_eq_true_eq, above, below,
      lt_iff_le_and_ne, lt_iff_le_and_ne]
    exact ⟨fun h => ⟨h.1.1, h.2.1, fun _ => ⟨h.1.2, h.2.2⟩⟩,
      fun h => ⟨⟨h.1, (h.2.2 even).1⟩, h.2.1, (h.2.2 even).2⟩⟩

variable {x y : Binary64}

theorem Grid.hits_of_nearest? {g : Grid} {d : Nat} (h : g.nearest? x = some d) :
    g.hits x d = true := by
  unfold Grid.nearest? at h
  dsimp only at h
  generalize x.quarters * g.count / g.step = e at h
  split at h
  · rename_i here next
    have both : ∀ n, n = e ∨ n = e + 1 → g.hits x n = true := by
      rintro n (rfl | rfl)
      · exact here
      · exact next
    apply both
    split at h
    · cases h
      exact .inl rfl
    · split at h
      · cases h
        exact .inr rfl
      · cases h
        omega
  · cases h
    assumption
  · cases h
    assumption
  · cases h

/-- The grid has a decimal at the number or below it, less than a step from the next one. -/
theorem Grid.exists_neighbours (k : Int) (x : Binary64) :
    ∃ d, decimal d k ≤ x.quarters ∧ (x.quarters : ℚ) < decimal (d + 1) k ∧
      ((Grid.ofExponent k).nearest? x = none →
        ¬IsRoundedTo (decimal d k) x ∧ ¬IsRoundedTo (decimal (d + 1) k) x) := by
  refine ⟨x.quarters * (Grid.ofExponent k).count / (Grid.ofExponent k).step, ?_, ?_, ?_⟩
  · rw [← Grid.mul_step_le_iff]
    exact Nat.div_mul_le_self _ _
  · have stepPos : 0 < (Grid.ofExponent k).step := Grid.step_pos k
    rw [← not_le, ← Grid.mul_step_le_iff, Nat.not_le]
    exact Nat.lt_mul_of_div_lt (Nat.lt_succ_self _) stepPos
  · intro none
    rw [← Grid.hits_iff, ← Grid.hits_iff]
    unfold Grid.nearest? at none
    dsimp only at none
    split at none
    · split at none
      · cases none
      · split at none <;> cases none
    · cases none
    · cases none
    · rename_i here next
      exact ⟨by simp [here], by simp [next]⟩

theorem pow_magnitude_le (pos : 0 < x.units) :
    (10 : ℚ) ^ x.magnitude * unitsOfOne ≤ x.units := by
  unfold magnitude
  split
  · rename_i large
    have whole : 0 < x.units / unitsOfOne := Nat.div_pos large unitsOfOne_pos
    have bound : 10 ^ ((digits (x.units / unitsOfOne)).length - 1) * unitsOfOne ≤ x.units :=
      (Nat.mul_le_mul_right _ (Text.pow_length_digits_le whole)).trans (Nat.div_mul_le_self _ _)
    rw [← Nat.cast_pred (Text.length_digits_pos _), zpow_natCast]
    exact_mod_cast bound
  · have below := Nat.lt_mul_of_div_lt (Text.lt_pow_length_digits ((unitsOfOne - 1) / x.units)) pos
    have bound : unitsOfOne ≤ 10 ^ (digits ((unitsOfOne - 1) / x.units)).length * x.units := by
      omega
    rw [zpow_neg, zpow_natCast, inv_mul_le_iff₀ (by positivity)]
    exact_mod_cast bound

/-- An interval is wider than the 10¹⁶th part of its number. -/
theorem quarters_lt_width (pos : 0 < x.units) :
    x.quarters + 10 ^ 16 * x.lowerEnd < 10 ^ 16 * x.upperEnd := by
  have stepPos : 0 < 2 ^ x.shift := Nat.two_pow_pos _
  have low := Nat.mul_le_mul_right (2 ^ x.shift) (significand_pos pos)
  rw [upperEnd_eq, lowerEnd_eq, quarters_eq]
  by_cases first : x.fraction.val = 0 ∧ 1 < x.exponent.val
  · -- Below a power of two the spacing is half of that above it.
    rw [if_pos first, significand_of_pos (by omega), first.1]
    generalize 2 ^ x.shift = step at *
    simp only [leadingOne]
    omega
  · have high := Nat.mul_le_mul_right (2 ^ x.shift) (Nat.le_sub_one_of_lt x.significand_lt)
    rw [if_neg first]
    generalize 2 ^ x.shift = step at *
    generalize x.significand * step = value at *
    simp only [leadingOne] at *
    omega

theorem decimal_succ (d : Nat) (k : Int) : decimal (d + 1) k = decimal d k + decimal 1 k := by
  unfold decimal
  push_cast
  ring

/-- The spacing of seventeen digits is less than the width of any rounding interval. -/
theorem nearest?_seventeen (pos : 0 < x.units) :
    (Grid.ofExponent (x.magnitude - 16)).nearest? x ≠ none := by
  intro none
  obtain ⟨d, atMost, above, misses⟩ := Grid.exists_neighbours (x.magnitude - 16) x
  obtain ⟨below, next⟩ := misses none
  have width : (x.quarters : ℚ) + 10 ^ 16 * x.lowerEnd < 10 ^ 16 * x.upperEnd := by
    exact_mod_cast quarters_lt_width pos
  have spacing : decimal 1 (x.magnitude - 16) * 10 ^ 16 ≤ x.quarters := by
    have bound := pow_magnitude_le pos
    have split : (10 : ℚ) ^ x.magnitude = 10 ^ (x.magnitude - 16) * 10 ^ 16 := by
      rw [← zpow_natCast, ← zpow_add₀ (by norm_num)]
      norm_num
    rw [split] at bound
    rw [decimal, quarters]
    push_cast
    linarith
  obtain ⟨-, start, stop⟩ := ends_around pos
  have start : (x.lowerEnd : ℚ) < x.quarters := Nat.cast_lt.mpr start
  have stop : (x.quarters : ℚ) < x.upperEnd := Nat.cast_lt.mpr stop
  have left : decimal d (x.magnitude - 16) ≤ x.lowerEnd := by
    by_contra inside
    rw [not_le] at inside
    have strict := atMost.trans_lt stop
    exact below ⟨inside.le, strict.le, fun _ => ⟨inside.ne, strict.ne⟩⟩
  have right : (x.upperEnd : ℚ) ≤ decimal (d + 1) (x.magnitude - 16) := by
    by_contra inside
    rw [not_le] at inside
    have strict := start.trans above
    exact next ⟨strict.le, inside.le, fun _ => ⟨strict.ne, inside.ne⟩⟩
  rw [decimal_succ] at right
  linarith

/-- The search comes to the first grid that has a decimal rounding to the number. -/
theorem searchGrids_of_nearest? {length fuel i : Nat} (more : i < fuel)
    (found : (Grid.ofExponent (x.magnitude - (length + i : Nat) + 1)).nearest? x ≠ none) :
    (Grid.ofExponent (searchGrids x length fuel).2).nearest? x =
      some (searchGrids x length fuel).1 := by
  induction fuel generalizing length i with
  | zero => exact absurd more (Nat.not_lt_zero i)
  | succ fuel ih =>
      unfold searchGrids
      dsimp only
      split
      · rename_i d here
        rw [Grid.exponent_ofExponent]
        exact here
      · rename_i nothing
        cases i with
        | zero => exact absurd nothing found
        | succ i =>
            refine ih (Nat.lt_of_succ_lt_succ more) ?_
            rwa [Nat.add_assoc, Nat.add_comm 1 i]

/-- The shortest decimal rounds to the number it is made for. -/
theorem exists_shortest (pos : 0 < x.units) :
    ∃ d k, 0 < d ∧ IsRoundedTo (decimal d k) x ∧
      x.shortest = (dropTrailingZeros (digits d), k + (digits d).length - 1) := by
  have found : (Grid.ofExponent (x.magnitude - (1 + 16 : Nat) + 1)).nearest? x ≠ none := by
    have last : x.magnitude - (1 + 16 : Nat) + 1 = x.magnitude - 16 := by omega
    rw [last]
    exact nearest?_seventeen pos
  have nearest := searchGrids_of_nearest? (show 16 < maxDigits by decide) found
  have rounded := (Grid.hits_iff _ _ _).mp (Grid.hits_of_nearest? nearest)
  refine ⟨_, _, Nat.pos_of_ne_zero fun none => ?_, rounded, rfl⟩
  have positive : (0 : ℚ) < x.lowerEnd := Nat.cast_pos.mpr (ends_around pos).1
  have atLeast := rounded.1
  rw [none, decimal, Nat.cast_zero, zero_mul, zero_mul] at atLeast
  exact absurd atLeast (not_le.mpr positive)

theorem eq_dropTrailingZeros_append (ds : List Char) :
    ∃ zeros, ds = dropTrailingZeros ds ++ List.replicate zeros '0' := by
  have zeros : ∀ c ∈ (ds.reverse.takeWhile (· == '0')).reverse, c = '0' := by
    intro c mem
    have isZero := List.mem_takeWhile_imp (List.mem_reverse.mp mem)
    exact eq_of_beq isZero
  refine ⟨(ds.reverse.takeWhile (· == '0')).reverse.length, ?_⟩
  rw [← List.eq_replicate_of_mem zeros, dropTrailingZeros, ← List.reverse_append,
    List.takeWhile_append_dropWhile, List.reverse_reverse]

theorem decimal_eq_of_append {d e zeros : Nat} {k : Int} (pos : 0 < d)
    (longer : digits e = digits d ++ List.replicate zeros '0') :
    decimal d (k + zeros) = decimal e k := by
  rw [← Text.digits_mul_pow pos] at longer
  rw [Text.digits_inj longer, decimal, decimal, zpow_add₀ (by norm_num), zpow_natCast]
  push_cast
  ring

/-- A decimal is told by its digits, up to zeros at the end, and the power of its first digit. -/
theorem decimal_eq_of_digits {d e : Nat} {j k : Int} (hd : 0 < d) (he : 0 < e)
    (sameDigits : dropTrailingZeros (digits d) = dropTrailingZeros (digits e))
    (samePower : j + (digits d).length = k + (digits e).length) : decimal d j = decimal e k := by
  obtain ⟨a, dDigits⟩ := eq_dropTrailingZeros_append (digits d)
  obtain ⟨b, eDigits⟩ := eq_dropTrailingZeros_append (digits e)
  rw [← sameDigits] at eDigits
  generalize dropTrailingZeros (digits d) = ds at *
  obtain fewer | fewer := Nat.le_total a b
  · obtain ⟨more, rfl⟩ := Nat.exists_eq_add_of_le fewer
    rw [List.replicate_add, ← List.append_assoc, ← dDigits] at eDigits
    have power : j = k + more := by
      rw [eDigits, List.length_append, List.length_replicate] at samePower
      omega
    rw [power]
    exact decimal_eq_of_append hd eDigits
  · obtain ⟨more, rfl⟩ := Nat.exists_eq_add_of_le fewer
    rw [List.replicate_add, ← List.append_assoc, ← eDigits] at dDigits
    have power : k = j + more := by
      rw [dDigits, List.length_append, List.length_replicate] at samePower
      omega
    rw [power]
    exact (decimal_eq_of_append he dDigits).symm

/-- The magnitude can be read from the shortest decimal. -/
theorem bits_eq_of_shortest (hx : 0 < x.units) (hy : 0 < y.units)
    (same : x.shortest = y.shortest) : x.bits = y.bits := by
  obtain ⟨d, j, dPos, dRounded, xShortest⟩ := exists_shortest hx
  obtain ⟨e, k, ePos, eRounded, yShortest⟩ := exists_shortest hy
  rw [xShortest, yShortest, Prod.mk.injEq] at same
  have samePower : j + (digits d).length = k + (digits e).length := by omega
  rw [decimal_eq_of_digits dPos ePos same.1 samePower] at dRounded
  exact dRounded.bits_eq eRounded

end Binary64
end StreamPipelines
