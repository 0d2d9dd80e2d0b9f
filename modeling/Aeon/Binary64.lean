import Mathlib.Data.Int.Log
import Mathlib.Data.Rat.Floor
import Mathlib.Tactic.NormNum
import Mathlib.Tactic.Positivity

namespace Aeon.Binary64

/-!
# Finite binary64 numbers

A finite double is the rational number it stands for.  `nearest` rounds a rational
to the nearest double, ties to even, with no result where the C library reports a
range error.  This module names nothing of the program.
-/

/-- The nearest integer, a tie to the even one. -/
def roundHalfEven (value : ℚ) : ℤ :=
  let below := ⌊value⌋
  let part := value - below
  if part < 1 / 2 then below
  else if 1 / 2 < part then below + 1
  else if below % 2 = 0 then below
  else below + 1

@[simp] theorem roundHalfEven_intCast (value : ℤ) :
    roundHalfEven (value : ℚ) = value := by
  simp [roundHalfEven]

/-- The exponent of the double nearest to a number: no subnormal has a smaller one. -/
def exponent (value : ℚ) : ℤ :=
  max (Int.log 2 |value|) (-1022)

/-- One unit in the last of the 53 places. -/
def ulp (value : ℚ) : ℚ :=
  2 ^ (exponent value - 52)

/-- The double nearest to a number; `none` on overflow and on inexact underflow. -/
def nearest (value : ℚ) : Option ℚ :=
  if value = 0 then some 0
  else
    let rounded := roundHalfEven (value / ulp value) * ulp value
    if 2 ^ 1024 ≤ |rounded| then none
    else if |value| < 2 ^ (-1022 : ℤ) ∧ rounded ≠ value then none
    else some rounded

/-- The exponent of a natural number is below its width. -/
theorem exponent_natCast
    {value width : Nat}
    (positive : value ≠ 0)
    (small : value < 2 ^ width) :
    0 ≤ exponent (value : ℚ) ∧ exponent (value : ℚ) < width := by
  have magnitude : |(value : ℚ)| = value := abs_of_nonneg (Nat.cast_nonneg value)
  have log_lt := Nat.log_lt_of_lt_pow positive small
  rw [exponent, magnitude, Int.log_natCast]
  omega

/-- A number that fits in 53 places is a double. -/
theorem nearest_natCast
    {value : Nat}
    (small : value < 2 ^ 53) :
    nearest (value : ℚ) = some (value : ℚ) := by
  by_cases zero : value = 0
  · simp [nearest, zero]
  have nonzero : (value : ℚ) ≠ 0 := Nat.cast_ne_zero.mpr zero
  obtain ⟨-, narrow⟩ := exponent_natCast zero small
  have unit_pos : 0 < ulp (value : ℚ) := zpow_pos (by norm_num) _
  -- The unit divides the number, so the rounding has nothing to do.
  obtain ⟨places, places_eq⟩ : ∃ places : Nat,
      (places : ℤ) = 52 - exponent (value : ℚ) :=
    ⟨(52 - exponent (value : ℚ)).toNat, Int.toNat_of_nonneg (by omega)⟩
  have quotient : (value : ℚ) / ulp (value : ℚ) =
      ((value * 2 ^ places : ℕ) : ℤ) := by
    have unit : ulp (value : ℚ) = ((2 : ℚ) ^ places)⁻¹ := by
      rw [ulp, ← zpow_natCast, ← zpow_neg, places_eq]
      congr 1
      omega
    rw [unit, div_inv_eq_mul]
    push_cast
    rfl
  have rounded : (roundHalfEven ((value : ℚ) / ulp (value : ℚ)) : ℚ) *
      ulp (value : ℚ) = value := by
    rw [quotient, roundHalfEven_intCast, ← quotient,
      div_mul_cancel₀ _ unit_pos.ne']
  have bounded : ¬ (2 : ℚ) ^ 1024 ≤ |(value : ℚ)| := by
    rw [abs_of_nonneg (Nat.cast_nonneg value), not_le]
    calc (value : ℚ) < 2 ^ 53 := by exact_mod_cast small
      _ ≤ 2 ^ 1024 := pow_le_pow_right₀ (by norm_num) (by norm_num)
  simp only [nearest, nonzero, if_false, rounded, bounded, ne_eq, not_true,
    and_false]

/-- A power of two in range is a number of the format. -/
theorem nearest_two_pow
    {power : Nat}
    (small : power < 1024) :
    nearest (2 ^ power) = some (2 ^ power) := by
  have nonzero : (2 : ℚ) ^ power ≠ 0 := by positivity
  have magnitude : |(2 : ℚ) ^ power| = 2 ^ power := abs_of_pos (by positivity)
  have places : exponent (2 ^ power) = power := by
    have log := Int.log_zpow (R := ℚ) (by norm_num : 1 < 2) power
    rw [Nat.cast_ofNat, zpow_natCast] at log
    rw [exponent, magnitude, log]
    omega
  have unit_pos : 0 < ulp ((2 : ℚ) ^ power) := zpow_pos (by norm_num) _
  have quotient : (2 : ℚ) ^ power / ulp (2 ^ power) = ((2 ^ 52 : ℤ) : ℚ) := by
    rw [ulp, places, ← zpow_natCast, ← zpow_sub₀ (by norm_num)]
    norm_num
  have rounded : (roundHalfEven ((2 : ℚ) ^ power / ulp (2 ^ power)) : ℚ) *
      ulp (2 ^ power) = 2 ^ power := by
    rw [quotient, roundHalfEven_intCast, ← quotient, div_mul_cancel₀ _ unit_pos.ne']
  have bounded : ¬ (2 : ℚ) ^ 1024 ≤ 2 ^ power := by
    rw [not_le]
    exact pow_lt_pow_right₀ (by norm_num) small
  simp only [nearest, nonzero, if_false, rounded, magnitude, bounded, ne_eq, not_true,
    and_false]

/-- Rounding does not cross an integer. -/
theorem le_roundHalfEven
    {bound : ℤ}
    {value : ℚ}
    (above : (bound : ℚ) ≤ value) :
    bound ≤ roundHalfEven value := by
  have below : bound ≤ ⌊value⌋ := Int.le_floor.mpr above
  unfold roundHalfEven
  simp only
  split
  · exact below
  · split
    · omega
    · split <;> omega

/-- Rounding does not pass an integer bound. -/
theorem roundHalfEven_le
    {bound : ℤ}
    {value : ℚ}
    (below : value ≤ bound) :
    roundHalfEven value ≤ bound := by
  have floor : ⌊value⌋ ≤ bound := by
    exact_mod_cast (Int.floor_le value).trans below
  -- A number with a fraction is below the bound, and so is the next integer.
  have next (fraction : 1 / 2 ≤ value - ⌊value⌋) : ⌊value⌋ + 1 ≤ bound := by
    have strict : (⌊value⌋ : ℚ) < bound := by linarith
    have less : ⌊value⌋ < bound := by exact_mod_cast strict
    omega
  unfold roundHalfEven
  simp only
  split
  · exact floor
  · next large =>
      have fraction := next (not_lt.mp large)
      split
      · exact fraction
      · split
        · exact floor
        · exact fraction

/-- A number that is neither tiny nor huge is rounded to a double. -/
theorem nearest_isSome
    {value : ℚ}
    (above : 1 ≤ |value|)
    (below : |value| < 2 ^ 1023) :
    (nearest value).isSome := by
  have positive : 0 < |value| := lt_of_lt_of_le one_pos above
  have nonzero : value ≠ 0 := abs_pos.mp positive
  have logLower : 0 ≤ Int.log 2 |value| := by
    rw [← Int.zpow_le_iff_le_log (by norm_num) positive]
    simpa using above
  have logUpper : Int.log 2 |value| < 1023 := by
    rw [← Int.lt_zpow_iff_log_lt (by norm_num) positive]
    exact_mod_cast below
  have places : exponent value = Int.log 2 |value| := by
    rw [exponent]
    omega
  have unit_pos : 0 < ulp value := zpow_pos (by norm_num) _
  have largest : (2 ^ 53 : ℚ) * ulp value < 2 ^ 1024 := by
    rw [ulp, places]
    calc (2 ^ 53 : ℚ) * 2 ^ (Int.log 2 |value| - 52)
        = 2 ^ (53 : ℤ) * 2 ^ (Int.log 2 |value| - 52) := by norm_num
      _ = 2 ^ (Int.log 2 |value| + 1) := by
          rw [← zpow_add₀ (by norm_num)]
          congr 1
          omega
      _ < 2 ^ (1024 : ℤ) := zpow_lt_zpow_right₀ (by norm_num) (by omega)
      _ = 2 ^ 1024 := zpow_natCast 2 1024
  -- In units of the last place the number is below `2^53`.
  have units : |value / ulp value| ≤ ((2 ^ 53 : ℤ) : ℚ) := by
    rw [abs_div, abs_of_pos unit_pos, div_le_iff₀ unit_pos, ulp, places]
    have bound := (Int.lt_zpow_succ_log_self (R := ℚ) (by norm_num : 1 < 2) |value|).le
    calc |value| ≤ 2 ^ (Int.log 2 |value| + 1) := by exact_mod_cast bound
      _ = 2 ^ (53 : ℤ) * 2 ^ (Int.log 2 |value| - 52) := by
          rw [← zpow_add₀ (by norm_num)]
          congr 1
          omega
      _ = ((2 ^ 53 : ℤ) : ℚ) * 2 ^ (Int.log 2 |value| - 52) := by norm_num
  obtain ⟨lower, upper⟩ := abs_le.mp units
  have whole : |(roundHalfEven (value / ulp value) : ℚ)| ≤ 2 ^ 53 := by
    rw [abs_le]
    have low : -(2 ^ 53 : ℤ) ≤ roundHalfEven (value / ulp value) :=
      le_roundHalfEven (by push_cast at lower ⊢; exact lower)
    have high := roundHalfEven_le upper
    constructor
    · exact_mod_cast low
    · exact_mod_cast high
  have inRange : ¬ 2 ^ 1024 ≤ |roundHalfEven (value / ulp value) * ulp value| := by
    rw [not_le, abs_mul, abs_of_pos unit_pos]
    exact lt_of_le_of_lt (mul_le_mul_of_nonneg_right whole unit_pos.le) largest
  have normal : ¬ |value| < 2 ^ (-1022 : ℤ) := by
    rw [not_lt]
    exact (zpow_le_one_of_nonpos₀ (by norm_num) (by norm_num)).trans above
  simp only [nearest, nonzero, inRange, normal, if_false, false_and, Option.isSome_some]

end Aeon.Binary64
