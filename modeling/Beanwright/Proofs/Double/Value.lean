import Mathlib.Algebra.Order.Field.Power
import Mathlib.Algebra.Order.Ring.Rat
import Mathlib.Data.Int.Cast.Lemmas
import Beanwright.Double.Basic

/-!
# The value of a double

A double stands for a rational number, its mantissa with a sign times a power of two. Doubles are
compared, and read as integers, by numbers that are scaled to a common exponent; what comes out is
what the values say.
-/

namespace Beanwright.Double

variable {number first second : Double} {exponent integer : Int}

/-- The mantissa of a double with its sign. -/
def signedMantissa (number : Double) : Int :=
  if number.negative then -number.mantissa else number.mantissa

/-- The value of a double. -/
def value (number : Double) : ℚ := number.signedMantissa * 2 ^ number.exponent

@[simp] theorem natAbs_signedMantissa (number : Double) :
    number.signedMantissa.natAbs = number.mantissa := by
  rw [signedMantissa]
  split <;> simp

theorem cast_twoTo (exponent : Nat) : ((twoTo exponent : Nat) : ℚ) = 2 ^ exponent :=
  Nat.cast_pow 2 exponent

/-! ## Comparison -/

theorem scaled_eq (number : Double) (exponent : Int) : number.scaled exponent =
    number.signedMantissa * twoTo (number.exponent - exponent).toNat := by
  rw [scaled, signedMantissa]
  split
  · rw [Int.neg_mul]
  · rfl

theorem cast_scaled (lower : exponent ≤ number.exponent) :
    (number.scaled exponent : ℚ) = number.value * 2 ^ (-exponent) := by
  have difference : ((number.exponent - exponent).toNat : Int) = number.exponent + -exponent := by
    omega
  rw [scaled_eq, Int.cast_mul, Int.cast_natCast, cast_twoTo, ← zpow_natCast, difference,
    zpow_add₀ two_ne_zero, value, mul_assoc]

/-- Two doubles are the same number if they have the same value. -/
theorem same_iff : first.same second = true ↔ first.value = second.value := by
  have lowerFirst : min first.exponent second.exponent ≤ first.exponent := Int.min_le_left _ _
  have lowerSecond : min first.exponent second.exponent ≤ second.exponent := Int.min_le_right _ _
  have nonzero : (2 : ℚ) ^ (-min first.exponent second.exponent) ≠ 0 :=
    zpow_ne_zero _ two_ne_zero
  rw [same, beq_iff_eq, ← Int.cast_inj (α := ℚ), cast_scaled lowerFirst, cast_scaled lowerSecond,
    mul_left_inj' nonzero]

/-! ## Integers -/

/-- A double below one in its last place is an integer if its mantissa is a multiple of the places
behind the point. -/
theorem value_eq_intCast_iff (below : number.exponent < 0) : number.value = integer ↔
    number.signedMantissa = integer * twoTo (-number.exponent).toNat := by
  have places : ((-number.exponent).toNat : Int) = -number.exponent := by omega
  have power : (2 : ℚ) ^ number.exponent * (twoTo (-number.exponent).toNat : Nat) = 1 := by
    rw [cast_twoTo, ← zpow_natCast, places, ← zpow_add₀ two_ne_zero, Int.add_right_neg,
      zpow_zero]
  have nonzero : ((twoTo (-number.exponent).toNat : Nat) : ℚ) ≠ 0 :=
    Nat.cast_ne_zero.mpr (Nat.ne_of_gt (twoTo_pos _))
  rw [← Int.cast_inj (α := ℚ), Int.cast_mul, Int.cast_natCast, value, ← mul_left_inj' nonzero,
    mul_assoc, power, mul_one]

/-- A double is read as an integer exactly if its value is that integer. -/
theorem toInt?_eq_some_iff : number.toInt? = some integer ↔ number.value = integer := by
  rw [toInt?]
  split
  · next above =>
    rw [Option.some_inj, ← Int.cast_inj (α := ℚ), cast_scaled above, Int.neg_zero, zpow_zero,
      mul_one]
  · next below =>
    rw [value_eq_intCast_iff (Int.not_le.mp below)]
    generalize scaleEq : twoTo (-number.exponent).toNat = scale
    have nonzero : (scale : Int) ≠ 0 := by
      rw [← scaleEq, Int.natCast_ne_zero]
      exact Nat.ne_of_gt (twoTo_pos _)
    split
    · next divides =>
      have multiple : (number.mantissa : Int) / scale * scale = number.mantissa := by
        exact_mod_cast Nat.div_mul_cancel (Nat.dvd_of_mod_eq_zero divides)
      have signed : number.signedMantissa = (if number.negative then
          -((number.mantissa : Int) / scale) else (number.mantissa : Int) / scale) * scale := by
        rw [signedMantissa]
        split
        · rw [Int.neg_mul, multiple]
        · rw [multiple]
      rw [signed, Option.some_inj, Int.mul_eq_mul_right_iff nonzero]
    · next indivisible =>
      refine iff_of_false (by rintro ⟨⟩) fun equal => indivisible ?_
      have divides : (scale : Int) ∣ number.signedMantissa := ⟨integer, by rw [equal, Int.mul_comm]⟩
      rw [Int.natCast_dvd, natAbs_signedMantissa] at divides
      exact Nat.mod_eq_zero_of_dvd divides

end Beanwright.Double
