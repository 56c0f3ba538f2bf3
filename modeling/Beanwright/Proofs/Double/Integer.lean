import Beanwright.Proofs.Double.Nearest

/-!
# Integers rounded to doubles

An integer that is the value of a double is not passed when other integers are rounded, so a bound
that is such an integer separates the same integers before and after rounding as long as its
neighbour is one too. Above `2 ^ 63` only each 2048th integer is the value of a double. There the
bound moves to the middle between two of them, and the middle itself goes to the even one.
-/

namespace Beanwright.Double

variable {integer rounded bound factor : Int}

/-- An integer is the value of a double. -/
def IsRepresentable (integer : Int) : Prop :=
  ∃ number : Double, number.IsFinite ∧ number.value = integer

/-- An integer is rounded to the value of the double nearest to it. -/
def RoundsTo (integer rounded : Int) : Prop :=
  ∃ number : Double, number.IsNearest integer ∧ number.value = rounded

theorem IsRepresentable.neg (representable : IsRepresentable integer) :
    IsRepresentable (-integer) := by
  obtain ⟨number, finite, value⟩ := representable
  exact ⟨number.opposite, finite.opposite, by rw [value_opposite, value, Int.cast_neg]⟩

/-- A multiple of a power of two is the value of a double if its factor has few digits. -/
theorem isRepresentable_mul {places : Nat} (few : factor.natAbs ≤ twoTo 53) (small : places ≤ 970) :
    IsRepresentable (factor * twoTo places) := by
  have natural (mantissa : Nat) (fits : mantissa ≤ twoTo 53) :
      IsRepresentable (mantissa * twoTo places) :=
    ⟨carried mantissa places, isFinite_carried fits (by omega) (by omega),
      value_carried_natCast mantissa places⟩
  obtain ⟨mantissa, rfl | rfl⟩ := factor.eq_nat_or_neg
  · exact natural mantissa (by omega)
  · rw [Int.neg_mul]
    exact (natural mantissa (by omega)).neg

/-- From `2 ^ 63` to `2 ^ 64`, each 2048th integer is the value of a double. -/
theorem isRepresentable_mul_places (lower : twoTo 52 ≤ factor) (upper : factor ≤ twoTo 53) :
    IsRepresentable (factor * 2048) :=
  @isRepresentable_mul factor 11 (by omega) (by omega)

theorem isRepresentable_of_le (few : integer.natAbs ≤ twoTo 53) : IsRepresentable integer := by
  have whole := @isRepresentable_mul integer 0 few (by omega)
  rwa [twoTo_zero, Int.natCast_one, Int.mul_one] at whole

namespace RoundsTo

/-! ## Bounds that stay -/

theorem le_rounded (rounds : RoundsTo integer rounded) (representable : IsRepresentable bound)
    (below : bound ≤ integer) : bound ≤ rounded := by
  obtain ⟨number, nearest, value⟩ := rounds
  obtain ⟨other, finite, otherValue⟩ := representable
  have found := nearest.le_value finite (by rw [otherValue]; exact_mod_cast below)
  rw [value, otherValue] at found
  exact_mod_cast found

theorem rounded_le (rounds : RoundsTo integer rounded) (representable : IsRepresentable bound)
    (above : integer ≤ bound) : rounded ≤ bound := by
  obtain ⟨number, nearest, value⟩ := rounds
  obtain ⟨other, finite, otherValue⟩ := representable
  have found := nearest.value_le finite (by rw [otherValue]; exact_mod_cast above)
  rw [value, otherValue] at found
  exact_mod_cast found

/-- A bound separates the same integers before and after rounding if rounding does not pass it or
the integer below it. -/
theorem le_rounded_iff (rounds : RoundsTo integer rounded) (representable : IsRepresentable bound)
    (below : IsRepresentable (bound - 1)) : bound ≤ rounded ↔ bound ≤ integer := by
  refine ⟨fun kept => ?_, rounds.le_rounded representable⟩
  by_contra passed
  have stays := rounds.rounded_le below (by omega)
  omega

/-! ## Bounds that move -/

/-- No value of a double is nearer. -/
theorem abs_sub_le (rounds : RoundsTo integer rounded) (representable : IsRepresentable bound) :
    |rounded - integer| ≤ |bound - integer| := by
  obtain ⟨number, nearest, value⟩ := rounds
  obtain ⟨other, finite, otherValue⟩ := representable
  have near := nearest.nearest other finite
  rw [value, otherValue] at near
  exact_mod_cast near

/-- From `2 ^ 63` on, an integer is rounded to a multiple of 2048, an even one on a tie. -/
theorem exists_multiple (rounds : RoundsTo integer rounded) (large : twoTo 63 ≤ rounded) :
    ∃ factor : Int, rounded = factor * 2048 ∧ ∀ bound, IsRepresentable bound →
      |bound - integer| = |rounded - integer| → bound ≠ rounded → factor % 2 = 0 := by
  obtain ⟨number, nearest, value⟩ := rounds
  have enough : ((11 : Nat) : Int) ≤ number.exponent := by
    by_contra fewer
    have small := nearest.finite.abs_value_lt (Int.not_le.mp fewer)
    rw [value, ← cast_twoTo, ← Int.cast_natCast, ← Int.cast_abs, Int.cast_lt] at small
    exact absurd (large.trans (le_abs_self rounded)) (Int.not_le.mpr small)
  obtain ⟨factor, multiple, divides⟩ := Double.exists_multiple enough
  rw [value, Int.cast_inj] at multiple
  refine ⟨factor, multiple, ?_⟩
  rintro bound ⟨other, finite, otherValue⟩ tie differs
  have even : number.mantissa % 2 = 0 := by
    refine nearest.even other finite ?_ ?_
    · rw [value, otherValue]
      exact_mod_cast tie
    · rw [value, otherValue]
      exact_mod_cast differs
  have two : ((2 : Nat) : Int) ∣ number.signedMantissa := by
    rw [Int.natCast_dvd, natAbs_signedMantissa]
    exact Nat.dvd_of_mod_eq_zero even
  exact Int.emod_eq_zero_of_dvd (two.trans divides)

section

variable (lower : twoTo 52 ≤ factor) (upper : factor + 1 ≤ twoTo 53)

include lower upper

/-- An integer between two multiples of 2048 is rounded to the nearer one, and the middle between
them to the even one. -/
theorem nearer_multiple (rounds : RoundsTo integer rounded) (above : factor * 2048 ≤ integer)
    (below : integer ≤ (factor + 1) * 2048) :
    rounded = factor * 2048 ∧
        (integer < factor * 2048 + 1024 ∨ integer = factor * 2048 + 1024 ∧ factor % 2 = 0) ∨
      rounded = (factor + 1) * 2048 ∧
        (factor * 2048 + 1024 < integer ∨ integer = factor * 2048 + 1024 ∧ factor % 2 = 1) := by
  have full : twoTo 63 = twoTo 52 * 2048 := rfl
  have representable := isRepresentable_mul_places lower (by omega)
  have nextRepresentable := isRepresentable_mul_places (show twoTo 52 ≤ factor + 1 by omega) upper
  have reached := rounds.le_rounded representable above
  have stopped := rounds.rounded_le nextRepresentable below
  have near := rounds.abs_sub_le representable
  have nextNear := rounds.abs_sub_le nextRepresentable
  -- Between the two multiples there is no other one, so the rounded integer is one of them.
  obtain ⟨multiple, rfl, even⟩ := rounds.exists_multiple (by omega)
  have lowerTie := even _ representable
  have upperTie := even _ nextRepresentable
  rw [Int.abs_eq_natAbs, Int.abs_eq_natAbs] at near nextNear lowerTie upperTie
  omega

/-- The middle between two multiples of 2048 decides on which side an integer comes to lie. -/
theorem le_or_le_of_middle (rounds : RoundsTo integer rounded) :
    rounded ≤ factor * 2048 ∧
        (integer < factor * 2048 + 1024 ∨ integer = factor * 2048 + 1024 ∧ factor % 2 = 0) ∨
      (factor + 1) * 2048 ≤ rounded ∧
        (factor * 2048 + 1024 < integer ∨ integer = factor * 2048 + 1024 ∧ factor % 2 = 1) := by
  rcases Int.lt_or_le integer (factor * 2048) with lesser | above
  · have := rounds.rounded_le (isRepresentable_mul_places lower (by omega)) (by omega)
    omega
  rcases Int.lt_or_le ((factor + 1) * 2048) integer with greater | below
  · have next := isRepresentable_mul_places (show twoTo 52 ≤ factor + 1 by omega) upper
    have := rounds.le_rounded next (by omega)
    omega
  · have := rounds.nearer_multiple lower upper above below
    omega

/-- Below the multiple after an odd one, the middle is rounded up. -/
theorem lt_iff_of_odd (rounds : RoundsTo integer rounded) (odd : factor % 2 = 1) :
    rounded < (factor + 1) * 2048 ↔ integer < factor * 2048 + 1024 := by
  have := rounds.le_or_le_of_middle lower upper
  omega

/-- From an even multiple of 2048 to the next one, the middle is rounded down. -/
theorem le_iff_of_even (rounds : RoundsTo integer rounded) (even : factor % 2 = 0) :
    rounded ≤ factor * 2048 ↔ integer ≤ factor * 2048 + 1024 := by
  have := rounds.le_or_le_of_middle lower upper
  omega

end

end RoundsTo

end Beanwright.Double
