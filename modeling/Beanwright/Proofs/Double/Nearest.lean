import Mathlib.Algebra.Order.Ring.Abs
import Mathlib.Tactic.Linarith
import Beanwright.Proofs.Double.Value

/-!
# The nearest double

A quotient is rounded to an integer that is nearest to it, the even one on a tie. An integer of more
than 53 binary digits is rounded to a multiple of the power of two that leaves it 53 of them, and no
other double is nearer: doubles with a greater power are multiples of the same power, and doubles
with a smaller one are too small.

## Main definitions

* `Double.IsNearest` — a double is the nearest one to a number, with an even mantissa on a tie

## Main results

* `Double.roundHalfEven_nearest` — a rounded quotient is nearest, and even on a tie
* `Double.isNearest_ofInt` — an integer is rounded to the nearest double, which is an integer
* `Double.IsNearest.le_value`, `Double.IsNearest.value_le` — rounding does not pass a double
-/

namespace Beanwright.Double

variable {number other : Double} {target : ℚ} {integer exponent : Int}
  {numerator denominator whole : Nat}

/-! ## The nearest double -/

/-- A double of the format. -/
structure IsFinite (number : Double) : Prop where
  /-- The mantissa has at most 53 binary digits. -/
  mantissa : number.mantissa < twoTo 53
  /-- The least exponent. -/
  least : -1074 ≤ number.exponent
  /-- The greatest exponent. -/
  greatest : number.exponent ≤ 971

/-- A double is the nearest one to a number, with an even mantissa on a tie. -/
structure IsNearest (number : Double) (target : ℚ) : Prop where
  /-- It is a double of the format. -/
  finite : number.IsFinite
  /-- Its mantissa has all its digits, unless the exponent is the least one. -/
  normal : twoTo 52 ≤ number.mantissa ∨ number.exponent = -1074
  /-- No double is nearer. -/
  nearest : ∀ other : Double, other.IsFinite → |number.value - target| ≤ |other.value - target|
  /-- If another one is as near, its mantissa is even. -/
  even : ∀ other : Double, other.IsFinite → |other.value - target| = |number.value - target| →
    other.value ≠ number.value → number.mantissa % 2 = 0

/-- A double is the nearest one to its own value. -/
theorem IsNearest.of_value_eq (finite : number.IsFinite)
    (normal : twoTo 52 ≤ number.mantissa ∨ number.exponent = -1074)
    (equal : number.value = target) : number.IsNearest target where
  finite := finite
  normal := normal
  nearest other _ := by
    rw [equal, sub_self, abs_zero]
    exact abs_nonneg _
  even other _ tie differs := by
    rw [equal, sub_self, abs_zero, abs_eq_zero, sub_eq_zero, ← equal] at tie
    exact absurd tie differs

/-! ## Opposite numbers -/

/-- The double with the other sign. -/
def opposite (number : Double) : Double := { number with negative := !number.negative }

@[simp] theorem value_opposite (number : Double) : number.opposite.value = -number.value := by
  rw [value, value, signedMantissa, signedMantissa, opposite, ← neg_mul]
  cases number.negative <;> simp

theorem IsFinite.opposite (finite : number.IsFinite) : number.opposite.IsFinite :=
  ⟨finite.mantissa, finite.least, finite.greatest⟩

theorem abs_opposite_sub (number : Double) (target : ℚ) :
    |number.opposite.value - target| = |number.value - -target| := by
  rw [value_opposite, ← abs_neg]
  rw [neg_sub, sub_neg_eq_add, sub_neg_eq_add, add_comm]

theorem IsNearest.opposite (nearest : number.IsNearest target) :
    number.opposite.IsNearest (-target) where
  finite := nearest.finite.opposite
  normal := nearest.normal
  nearest other finite := by
    have found := nearest.nearest other.opposite finite.opposite
    rw [abs_opposite_sub] at found
    rwa [abs_opposite_sub, neg_neg]
  even other finite tie differs := by
    rw [abs_opposite_sub, neg_neg] at tie
    rw [← abs_opposite_sub] at tie
    refine nearest.even other.opposite finite.opposite tie ?_
    rw [value_opposite] at differs ⊢
    exact fun equal => differs (by rw [← equal, neg_neg])

theorem nearest_true (numerator denominator : Nat) : nearest true numerator denominator =
    (nearest false numerator denominator).map opposite := by
  unfold nearest
  split
  · rfl
  · dsimp only
    split_ifs <;> rfl

/-! ## Rounding a quotient -/

/-- The integer below a quotient is taken if it is nearer, or else the one above it. If both are as
near, the even one is taken. -/
theorem roundHalfEven_cases (numerator : Nat) (positive : 0 < denominator) :
    ∃ quotient rest : Nat, numerator = quotient * denominator + rest ∧ rest < denominator ∧
      (roundHalfEven numerator denominator = quotient ∧ 2 * rest < denominator ∨
        roundHalfEven numerator denominator = quotient + 1 ∧ denominator < 2 * rest ∨
        roundHalfEven numerator denominator = quotient + quotient % 2 ∧
          2 * rest = denominator) := by
  refine ⟨numerator / denominator, numerator % denominator, ?_, Nat.mod_lt _ positive, ?_⟩
  · rw [Nat.mul_comm, Nat.div_add_mod]
  · rw [roundHalfEven]
    split_ifs <;> omega

/-- A multiple is at or below the quotient, or at or above the next integer. -/
theorem mul_le_or_le_mul (quotient factor : Int) (denominator : Nat) :
    factor * denominator ≤ quotient * denominator ∨
      quotient * denominator + denominator ≤ factor * denominator := by
  rcases Int.lt_or_le quotient factor with above | below
  · have next := Int.mul_le_mul_of_nonneg_right (Int.add_one_le_of_lt above)
      (Int.natCast_nonneg denominator)
    rw [Int.add_mul, Int.one_mul] at next
    exact .inr next
  · exact .inl (Int.mul_le_mul_of_nonneg_right below (Int.natCast_nonneg denominator))

/-- No multiple of the denominator is nearer to the numerator than that of the rounded quotient. If
another one is as near, the rounded quotient is even. -/
theorem roundHalfEven_nearest (numerator : Nat) (positive : 0 < denominator) (factor : Int) :
    |(roundHalfEven numerator denominator * denominator - numerator : Int)| ≤
        |factor * denominator - numerator| ∧
      (|factor * denominator - numerator| =
          |(roundHalfEven numerator denominator * denominator - numerator : Int)| →
        factor ≠ roundHalfEven numerator denominator →
          roundHalfEven numerator denominator % 2 = 0) := by
  obtain ⟨quotient, rest, rfl, small, cases⟩ := roundHalfEven_cases numerator positive
  generalize roundHalfEven (quotient * denominator + rest) denominator = rounded at cases
  have near := mul_le_or_le_mul quotient factor denominator
  have next : ((quotient + 1 : Nat) : Int) * denominator =
      quotient * denominator + denominator := by
    rw [Int.natCast_add, Int.add_mul, Int.natCast_one, Int.one_mul]
  have apart (differs : factor ≠ rounded) : factor * denominator ≠ rounded * denominator := by
    have nonzero : (denominator : Int) ≠ 0 := by omega
    exact fun same => differs (Int.eq_of_mul_eq_mul_right nonzero same)
  rw [Int.natCast_add, Int.natCast_mul, Int.abs_eq_natAbs, Int.abs_eq_natAbs]
  rcases cases with ⟨rfl, below⟩ | ⟨rfl, above⟩ | ⟨rfl, tie⟩
  · refine ⟨by omega, fun same differs => ?_⟩
    have apart := apart differs
    omega
  · rw [next] at apart ⊢
    refine ⟨by omega, fun same differs => ?_⟩
    have apart := apart differs
    omega
  · refine ⟨?_, fun _ _ => by omega⟩
    rcases Nat.mod_two_eq_zero_or_one quotient with isEven | isOdd
    · rw [isEven, Nat.add_zero]
      omega
    · rw [isOdd, next]
      omega

/-- Rounding does not fall below an integer that is not above the quotient. -/
theorem le_roundHalfEven {factor : Nat} (positive : 0 < denominator)
    (below : factor * denominator ≤ numerator) : factor ≤ roundHalfEven numerator denominator := by
  obtain ⟨quotient, rest, rfl, small, cases⟩ := roundHalfEven_cases numerator positive
  have bound : factor * denominator < (quotient + 1) * denominator := by
    rw [Nat.add_mul, Nat.one_mul]
    omega
  have := Nat.lt_of_mul_lt_mul_right bound
  omega

/-- Nor does it rise above one that is not below the quotient. -/
theorem roundHalfEven_le {factor : Nat} (positive : 0 < denominator)
    (above : numerator ≤ factor * denominator) : roundHalfEven numerator denominator ≤ factor := by
  obtain ⟨quotient, rest, rfl, small, cases⟩ := roundHalfEven_cases numerator positive
  rcases Nat.eq_zero_or_pos rest with rfl | some
  · have := Nat.le_of_mul_le_mul_right above positive
    omega
  · have bound : quotient * denominator < factor * denominator := by omega
    have := Nat.lt_of_mul_lt_mul_right bound
    omega

/-! ## Rounding an integer -/

theorem binaryMagnitude_one (positive : 0 < whole) : binaryMagnitude whole 1 = Nat.log2 whole := by
  have reached : twoTo (Nat.log2 whole) ≤ whole := Nat.log2_self_le (Nat.ne_of_gt positive)
  have one : Nat.log2 1 = 0 := by decide
  simp [binaryMagnitude, one, reached]

theorem roundHalfEven_one (numerator : Nat) : roundHalfEven numerator 1 = numerator := by
  simp [roundHalfEven, Nat.mod_one]

theorem value_positive (mantissa : Nat) (exponent : Int) :
    value ⟨false, mantissa, exponent⟩ = mantissa * 2 ^ exponent := rfl

theorem twoTo_add (first second : Nat) : twoTo (first + second) = twoTo first * twoTo second :=
  Nat.pow_add 2 first second

theorem twoTo_le_twoTo {first second : Nat} (le : first ≤ second) : twoTo first ≤ twoTo second :=
  Nat.pow_le_pow_right (by decide) le

theorem log2_lt_of_lt_twoTo {digits : Nat} (positive : 0 < whole) (bound : whole < twoTo digits) :
    Nat.log2 whole < digits :=
  (Nat.log2_lt (Nat.ne_of_gt positive)).mpr bound

/-- An integer of at most 53 binary digits is the value of a double. -/
theorem nearest_exact (positive : 0 < whole) (short : Nat.log2 whole ≤ 52) :
    ∃ number : Double, nearest false whole 1 = some number ∧ number.IsFinite ∧
      twoTo 52 ≤ number.mantissa ∧ number.value = whole := by
  have lower : twoTo (Nat.log2 whole) ≤ whole := Nat.log2_self_le (Nat.ne_of_gt positive)
  have upper : whole < twoTo (Nat.log2 whole + 1) := Nat.lt_log2_self
  obtain ⟨missing, digits⟩ : ∃ missing, 52 = Nat.log2 whole + missing :=
    ⟨52 - Nat.log2 whole, by omega⟩
  have fills : twoTo 52 ≤ whole * twoTo missing := by
    rw [digits, twoTo_add]
    exact Nat.mul_le_mul_right _ lower
  have fits : whole * twoTo missing < twoTo 53 := by
    have power : 53 = Nat.log2 whole + 1 + missing := by omega
    rw [power, twoTo_add]
    exact Nat.mul_lt_mul_of_pos_right upper (twoTo_pos missing)
  have exponent : max (-1074) ((Nat.log2 whole : Int) - 52) = -missing := by omega
  refine ⟨⟨false, whole * twoTo missing, -missing⟩, ?_, ⟨fits, ?_, ?_⟩, fills, ?_⟩
  · have mantissa : (if 0 ≤ -(missing : Int) then
        roundHalfEven whole (1 * twoTo (-(missing : Int)).toNat)
        else roundHalfEven (whole * twoTo (- -(missing : Int)).toNat) 1) =
          whole * twoTo missing := by
      split
      · obtain rfl : missing = 0 := by omega
        rw [Int.natCast_zero, Int.neg_zero, Int.toNat_zero, twoTo_zero, Nat.mul_one,
          roundHalfEven_one, Nat.mul_one]
      · rw [Int.neg_neg, Int.toNat_natCast, roundHalfEven_one]
    rw [nearest, if_neg (Nat.ne_of_gt positive), binaryMagnitude_one positive, exponent]
    dsimp only
    rw [mantissa, if_neg (Nat.ne_of_lt fits)]
    exact if_pos (by dsimp only; omega)
  · dsimp only
    omega
  · dsimp only
    omega
  · rw [value_positive, Nat.cast_mul, cast_twoTo, mul_assoc, ← zpow_natCast,
      ← zpow_add₀ two_ne_zero, Int.add_right_neg, zpow_zero, mul_one]

/-- The double of a mantissa that rounding has made; it may have one binary digit too many. -/
def carried (mantissa : Nat) (exponent : Int) : Double :=
  if mantissa = twoTo 53 then ⟨false, twoTo 52, exponent + 1⟩ else ⟨false, mantissa, exponent⟩

theorem value_carried (mantissa : Nat) (exponent : Int) :
    (carried mantissa exponent).value = mantissa * 2 ^ exponent := by
  rw [carried]
  split
  · next full =>
    rw [value_positive, full, cast_twoTo, cast_twoTo, zpow_add₀ two_ne_zero, zpow_one,
      mul_comm (_ ^ exponent), ← mul_assoc, ← pow_succ]
  · rfl

theorem value_carried_natCast (mantissa places : Nat) :
    (carried mantissa places).value = ((mantissa * twoTo places : Int) : ℚ) := by
  rw [value_carried, zpow_natCast, ← cast_twoTo, Int.cast_mul, Int.cast_natCast, Int.cast_natCast]

theorem even_carried {mantissa : Nat} (even : mantissa % 2 = 0) (exponent : Int) :
    (carried mantissa exponent).mantissa % 2 = 0 := by
  rw [carried]
  split
  · have half : twoTo 52 % 2 = 0 := by decide
    exact half
  · exact even

theorem isFinite_carried {mantissa : Nat} (fits : mantissa ≤ twoTo 53) (least : -1074 ≤ exponent)
    (greatest : exponent ≤ 970) : (carried mantissa exponent).IsFinite := by
  rw [carried]
  split
  · have half : twoTo 52 < twoTo 53 := by decide
    exact ⟨half, by dsimp only; omega, by dsimp only; omega⟩
  · next notFull =>
    exact ⟨Nat.lt_of_le_of_ne fits notFull, least, by dsimp only; omega⟩

/-- A longer integer is rounded to a multiple of a power of two. -/
theorem nearest_rounded {places : Nat} (digits : Nat.log2 whole = places + 52)
    (bound : places ≤ 970) :
    nearest false whole 1 = some (carried (roundHalfEven whole (twoTo places)) places) ∧
      (carried (roundHalfEven whole (twoTo places)) places).IsFinite ∧
      twoTo 52 ≤ (carried (roundHalfEven whole (twoTo places)) places).mantissa := by
  have positive : 0 < whole := by
    rcases Nat.eq_zero_or_pos whole with rfl | positive
    · cases digits
    · exact positive
  have lower : twoTo (Nat.log2 whole) ≤ whole := Nat.log2_self_le (Nat.ne_of_gt positive)
  have upper : whole < twoTo (Nat.log2 whole + 1) := Nat.lt_log2_self
  rw [digits] at lower upper
  have fills : twoTo 52 ≤ roundHalfEven whole (twoTo places) := by
    rw [Nat.add_comm, twoTo_add] at lower
    exact le_roundHalfEven (twoTo_pos places) lower
  have fits : roundHalfEven whole (twoTo places) ≤ twoTo 53 := by
    rw [Nat.add_assoc, Nat.add_comm, twoTo_add] at upper
    exact roundHalfEven_le (twoTo_pos places) (Nat.le_of_lt upper)
  have exponent : max (-1074) ((Nat.log2 whole : Int) - 52) = places := by omega
  have found : nearest false whole 1 =
      if (carried (roundHalfEven whole (twoTo places)) places).exponent ≤ 971 then
        some (carried (roundHalfEven whole (twoTo places)) places) else none := by
    rw [nearest, if_neg (Nat.ne_of_gt positive), binaryMagnitude_one positive, exponent]
    dsimp only
    rw [if_pos (Int.natCast_nonneg places), Int.toNat_natCast, Nat.one_mul]
    rfl
  have finite := isFinite_carried fits (by omega) (by omega : (places : Int) ≤ 970)
  refine ⟨found.trans (if_pos finite.greatest), finite, ?_⟩
  rw [carried]
  split
  · exact Nat.le_refl _
  · exact fills

/-! ## Other doubles -/

/-- A double is a multiple of every power of two up to its own, and the factor is a multiple of its
mantissa. -/
theorem exists_multiple {places : Nat} (lower : places ≤ number.exponent) :
    ∃ factor : Int, number.value = ((factor * twoTo places : Int) : ℚ) ∧
      number.signedMantissa ∣ factor := by
  have difference : ((number.exponent - places).toNat : Int) + places = number.exponent := by
    omega
  refine ⟨number.signedMantissa * twoTo (number.exponent - places).toNat, ?_, Int.dvd_mul_right ..⟩
  rw [Int.cast_mul, Int.cast_mul, Int.cast_natCast, Int.cast_natCast, cast_twoTo, cast_twoTo,
    ← zpow_natCast, ← zpow_natCast, mul_assoc, ← zpow_add₀ two_ne_zero, difference, value]

theorem abs_value (number : Double) :
    |number.value| = number.mantissa * 2 ^ number.exponent := by
  have power : (0 : ℚ) < 2 ^ number.exponent := zpow_pos two_pos _
  rw [value, abs_mul, abs_of_pos power, ← Int.cast_abs, Int.abs_eq_natAbs, natAbs_signedMantissa,
    Int.cast_natCast]

/-- A double with a smaller power of two is smaller. -/
theorem IsFinite.abs_value_lt {places : Nat} (finite : number.IsFinite)
    (fewer : number.exponent < places) : |number.value| < 2 ^ (places + 52) := by
  have power : (2 : ℚ) ^ (places + 52) = 2 ^ 53 * 2 ^ ((places : Int) - 1) := by
    rw [← zpow_natCast, ← zpow_natCast, ← zpow_add₀ two_ne_zero]
    congr 1
    omega
  have mantissa : (number.mantissa : ℚ) < 2 ^ 53 := by
    rw [← cast_twoTo]
    exact_mod_cast finite.mantissa
  have scale : (2 : ℚ) ^ number.exponent ≤ 2 ^ ((places : Int) - 1) :=
    zpow_le_zpow_right₀ one_le_two (by omega)
  rw [abs_value, power]
  calc (number.mantissa : ℚ) * 2 ^ number.exponent
      ≤ number.mantissa * 2 ^ ((places : Int) - 1) :=
        mul_le_mul_of_nonneg_left scale (Nat.cast_nonneg _)
    _ < 2 ^ 53 * 2 ^ ((places : Int) - 1) :=
        mul_lt_mul_of_pos_right mantissa (zpow_pos two_pos _)

/-- A double with a smaller power of two than the rounded integer is farther from the integer: it is
below the first digit, and the rounded integer is at least as near as that digit. -/
theorem abs_rounded_sub_lt {places : Nat} (digits : Nat.log2 whole = places + 52)
    (finite : other.IsFinite) (fewer : other.exponent < places) :
    |(carried (roundHalfEven whole (twoTo places)) places).value - whole| <
      |other.value - whole| := by
  have lower : twoTo (Nat.log2 whole) ≤ whole := by
    refine Nat.log2_self_le ?_
    rintro rfl
    cases digits
  rw [digits, Nat.add_comm, twoTo_add] at lower
  have smaller := (abs_lt.mp (finite.abs_value_lt fewer)).2
  have power : (2 : ℚ) ^ (places + 52) = ((twoTo 52 * twoTo places : Int) : ℚ) := by
    rw [Int.cast_mul, Int.cast_natCast, Int.cast_natCast, cast_twoTo, cast_twoTo, ← pow_add,
      Nat.add_comm]
  have below : (twoTo 52 * twoTo places : Int) - whole ≤ 0 :=
    sub_nonpos.mpr (by exact_mod_cast lower)
  have first : |(roundHalfEven whole (twoTo places) * twoTo places - whole : Int)| ≤
      whole - twoTo 52 * twoTo places := by
    rw [← neg_sub (_ * _ : Int), ← abs_of_nonpos below]
    exact (roundHalfEven_nearest whole (twoTo_pos places) (twoTo 52)).1
  rw [power] at smaller
  rw [value_carried_natCast]
  calc |((roundHalfEven whole (twoTo places) * twoTo places : Int) : ℚ) - whole|
      = ((|roundHalfEven whole (twoTo places) * twoTo places - whole| : Int) : ℚ) := by
        rw [Int.cast_abs, Int.cast_sub, Int.cast_natCast]
    _ ≤ ((whole - twoTo 52 * twoTo places : Int) : ℚ) := Int.cast_le.mpr first
    _ = whole - ((twoTo 52 * twoTo places : Int) : ℚ) := by rw [Int.cast_sub, Int.cast_natCast]
    _ < whole - other.value := sub_lt_sub_left smaller _
    _ ≤ |other.value - whole| := by
      rw [abs_sub_comm]
      exact le_abs_self _

/-- A longer integer is rounded to the nearest of all doubles. Those with a greater power of two
are multiples of the power to which it is rounded, and the others are farther. -/
theorem isNearest_rounded {places : Nat} (digits : Nat.log2 whole = places + 52)
    (finite : (carried (roundHalfEven whole (twoTo places)) places).IsFinite)
    (normal : twoTo 52 ≤ (carried (roundHalfEven whole (twoTo places)) places).mantissa) :
    (carried (roundHalfEven whole (twoTo places)) places).IsNearest whole := by
  have best := roundHalfEven_nearest whole (twoTo_pos places)
  refine ⟨finite, .inl normal, fun other otherFinite => ?_, fun other otherFinite tie differs => ?_⟩
  · rcases Int.lt_or_le other.exponent places with fewer | enough
    · exact le_of_lt (abs_rounded_sub_lt digits otherFinite fewer)
    · obtain ⟨factor, multiple, -⟩ := exists_multiple enough
      rw [value_carried_natCast, multiple]
      exact_mod_cast (best factor).1
  · rcases Int.lt_or_le other.exponent places with fewer | enough
    · exact absurd tie (ne_of_gt (abs_rounded_sub_lt digits otherFinite fewer))
    · obtain ⟨factor, multiple, -⟩ := exists_multiple enough
      rw [value_carried_natCast, multiple] at tie differs
      refine even_carried ((best factor).2 (by exact_mod_cast tie) ?_) _
      rintro rfl
      exact differs rfl

/-- A positive integer is rounded to the nearest double, which is an integer. -/
theorem isNearest_of_positive (positive : 0 < whole) (bound : whole < twoTo 1023) :
    ∃ (number : Double) (rounded : Int), nearest false whole 1 = some number ∧
      number.IsNearest whole ∧ number.value = rounded := by
  have few := log2_lt_of_lt_twoTo positive bound
  rcases Nat.lt_or_ge 52 (Nat.log2 whole) with long | short
  · obtain ⟨places, digits⟩ : ∃ places, Nat.log2 whole = places + 52 :=
      ⟨Nat.log2 whole - 52, by omega⟩
    obtain ⟨rounded, finite, normal⟩ := nearest_rounded digits (by omega)
    exact ⟨_, _, rounded, isNearest_rounded digits finite normal, value_carried_natCast _ _⟩
  · obtain ⟨number, found, finite, normal, exact⟩ := nearest_exact positive short
    exact ⟨number, whole, found, .of_value_eq finite (.inl normal) exact, exact⟩

theorem value_zero (negative : Bool) : (zero negative).value = 0 := by
  rw [← abs_eq_zero, abs_value, zero, Nat.cast_zero, zero_mul]

/-- An integer of up to 1023 binary digits is rounded to the nearest double, which is an integer. -/
theorem isNearest_ofInt (bound : integer.natAbs < twoTo 1023) :
    ∃ (number : Double) (rounded : Int), ofInt integer = some number ∧
      number.IsNearest integer ∧ number.value = rounded := by
  rcases Int.lt_trichotomy integer 0 with negative | rfl | positive
  · obtain ⟨number, rounded, found, nearest, whole⟩ := isNearest_of_positive (by omega) bound
    refine ⟨number.opposite, -rounded, ?_, ?_, ?_⟩
    · rw [ofInt, decide_eq_true negative, nearest_true, found, Option.map_some]
    · have target : (integer : ℚ) = -(integer.natAbs : ℚ) := by
        rw [← Int.cast_natCast, Int.ofNat_natAbs_of_nonpos (by omega), Int.cast_neg, neg_neg]
      rw [target]
      exact nearest.opposite
    · rw [value_opposite, whole, Int.cast_neg]
  · have exact : (zero false).value = ((0 : Int) : ℚ) := by rw [value_zero, Int.cast_zero]
    have finite : (zero false).IsFinite := ⟨by decide, by decide, by decide⟩
    exact ⟨zero false, 0, rfl, .of_value_eq finite (.inr rfl) exact, exact⟩
  · obtain ⟨number, rounded, found, nearest, whole⟩ := isNearest_of_positive (by omega) bound
    refine ⟨number, rounded, ?_, ?_, whole⟩
    · rw [ofInt, decide_eq_false (by omega), found]
    · have target : (integer : ℚ) = (integer.natAbs : ℚ) := by
        rw [← Int.cast_natCast, Int.natAbs_of_nonneg (by omega)]
      rwa [target]

/-! ## Doubles that are not passed -/

/-- Rounding down does not pass a double. -/
theorem IsNearest.le_value (nearest : number.IsNearest target) (finite : other.IsFinite)
    (below : other.value ≤ target) : other.value ≤ number.value := by
  have near := nearest.nearest other finite
  rw [abs_of_nonpos (sub_nonpos.mpr below)] at near
  have := (abs_le.mp near).1
  linarith

/-- Nor does rounding up. -/
theorem IsNearest.value_le (nearest : number.IsNearest target) (finite : other.IsFinite)
    (above : target ≤ other.value) : number.value ≤ other.value := by
  have near := nearest.nearest other finite
  rw [abs_of_nonneg (sub_nonneg.mpr above)] at near
  have := (abs_le.mp near).2
  linarith

end Beanwright.Double
