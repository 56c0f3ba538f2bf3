/-!
# Double-precision numbers

A finite double-precision number is a sign, a mantissa and a power of two. All arithmetic on it is
exact arithmetic on natural numbers; rounding happens in one place, `Double.nearest`.

## Main definitions

* `Double.nearest` — the double nearest to a quotient, the even mantissa on a tie
* `Double.ofDecimal` — the double nearest to a decimal number
* `Double.same`, `Double.below` — numeric comparison, in which the two zeros are equal
* `Double.toInt?` — the value of a double that is an integer
-/

namespace Beanwright

/-- A power of two. -/
def twoTo (exponent : Nat) : Nat := Nat.pow 2 exponent

/-- A power of ten. -/
def tenTo (exponent : Nat) : Nat := Nat.pow 10 exponent

@[simp] theorem twoTo_zero : twoTo 0 = 1 := rfl

theorem twoTo_pos (exponent : Nat) : 0 < twoTo exponent := Nat.pow_pos (by decide)

/-- The finite number `± mantissa * 2 ^ exponent`. The numbers that the library builds have a
mantissa below `2 ^ 53`, and one of at least `2 ^ 52` unless the exponent is `-1074`. -/
structure Double where
  /-- Whether the sign is minus; zero has both signs. -/
  negative : Bool
  /-- The mantissa. -/
  mantissa : Nat
  /-- The power of two. -/
  exponent : Int
deriving DecidableEq, Repr

namespace Double

/-- Zero with the given sign. -/
def zero (negative : Bool) : Double := ⟨negative, 0, -1074⟩

/-- The integer nearest to a quotient, the even one on a tie. -/
def roundHalfEven (numerator denominator : Nat) : Nat :=
  let quotient := numerator / denominator
  let rest := numerator % denominator
  if 2 * rest < denominator then quotient
  else if denominator < 2 * rest then quotient + 1
  else quotient + quotient % 2

/-- The exponent of the power of two below or at a positive quotient. -/
def binaryMagnitude (numerator denominator : Nat) : Int :=
  let guess : Int := (Nat.log2 numerator : Int) - Nat.log2 denominator
  let reached :=
    if 0 ≤ guess then decide (denominator * twoTo guess.toNat ≤ numerator)
    else decide (denominator ≤ numerator * twoTo (-guess).toNat)
  if reached then guess else guess - 1

/-- The double nearest to `± numerator / denominator`, with an even mantissa on a tie; there is none
if it would be infinite. -/
def nearest (negative : Bool) (numerator denominator : Nat) : Option Double :=
  if numerator = 0 then some (zero negative)
  else
    let exponent : Int := max (-1074) (binaryMagnitude numerator denominator - 52)
    let mantissa :=
      if 0 ≤ exponent then roundHalfEven numerator (denominator * twoTo exponent.toNat)
      else roundHalfEven (numerator * twoTo (-exponent).toNat) denominator
    let rounded : Double :=
      if mantissa = twoTo 53 then ⟨negative, twoTo 52, exponent + 1⟩
      else ⟨negative, mantissa, exponent⟩
    if rounded.exponent ≤ 971 then some rounded else none

/-- The double nearest to `± digits * 10 ^ exponent`. Magnitudes far outside the range of doubles
are decided before any power is computed. -/
def ofDecimal (negative : Bool) (digits : Nat) (exponent : Int) : Option Double :=
  let magnitude : Int := (Nat.toDigits 10 digits).length + exponent
  if digits = 0 || magnitude < -400 then some (zero negative)
  else if 400 < magnitude then none
  else if 0 ≤ exponent then nearest negative (digits * tenTo exponent.toNat) 1
  else nearest negative digits (tenTo (-exponent).toNat)

/-- The double nearest to an integer. -/
def ofInt (number : Int) : Option Double := nearest (decide (number < 0)) number.natAbs 1

/-- The signed mantissa of a double at a power of two not above its own. -/
def scaled (number : Double) (exponent : Int) : Int :=
  let magnitude : Int := number.mantissa * twoTo (number.exponent - exponent).toNat
  if number.negative then -magnitude else magnitude

/-- Whether the first number is less than the second. -/
def below (first second : Double) : Bool :=
  let exponent := min first.exponent second.exponent
  first.scaled exponent < second.scaled exponent

/-- Whether two doubles are the same number. -/
def same (first second : Double) : Bool :=
  let exponent := min first.exponent second.exponent
  first.scaled exponent == second.scaled exponent

/-- The value of a double that is an integer. -/
def toInt? (number : Double) : Option Int :=
  if 0 ≤ number.exponent then some (number.scaled 0)
  else if number.mantissa % twoTo (-number.exponent).toNat = 0 then
    let magnitude : Int := number.mantissa / twoTo (-number.exponent).toNat
    some (if number.negative then -magnitude else magnitude)
  else none

end Double

end Beanwright
