import Beanwright.Double.Basic
import Beanwright.Text.Basic

/-!
# Shortest decimal form

The decimal form of a double has the fewest digits that read back as the same double, and among
those the nearest to its value. The numbers that read back as a given double form an interval
around it; the search tries the two neighbours of the value on ever finer decimal grids.
-/

namespace Beanwright.Double

/-- The decimal number `digits * 10 ^ exponent`. -/
structure Decimal where
  /-- The digits, read as a natural number. -/
  digits : Nat
  /-- The power of ten. -/
  exponent : Int
deriving DecidableEq, Repr

/-- The numbers that round to a double, over a common denominator: `low / unit` and `high / unit`
are the ends, `middle / unit` is the double itself. -/
structure Neighbourhood where
  /-- The lower end. -/
  low : Nat
  /-- The double itself. -/
  middle : Nat
  /-- The upper end. -/
  high : Nat
  /-- The common denominator. -/
  unit : Nat
  /-- Whether the ends belong to the interval. -/
  closed : Bool

/-- The interval of numbers that round to `mantissa * 2 ^ exponent`. Below a power of two the
doubles lie twice as close, so the lower half is half as wide there. -/
def neighbourhood (mantissa : Nat) (exponent : Int) : Neighbourhood :=
  let power := twoTo (exponent - 2).toNat
  let below := if mantissa = twoTo 52 && decide (-1074 < exponent) then 1 else 2
  { low := (4 * mantissa - below) * power
    middle := 4 * mantissa * power
    high := (4 * mantissa + 2) * power
    unit := twoTo (2 - exponent).toNat
    closed := mantissa % 2 == 0 }

/-- Whether `digits * numerator / denominator` lies in the interval. -/
def Neighbourhood.holds (interval : Neighbourhood) (digits numerator denominator : Nat) : Bool :=
  let point := digits * numerator * interval.unit
  if interval.closed then
    interval.low * denominator ≤ point && point ≤ interval.high * denominator
  else interval.low * denominator < point && point < interval.high * denominator

/-- The candidate on the grid of the multiples of `10 ^ exponent`: of the two neighbours of the
value that lie in the interval the nearer one, the even one on a tie. -/
def candidate (interval : Neighbourhood) (exponent : Int) : Option Nat :=
  let numerator := tenTo exponent.toNat
  let denominator := tenTo (-exponent).toNat
  let step := numerator * interval.unit
  let value := interval.middle * denominator
  let lower := value / step
  let upper := lower + 1
  let holds := fun digits => interval.holds digits numerator denominator
  match holds lower && decide (0 < lower), holds upper with
  | true, true =>
    let down := value - lower * step
    let up := upper * step - value
    if down < up then some lower
    else if up < down then some upper
    else some (lower + lower % 2)
  | true, false => some lower
  | false, true => some upper
  | false, false => none

/-- The first candidate on the grids from a power of ten downwards. -/
def search (interval : Neighbourhood) : (tries : Nat) → (exponent : Int) → Option Decimal
  | 0, _ => none
  | tries + 1, exponent =>
    match candidate interval exponent with
    | some digits => some ⟨digits, exponent⟩
    | none => search interval tries (exponent - 1)

theorem holds_of_candidate {interval : Neighbourhood} {exponent : Int} {digits : Nat}
    (found : candidate interval exponent = some digits) :
    interval.holds digits (tenTo exponent.toNat) (tenTo (-exponent).toNat) = true := by
  rw [candidate] at found
  dsimp only at found
  split at found
  · next lower upper =>
    rw [Bool.and_eq_true] at lower
    split at found
    · cases found
      exact lower.1
    · split at found
      · cases found
        exact upper
      · cases found
        -- On a tie the even neighbour is the lower one or the one after it.
        rcases Nat.mod_two_eq_zero_or_one (interval.middle * tenTo (-exponent).toNat /
          (tenTo exponent.toNat * interval.unit)) with even | odd
        · rw [even]
          exact lower.1
        · rw [odd]
          exact upper
  · next lower _ =>
    rw [Bool.and_eq_true] at lower
    cases found
    exact lower.1
  · next upper =>
    cases found
    exact upper
  · cases found

/-- What the search finds rounds to the double whose interval it is given. -/
theorem holds_of_search {interval : Neighbourhood} {tries : Nat} {exponent : Int}
    {decimal : Decimal} (found : search interval tries exponent = some decimal) :
    interval.holds decimal.digits (tenTo decimal.exponent.toNat)
      (tenTo (-decimal.exponent).toNat) = true := by
  induction tries generalizing exponent with
  | zero => cases found
  | succ tries ih =>
    rw [search] at found
    split at found
    · next digits tried =>
      cases found
      exact holds_of_candidate tried
    · exact ih found

/-! The least double has one digit, although its value has many. -/

example : search (neighbourhood 1 (-1074)) 24 (-323) = some ⟨5, -324⟩ := by decide +kernel

/-- The decimal number without the zeros at the end of its digits. -/
def Decimal.trimmed (tries : Nat) (decimal : Decimal) : Decimal :=
  match tries with
  | 0 => decimal
  | tries + 1 =>
    if decimal.digits % 10 = 0 && decide (0 < decimal.digits) then
      Decimal.trimmed tries ⟨decimal.digits / 10, decimal.exponent + 1⟩
    else decimal

/-- The shortest decimal that rounds to the magnitude of a double. The search begins at a power of
ten above the value, and seventeen digits always suffice. -/
def shortest (number : Double) : Decimal :=
  let interval := neighbourhood number.mantissa number.exponent
  let start : Int := ((Nat.log2 number.mantissa : Int) + number.exponent + 1) * 30103 / 100000 + 1
  ((search interval 24 start).getD ⟨0, 0⟩).trimmed 20

/-- A row of zeros. -/
def zeros (count : Nat) : Text := List.replicate count '0'

/-- Digits with a point after the first `count` of them, and at least one digit after the point. -/
def pointed (digits : Text) (count : Nat) : Text :=
  let whole := digits.take count ++ zeros (count - digits.length)
  let fraction := digits.drop count
  whole ++ '.' :: (if fraction.isEmpty then ['0'] else fraction)

/-- The written form of a decimal magnitude: positional from `10 ^ -5` to below `10 ^ 16`, else one
digit, the others after a point, and a signed exponent. -/
def Decimal.text (decimal : Decimal) : Text :=
  let digits := Text.ofNat decimal.digits
  let power : Int := (digits.length : Int) - 1 + decimal.exponent
  if 0 ≤ power && power < 16 then pointed digits (power.toNat + 1)
  else if -5 ≤ power && power < 0 then '0' :: '.' :: (zeros ((-power).toNat - 1) ++ digits)
  else
    let head := digits.take 1 ++ (if digits.length = 1 then [] else '.' :: digits.drop 1)
    head ++ 'e' :: (if power < 0 then '-' else '+') :: Text.ofNat power.natAbs

/-- The written form of a double. -/
def text (number : Double) : Text :=
  let magnitude :=
    if number.mantissa = 0 then ['0', '.', '0'] else number.shortest.text
  if number.negative then '-' :: magnitude else magnitude

end Beanwright.Double
