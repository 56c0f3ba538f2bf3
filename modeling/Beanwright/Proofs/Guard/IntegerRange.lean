import Beanwright.Guard.TypeCheck
import Beanwright.Proofs.Double.Integer

/-!
# The integers that a number check accepts

A number check compares the double nearest to an integer with the bounds of its range. Up to 32 bits
the bounds and their neighbours are doubles, so rounding moves no integer over a bound. The bounds
of 64 bits are reached by rounding: the last integers below `2 ^ 64` are rounded to `2 ^ 64` and
refused, and the first integers above `2 ^ 63` are rounded to `2 ^ 63` and accepted. Both times the
middle between two doubles decides: it is rounded up to `2 ^ 64` and down to `2 ^ 63`, whose
mantissas are even.
-/

namespace Beanwright.TypeCheck

open Double

variable {check : TypeCheck} {range : Range} {integer rounded : Int}

/-! ## Numbers -/

theorem accepts_of_range (ranged : check.range? = some range) (value : Json) :
    check.accepts value = inRange range value := by
  unfold accepts
  rw [ranged]

/-- A number check accepts numbers only. -/
theorem number_of_accepts {value : Json} (ranged : check.range? = some range)
    (accepted : check.accepts value = true) :
    (∃ integer, value = .integer integer) ∨ ∃ number, value = .double number := by
  rw [accepts_of_range ranged] at accepted
  cases value with
  | integer integer => exact .inl ⟨integer, rfl⟩
  | double number => exact .inr ⟨number, rfl⟩
  | _ => exact absurd accepted Bool.false_ne_true

/-- An integer of 64 bits is rounded to the nearest double, and each number check judges the value
of that double. -/
theorem exists_rounded (least : -(twoTo 63 : Int) ≤ integer) (greatest : integer < twoTo 64) :
    ∃ (number : Double) (rounded : Int), Double.ofInt integer = some number ∧
      number.IsNearest integer ∧ number.value = rounded ∧
      ∀ (check : TypeCheck) (range : Range), check.range? = some range →
        check.accepts (.integer integer) = range.holds rounded := by
  have full : twoTo 64 = twoTo 63 * 2 := rfl
  have wide : twoTo 64 ≤ twoTo 1023 := twoTo_le_twoTo (by omega)
  have bound : integer.natAbs < twoTo 1023 := by omega
  obtain ⟨number, rounded, found, nearest, value⟩ := isNearest_ofInt bound
  refine ⟨number, rounded, found, nearest, value, fun check range ranged => ?_⟩
  have judged : number.toInt? = some rounded := toInt?_eq_some_iff.mpr value
  rw [accepts_of_range ranged]
  simp only [inRange, Json.toDouble?, found, Option.bind_some, judged]

/-! ## Ranges -/

theorem Range.holds_iff (range : Range) (value : Int) : range.holds value = true ↔
    range.least ≤ value ∧ if range.inclusive then value ≤ range.bound else value < range.bound := by
  rw [holds, Bool.and_eq_true, decide_eq_true_iff]
  split <;> rw [decide_eq_true_iff]

theorem Range.holds_unsigned_iff (bound value : Int) :
    (Range.unsigned bound).holds value = true ↔ 0 ≤ value ∧ value < bound :=
  holds_iff _ _

theorem Range.holds_signed_iff (least greatest value : Int) :
    (Range.signed least greatest).holds value = true ↔ least ≤ value ∧ value ≤ greatest :=
  holds_iff _ _

/-- Rounding does not move a small bound, since the integers up to `2 ^ 53` are doubles. -/
theorem le_rounded_iff_of_small (rounds : RoundsTo integer rounded) {bound : Int}
    (small : bound.natAbs < twoTo 53) : bound ≤ rounded ↔ bound ≤ integer :=
  rounds.le_rounded_iff (isRepresentable_of_le (by omega)) (isRepresentable_of_le (by omega))

/-- A range with small bounds holds the same integers before and after rounding. -/
theorem Range.holds_rounded (rounds : RoundsTo integer rounded)
    (least : range.least.natAbs < twoTo 53) (bound : range.bound.natAbs + 1 < twoTo 53) :
    range.holds rounded = range.holds integer := by
  have fromLeast := le_rounded_iff_of_small rounds least
  have fromBound := le_rounded_iff_of_small rounds (show range.bound.natAbs < twoTo 53 by omega)
  have fromNext := le_rounded_iff_of_small rounds
    (show (range.bound + 1).natAbs < twoTo 53 by omega)
  rw [holds, holds]
  congr 1
  · exact decide_eq_decide.mpr fromLeast
  · split
    · exact decide_eq_decide.mpr (by omega)
    · exact decide_eq_decide.mpr (by omega)

/-- The middle below `2 ^ 64` is rounded up. -/
theorem Range.holds_wide_unsigned (rounds : RoundsTo integer rounded) :
    (Range.unsigned (twoTo 64)).holds rounded = true ↔ 0 ≤ integer ∧ integer < twoTo 64 - 1024 := by
  have fromZero := le_rounded_iff_of_small rounds (show (0 : Int).natAbs < twoTo 53 by decide)
  have belowBound := rounds.lt_iff_of_odd (show (twoTo 52 : Int) ≤ twoTo 53 - 1 by decide)
    (by decide) (by decide)
  rw [holds_unsigned_iff, fromZero]
  exact and_congr_right' belowBound

/-- The middle above `2 ^ 63` is rounded down. -/
theorem Range.holds_wide_signed (rounds : RoundsTo integer rounded)
    (least : -(twoTo 63 : Int) ≤ integer) :
    (Range.signed (-twoTo 63) (twoTo 63)).holds rounded = true ↔ integer ≤ twoTo 63 + 1024 := by
  have representable : IsRepresentable (-1 * twoTo 63) := isRepresentable_mul (by decide) (by omega)
  have fromLeast := rounds.le_rounded representable (by omega)
  have upToBound := rounds.le_iff_of_even (show (twoTo 52 : Int) ≤ twoTo 52 by omega)
    (by decide) (by decide)
  rw [holds_signed_iff]
  exact (and_iff_right (by omega)).trans upToBound

/-! ## Checks -/

/-- An integer of 64 bits is compared after it was rounded to the nearest double. Checks of up to 32
bits accept their range. The greatest integers of 64 bits are refused, and the integers up to 1024
above the signed ones accepted. A number check accepts no other kind of value than a number. -/
theorem integer_checks_exact (integer : Int) (least : -(twoTo 63 : Int) ≤ integer)
    (greatest : integer < twoTo 64) :
    (∃ (number : Double) (rounded : Int), Double.ofInt integer = some number ∧
      number.IsNearest integer ∧ number.value = rounded ∧
      ∀ (check : TypeCheck) (range : Range), check.range? = some range →
        check.accepts (.integer integer) = range.holds rounded) ∧
    (∀ narrow ∈ [(uint8, 8), (uint16, 16), (uint32, 32)],
      narrow.1.accepts (.integer integer) = true ↔ 0 ≤ integer ∧ integer < twoTo narrow.2) ∧
    (∀ narrow ∈ [(int8, 8), (int16, 16), (int32, 32)],
      narrow.1.accepts (.integer integer) = true ↔
        -(twoTo (narrow.2 - 1) : Int) ≤ integer ∧ integer ≤ twoTo (narrow.2 - 1) - 1) ∧
    (∀ check ∈ [uint, uint64],
      check.accepts (.integer integer) = true ↔ 0 ≤ integer ∧ integer < twoTo 64 - 1024) ∧
    (∀ check ∈ [int, int64],
      check.accepts (.integer integer) = true ↔ integer ≤ twoTo 63 + 1024) ∧
    ∀ check ∈ [uint, uint8, uint16, uint32, uint64, int, int8, int16, int32, int64],
      ∀ value : Json, check.accepts value = true →
        (∃ held, value = .integer held) ∨ ∃ held, value = .double held := by
  obtain ⟨number, rounded, found, nearest, value, judged⟩ := exists_rounded least greatest
  have rounds : RoundsTo integer rounded := ⟨number, nearest, value⟩
  refine ⟨⟨number, rounded, found, nearest, value, judged⟩, ?_, ?_, ?_, ?_, ?_⟩
  · intro narrow listed
    have ranges : ∀ narrow ∈ [(uint8, 8), (uint16, 16), (uint32, 32)],
        narrow.1.range? = some (.unsigned (twoTo narrow.2)) ∧
          (twoTo narrow.2 : Int).natAbs + 1 < twoTo 53 := by decide
    obtain ⟨ranged, small⟩ := ranges narrow listed
    have zero : (0 : Int).natAbs < twoTo 53 := by decide
    rw [judged _ _ ranged, Range.holds_rounded rounds zero small, Range.holds_unsigned_iff]
  · intro narrow listed
    have ranges : ∀ narrow ∈ [(int8, 8), (int16, 16), (int32, 32)],
        narrow.1.range? = some (.signed (-twoTo (narrow.2 - 1)) (twoTo (narrow.2 - 1) - 1)) ∧
          (-(twoTo (narrow.2 - 1) : Int)).natAbs < twoTo 53 ∧
          (twoTo (narrow.2 - 1) - 1 : Int).natAbs + 1 < twoTo 53 := by decide
    obtain ⟨ranged, smallLeast, smallBound⟩ := ranges narrow listed
    rw [judged _ _ ranged, Range.holds_rounded rounds smallLeast smallBound,
      Range.holds_signed_iff]
  · intro check listed
    have ranges : ∀ check ∈ [uint, uint64], check.range? = some (.unsigned (twoTo 64)) := by decide
    rw [judged _ _ (ranges check listed), Range.holds_wide_unsigned rounds]
  · intro check listed
    have ranges : ∀ check ∈ [int, int64],
        check.range? = some (.signed (-twoTo 63) (twoTo 63)) := by decide
    rw [judged _ _ (ranges check listed), Range.holds_wide_signed rounds least]
  · intro check listed value accepted
    have ranges : ∀ check ∈ [uint, uint8, uint16, uint32, uint64, int, int8, int16, int32, int64],
        check.range?.isSome = true := by decide
    obtain ⟨range, ranged⟩ := Option.isSome_iff_exists.mp (ranges check listed)
    exact number_of_accepts ranged accepted

/-- Both middles go to the bound of 64 bits: one is refused and the other one accepted. -/
theorem integer_checks_exact_sample :
    (-(twoTo 63 : Int) ≤ twoTo 64 - 1024 ∧ (twoTo 64 - 1024 : Int) < twoTo 64 ∧
      uint64.accepts (.integer (twoTo 64 - 1024)) = false) ∧
    (-(twoTo 63 : Int) ≤ twoTo 63 + 1024 ∧ (twoTo 63 + 1024 : Int) < twoTo 64 ∧
      int64.accepts (.integer (twoTo 63 + 1024)) = true) := by
  have least : -(twoTo 63 : Int) ≤ twoTo 64 - 1024 := by decide
  have greatest : (twoTo 64 - 1024 : Int) < twoTo 64 := by decide
  obtain ⟨-, -, -, unsigned, -, -⟩ := integer_checks_exact (twoTo 64 - 1024) least greatest
  have refused : ¬uint64.accepts (.integer (twoTo 64 - 1024)) = true :=
    fun accepted => absurd ((unsigned uint64 (by decide)).mp accepted).2 (Int.lt_irrefl _)
  have above : -(twoTo 63 : Int) ≤ twoTo 63 + 1024 := by decide
  have below : (twoTo 63 + 1024 : Int) < twoTo 64 := by decide
  obtain ⟨-, -, -, -, signed, -⟩ := integer_checks_exact (twoTo 63 + 1024) above below
  have accepted := (signed int64 (by decide)).mpr (Int.le_refl _)
  exact ⟨⟨least, greatest, Bool.eq_false_iff.mpr refused⟩, above, below, accepted⟩

end Beanwright.TypeCheck
