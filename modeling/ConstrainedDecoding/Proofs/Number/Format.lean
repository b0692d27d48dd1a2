import Mathlib.Algebra.Order.Ring.Nat
import Mathlib.Data.Nat.Log
import ConstrainedDecoding.Number.Binary64

/-! Rounding to a binary format, and why numbers of a coarser format survive a finer one. -/

namespace ConstrainedDecoding

/-- A quotient that leaves no remainder is not rounded. -/
theorem nearestQuotient_exact {numerator denominator : Nat} (positive : 0 < denominator)
    (exact : denominator ∣ numerator) :
    nearestQuotient numerator denominator = numerator / denominator := by
  -- Twice no remainder is below the denominator.
  simp [nearestQuotient, Nat.mod_eq_zero_of_dvd exact, positive]

/-- Rounding goes up by one at most. -/
theorem nearestQuotient_le (numerator denominator : Nat) :
    nearestQuotient numerator denominator ≤ numerator / denominator + 1 := by
  -- Whichever way it rounds, the quotient is that of the division or the next one.
  simp only [nearestQuotient]
  split
  · omega
  · split <;> omega

namespace BinaryFormat

/-- Every number that one format can hold can be held by another. -/
structure Within (coarse fine : BinaryFormat) : Prop where
  digits : coarse.precision ≤ fine.precision
  someDigit : 1 ≤ fine.precision
  finest : fine.finest ≤ coarse.finest
  limit : coarse.limit ≤ fine.limit

/-- A count of whole steps is kept as it is. -/
theorem nearest_exact (format : BinaryFormat) {units : Nat}
    (whole : 2 ^ format.step units ∣ units) : format.nearest units 1 = units := by
  -- Dividing by the step leaves no remainder, and multiplying by it restores the count.
  have positive : 0 < 2 ^ format.step units := Nat.two_pow_pos _
  simp only [nearest, Nat.div_one, Nat.one_mul, twoPow, Nat.pow_eq]
  rw [nearestQuotient_exact positive whole, Nat.div_mul_cancel whole]

/-- A count is below the power that its step and the significant digits reach. -/
theorem lt_two_pow_step (format : BinaryFormat) (units : Nat) :
    units < 2 ^ (format.precision + format.step units) := by
  -- A step leaves at most the significant digits above it.
  have below : units < 2 ^ (units.log2 + 1) := Nat.lt_log2_self
  have reach : units.log2 + 1 ≤ format.precision + format.step units := by
    simp only [step]
    omega
  exact below.trans_le (Nat.pow_le_pow_right (by decide) reach)

/-- A rounded count is a number of steps, and at most as many as the significant digits tell. -/
theorem nearest_steps (format : BinaryFormat) (units : Nat) :
    ∃ steps ≤ 2 ^ format.precision,
      format.nearest units 1 = steps * 2 ^ format.step units := by
  -- The quotient has no more digits than the format, and rounding adds one to it at most.
  refine ⟨nearestQuotient units (2 ^ format.step units), ?_, by simp [nearest, twoPow]⟩
  have quotient : units / 2 ^ format.step units < 2 ^ format.precision := by
    rw [Nat.div_lt_iff_lt_mul (Nat.two_pow_pos _), ← Nat.pow_add]
    exact format.lt_two_pow_step units
  have rounded := nearestQuotient_le units (2 ^ format.step units)
  omega

/-- The steps of a finer format divide every count that a coarser one can hold. -/
theorem two_pow_step_dvd {coarse fine : BinaryFormat} (within : coarse.Within fine)
    {units steps : Nat} (few : steps ≤ 2 ^ coarse.precision) :
    2 ^ fine.step (steps * 2 ^ coarse.step units) ∣ steps * 2 ^ coarse.step units := by
  have digits := within.digits
  have someDigit := within.someDigit
  have finest : fine.finest ≤ coarse.step units := within.finest.trans (Nat.le_max_left ..)
  -- No steps at all are divided by anything.
  rcases Nat.eq_zero_or_pos steps with none | positive
  · simp [none]
  rcases few.lt_or_eq with fewer | all
  · -- The digits above the coarse step fit the fine format, so its step is no greater.
    have nonzero : steps * 2 ^ coarse.step units ≠ 0 :=
      (Nat.mul_pos positive (Nat.two_pow_pos _)).ne'
    have below : steps * 2 ^ coarse.step units < 2 ^ (coarse.precision + coarse.step units) := by
      rw [Nat.pow_add]
      exact Nat.mul_lt_mul_of_pos_right fewer (Nat.two_pow_pos _)
    have log : (steps * 2 ^ coarse.step units).log2 < coarse.precision + coarse.step units :=
      (Nat.log2_lt nonzero).mpr below
    have smaller : fine.step (steps * 2 ^ coarse.step units) ≤ coarse.step units := by
      simp only [step] at finest log ⊢
      omega
    exact (Nat.pow_dvd_pow 2 smaller).trans (Nat.dvd_mul_left ..)
  · -- Rounding up to a power of two leaves a single digit.
    rw [all, ← Nat.pow_add]
    refine Nat.pow_dvd_pow 2 ?_
    rw [step, Nat.log2_two_pow]
    omega

/-- A number that was converted to a coarser format stays the same in a finer one. -/
theorem convert_of_within {coarse fine : BinaryFormat} (within : coarse.Within fine)
    (number : Binary64) : fine.convert (coarse.convert number) = coarse.convert number := by
  cases number with
  | nan => rfl
  | infinity negative => rfl
  | finite negative units =>
    obtain ⟨steps, few, spelled⟩ := coarse.nearest_steps units
    have whole : 2 ^ fine.step (steps * 2 ^ coarse.step units) ∣ steps * 2 ^ coarse.step units :=
      two_pow_step_dvd within few
    rw [← spelled] at whole
    simp only [convert, close]
    by_cases out : twoPow coarse.limit ≤ coarse.nearest units 1
    · -- An infinity stays infinite.
      simp only [if_pos out]
    · -- A finite result has whole fine steps, and the fine format reaches at least as far.
      have limit : twoPow coarse.limit ≤ twoPow fine.limit :=
        Nat.pow_le_pow_right (by decide) within.limit
      simp only [if_neg out, fine.nearest_exact whole]
      rw [if_neg (by omega)]

end BinaryFormat

end ConstrainedDecoding
