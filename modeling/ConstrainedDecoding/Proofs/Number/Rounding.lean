import Mathlib.Algebra.Order.Ring.Nat
import ConstrainedDecoding.Proofs.Number.Format
import ConstrainedDecoding.Proofs.Number.Height

/-! Rounding to a binary format keeps the order of numbers. -/

namespace ConstrainedDecoding

/-- Rounding goes down to the quotient of the division at most. -/
theorem le_nearestQuotient (numerator denominator : Nat) :
    numerator / denominator ≤ nearestQuotient numerator denominator := by
  -- Rounding leaves the quotient, or it goes up by one.
  simp only [nearestQuotient]
  split
  · exact le_rfl
  · split <;> omega

/-- A greater numerator is not rounded to a lower quotient. -/
theorem nearestQuotient_mono {numerator other : Nat} (le : numerator ≤ other) (denominator : Nat) :
    nearestQuotient numerator denominator ≤ nearestQuotient other denominator := by
  rcases (Nat.div_le_div_right (c := denominator) le).lt_or_eq with less | same
  · -- Rounding up from a lower quotient goes no further than the next one.
    calc nearestQuotient numerator denominator
        ≤ numerator / denominator + 1 := nearestQuotient_le numerator denominator
      _ ≤ other / denominator := less
      _ ≤ nearestQuotient other denominator := le_nearestQuotient other denominator
  · -- With the same quotient, the greater numerator leaves the greater remainder.
    have remainder : numerator % denominator ≤ other % denominator := by
      have left := Nat.div_add_mod numerator denominator
      have right := Nat.div_add_mod other denominator
      rw [same] at left
      omega
    simp only [nearestQuotient, same]
    repeat' split
    all_goals omega

namespace BinaryFormat

/-- The steps between neighbours do not get finer as numbers get greater. -/
theorem step_mono (format : BinaryFormat) {units others : Nat} (le : units ≤ others) :
    format.step units ≤ format.step others := by
  -- A greater number has at least as many binary digits, unless the lesser one is zero.
  have digits : units.log2 ≤ others.log2 := by
    rcases Nat.eq_zero_or_pos units with rfl | positive
    · simp
    · exact (Nat.le_log2 (by omega)).mpr ((Nat.log2_self_le positive.ne').trans le)
  simp only [step]
  omega

/-- A count of at least so many of its steps is not rounded to fewer. -/
theorem le_nearest (format : BinaryFormat) {units steps : Nat}
    (le : steps * 2 ^ format.step units ≤ units) :
    steps * 2 ^ format.step units ≤ format.nearest units 1 := by
  -- The quotient counts whole steps, and it is not rounded down any further.
  have quotient : steps ≤ units / 2 ^ format.step units :=
    (Nat.le_div_iff_mul_le (Nat.two_pow_pos _)).mpr le
  simp only [nearest, Nat.div_one, Nat.one_mul, twoPow, Nat.pow_eq]
  exact Nat.mul_le_mul_right _ (quotient.trans (le_nearestQuotient _ _))

/-- Where the steps are not the finest, a count has all significant digits. -/
theorem two_pow_mul_le_of_step {format : BinaryFormat} (someDigit : 1 ≤ format.precision)
    {units : Nat} (coarse : format.finest < format.step units) :
    2 ^ (format.precision - 1) * 2 ^ format.step units ≤ units := by
  -- Zero has the finest steps.
  have nonzero : units ≠ 0 := by
    rintro rfl
    simp only [step, Nat.log2_zero] at coarse
    omega
  have leading : format.precision - 1 + format.step units = units.log2 := by
    simp only [step] at coarse ⊢
    omega
  rw [← Nat.pow_add, leading]
  exact Nat.log2_self_le nonzero

/-- A greater count is not rounded to a lower one. -/
theorem nearest_mono {format : BinaryFormat} (someDigit : 1 ≤ format.precision)
    {units others : Nat} (le : units ≤ others) :
    format.nearest units 1 ≤ format.nearest others 1 := by
  rcases (format.step_mono le).lt_or_eq with finer | same
  · -- All digits in finer steps are no more than the leading digit in coarser ones.
    obtain ⟨steps, few, spelled⟩ := format.nearest_steps units
    have coarse : format.finest < format.step others := (Nat.le_max_left _ _).trans_lt finer
    calc format.nearest units 1
        = steps * 2 ^ format.step units := spelled
      _ ≤ 2 ^ format.precision * 2 ^ format.step units := Nat.mul_le_mul_right _ few
      _ = 2 ^ (format.precision + format.step units) := (Nat.pow_add ..).symm
      _ ≤ 2 ^ (format.precision - 1 + format.step others) :=
          Nat.pow_le_pow_right (by decide) (by omega)
      _ = 2 ^ (format.precision - 1) * 2 ^ format.step others := Nat.pow_add ..
      _ ≤ format.nearest others 1 :=
          format.le_nearest (two_pow_mul_le_of_step someDigit coarse)
  · -- With the same steps, the greater count has the greater quotient.
    simp only [nearest, Nat.div_one, Nat.one_mul, twoPow, Nat.pow_eq, same]
    exact Nat.mul_le_mul_right _ (nearestQuotient_mono le _)

/-- Greater counts convert to numbers farther from zero, on both sides of it. -/
theorem close_mono {format : BinaryFormat} (someDigit : 1 ≤ format.precision)
    {units others : Nat} (le : units ≤ others) :
    (format.close false units 1).height ≤ (format.close false others 1).height ∧
      (format.close true others 1).height ≤ (format.close true units 1).height := by
  have rounded := nearest_mono someDigit le
  simp only [close]
  -- A count beyond the range stays beyond it, and an infinity is at either end.
  by_cases far : twoPow format.limit ≤ format.nearest others 1
  · rw [if_pos far, if_pos far]
    exact ⟨Height.le_top _, bot_le⟩
  · rw [if_neg far, if_neg (by omega), if_neg far, if_neg (by omega)]
    simp only [Binary64.height, Height.units_le_units, signed]
    constructor <;> simp <;> omega

/-- Numbers convert to numbers on their own side of zero. -/
theorem close_side (format : BinaryFormat) (units others : Nat) :
    (format.close true units 1).height ≤ (format.close false others 1).height := by
  -- Zero lies between the two sides.
  have left : (format.close true units 1).height ≤ .units 0 := by
    simp only [close]
    split
    · exact bot_le
    · simp [Binary64.height, Height.units_le_units, signed]
  have right : .units 0 ≤ (format.close false others 1).height := by
    simp only [close]
    split
    · exact Height.le_top _
    · simp [Binary64.height, Height.units_le_units, signed]
  exact left.trans right

/-- The two zeros convert to each other's height. -/
theorem height_close_zero (format : BinaryFormat) (negative : Bool) :
    (format.close negative 0 1).height = .units 0 := by
  -- Zero is rounded to itself, which is inside every range.
  have zero : format.nearest 0 1 = 0 := format.nearest_exact (Nat.dvd_zero _)
  have inside : ¬twoPow format.limit ≤ 0 := (Nat.two_pow_pos format.limit).not_ge
  simp only [close, zero, if_neg inside]
  cases negative <;> rfl

/-- Converting numbers to a format keeps their order, though it may bring them together. -/
theorem convert_mono {format : BinaryFormat} (someDigit : 1 ≤ format.precision)
    {left right : Binary64} (le : left.height ≤ right.height) :
    (format.convert left).height ≤ (format.convert right).height := by
  cases left with
  | nan => exact bot_le
  | infinity negative =>
    cases negative with
    | true => exact bot_le
    | false =>
      -- Nothing but the same infinity is as high.
      cases right with
      | nan => cases le
      | infinity other => exact le
      | finite other others => cases le
  | finite negative units =>
    cases right with
    | nan => cases le
    | infinity other =>
      cases other with
      | true => cases le
      | false => exact Height.le_top _
    | finite other others =>
      simp only [Binary64.height, Height.units_le_units] at le
      cases negative <;> cases other <;> simp only [signed] at le
      · exact (close_mono someDigit (by simpa using le)).1
      · -- Only the zeros are as high as each other across the signs.
        obtain ⟨rfl, rfl⟩ : units = 0 ∧ others = 0 := by simp at le; omega
        simp only [convert, height_close_zero, le_refl]
      · exact format.close_side units others
      · exact (close_mono someDigit (by simpa using le)).2

/-- The least count of units out of the range of single precision. It is halfway between the
greatest number of single precision and the next power of two. -/
def singleEnd : Nat :=
  twoPow (unitExponent + 128) - twoPow (unitExponent + 103)

/-- Single precision rounds a count out of its range from halfway to the next power of two on. -/
theorem single_overflow_iff (units : Nat) :
    twoPow single.limit ≤ single.nearest units 1 ↔ singleEnd ≤ units := by
  -- Rounding keeps the order, so the counts on both sides of the bound decide.
  have out : single.nearest singleEnd 1 = twoPow single.limit := by decide +kernel
  have inside : single.nearest (singleEnd - 1) 1 < twoPow single.limit := by decide +kernel
  have someDigit : 1 ≤ single.precision := by decide
  constructor
  · intro far
    by_contra below
    have rounded := nearest_mono someDigit (Nat.le_sub_one_of_lt (not_le.mp below))
    exact absurd (far.trans rounded) (not_le.mpr inside)
  · intro far
    rw [← out]
    exact nearest_mono someDigit far

end BinaryFormat

end ConstrainedDecoding
