import Mathlib.Order.BoundedOrder.Basic
import Mathlib.Order.Defs.LinearOrder
import ConstrainedDecoding.Scores.Candidates

/-! Numbers compare as their heights do, and heights are linearly ordered. -/

namespace ConstrainedDecoding

/-- Where a number stands among all numbers: at either end, or at a count of units. -/
inductive Height where
  | bottom
  | units (count : Int)
  | top
  deriving DecidableEq

namespace Height

/-- A height is at most another. -/
def le : Height → Height → Bool
  | bottom, _ => true
  | _, top => true
  | units count, units other => count ≤ other
  | _, _ => false

instance : LE Height where
  le left right := left.le right = true

instance : LT Height where
  lt left right := left ≤ right ∧ ¬right ≤ left

instance : Bot Height where
  bot := bottom

instance : DecidableLE Height := fun _ _ =>
  inferInstanceAs (Decidable (_ = true))

instance : DecidableLT Height := fun left right =>
  inferInstanceAs (Decidable (left ≤ right ∧ ¬right ≤ left))

/-- Each height is at most itself. -/
theorem le_refl (height : Height) : height.le height = true := by
  cases height <;> simp [le]

/-- Being at most another height is transitive. -/
theorem le_trans (first second third : Height) (lower : first.le second = true)
    (upper : second.le third = true) : first.le third = true := by
  cases first <;> cases second <;> cases third <;> simp_all [le]
  omega

/-- Heights that are at most each other are the same. -/
theorem le_antisymm (first second : Height) (lower : first.le second = true)
    (upper : second.le first = true) : first = second := by
  cases first <;> cases second <;> simp_all [le]
  omega

/-- Of two heights, one is at most the other. -/
theorem le_total (first second : Height) : first.le second = true ∨ second.le first = true := by
  cases first <;> cases second <;> simp [le]
  omega

instance : LinearOrder Height where
  le_refl := le_refl
  le_trans := le_trans
  le_antisymm := le_antisymm
  le_total := le_total
  lt_iff_le_not_ge _ _ := Iff.rfl
  toDecidableLE := inferInstance
  toDecidableEq := inferInstance
  toDecidableLT := inferInstance

instance : OrderBot Height where
  bot_le _ := rfl

/-- The bottom is the least height of the order. -/
@[simp] theorem bottom_eq_bot : bottom = ⊥ := rfl

/-- Nothing is above the top. -/
theorem le_top (height : Height) : height ≤ top := by
  cases height <;> rfl

/-- Counts of units are as high as they are great. -/
theorem units_le_units (count other : Int) : units count ≤ units other ↔ count ≤ other :=
  decide_eq_true_iff

end Height

namespace Binary64

/-- Where a number stands. A NaN stands with the least of all numbers. -/
def height : Binary64 → Height
  | nan => .bottom
  | infinity true => .bottom
  | infinity false => .top
  | finite negative units => .units (signed negative units)

/-- Numbers other than NaNs compare as their heights do. -/
theorem le_iff_height {left right : Binary64} (leftReal : left ≠ nan) (rightReal : right ≠ nan) :
    left.le right = true ↔ left.height ≤ right.height := by
  have same : left.le right = left.height.le right.height := by
    -- Infinities are at the ends, and finite numbers compare by their signed counts.
    cases left with
    | nan => exact absurd rfl leftReal
    | infinity negative =>
      cases right with
      | nan => exact absurd rfl rightReal
      | infinity other => cases negative <;> cases other <;> rfl
      | finite other units => cases negative <;> rfl
    | finite negative units =>
      cases right with
      | nan => exact absurd rfl rightReal
      | infinity other => cases other <;> rfl
      | finite other others => rfl
  -- The order of the heights was defined by this comparison.
  rw [same]
  exact Iff.rfl

/-- Numbers other than NaNs are below each other as their heights are. -/
theorem lt_iff_height {left right : Binary64} (leftReal : left ≠ nan) (rightReal : right ≠ nan) :
    left.lt right = true ↔ left.height < right.height := by
  -- Being below is being at most without being at least.
  simp only [lt, Bool.and_eq_true, Bool.not_eq_true', ← Bool.not_eq_true,
    le_iff_height leftReal rightReal, le_iff_height rightReal leftReal]
  exact lt_iff_le_not_ge.symm

/-- Of two numbers one below the other, neither is a NaN. -/
theorem real_of_lt {left right : Binary64} (less : left.lt right = true) :
    left ≠ nan ∧ right ≠ nan := by
  -- A NaN is neither below anything nor above it.
  constructor
  · rintro rfl
    cases less
  · rintro rfl
    cases left with
    | infinity negative => cases negative <;> cases less
    | _ => cases less

/-- A number below another stands below it. -/
theorem height_lt_of_lt {left right : Binary64} (less : left.lt right = true) :
    left.height < right.height :=
  (lt_iff_height (real_of_lt less).1 (real_of_lt less).2).mp less

/-- What must never be chosen stands at the bottom. -/
@[simp] theorem height_forbidden : forbidden.height = ⊥ := rfl

/-- Among numbers other than NaNs, only what must never be chosen stands at the bottom. -/
theorem eq_forbidden_of_height {number : Binary64} (real : number ≠ nan)
    (bottom : number.height = ⊥) : number = forbidden := by
  -- A finite number stands at a count of units, and infinities are at either end.
  cases number with
  | nan => exact absurd rfl real
  | infinity negative => cases negative <;> simp_all [height, forbidden]
  | finite negative units => simp [height] at bottom

end Binary64

namespace Candidate

/-- A score can be chosen if it stands above the bottom. -/
theorem isEligible_iff (score : Binary64) : isEligible score = true ↔ ⊥ < score.height := by
  -- A NaN compares with nothing, and it stands at the bottom.
  by_cases real : score = .nan
  · simp [real, isEligible, forbidden, Binary64.lt, Binary64.le, Binary64.height]
  · rw [isEligible, Binary64.lt_iff_height (by simp [forbidden]) real, Binary64.height_forbidden]

/-- A score can be chosen if it is neither a NaN nor what must not be chosen. -/
theorem isEligible_iff_ne (score : Binary64) :
    isEligible score = true ↔ score ≠ .nan ∧ score ≠ forbidden := by
  rw [isEligible_iff, bot_lt_iff_ne_bot]
  -- Only NaNs and the forbidden score stand at the bottom.
  constructor
  · intro above
    constructor <;> rintro rfl <;> exact above rfl
  · rintro ⟨real, allowed⟩ bottom
    exact allowed (Binary64.eq_forbidden_of_height real bottom)

/-- Ranking a score does not move it. -/
@[simp] theorem height_ranked (score : Binary64) : (ranked score).height = score.height := by
  -- Only a NaN is ranked as another score, which stands where the NaN did.
  by_cases real : score = .nan <;> simp [ranked, real, Binary64.height, forbidden]

/-- No score is ranked as a NaN. -/
theorem ranked_ne_nan (score : Binary64) : ranked score ≠ .nan := by
  -- A NaN is ranked as the masked score, and any other score as itself.
  by_cases real : score = .nan <;> simp [ranked, real, forbidden]

/-- A score that can be chosen is ranked as it is. -/
theorem ranked_of_isEligible {score : Binary64} (eligible : isEligible score = true) :
    ranked score = score :=
  -- A NaN is the only score that is ranked as another one, and it cannot be chosen.
  if_neg ((isEligible_iff_ne score).mp eligible).1

end Candidate

end ConstrainedDecoding
