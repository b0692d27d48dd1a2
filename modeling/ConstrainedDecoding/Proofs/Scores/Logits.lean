import ConstrainedDecoding.Proofs.Number.Format
import ConstrainedDecoding.Scores.Basic

/-! Scores in the narrower precisions, which are compared just as they are. -/

namespace ConstrainedDecoding

namespace Precision

/-- A number is one that scores of a precision can be. -/
def Holds (precision : Precision) (number : Binary64) : Prop :=
  precision.format.convert number = number

instance (precision : Precision) (number : Binary64) : Decidable (precision.Holds number) :=
  inferInstanceAs (Decidable (_ = _))

/-- Every precision holds the numbers that are stored in it. -/
theorem holds_convert (precision : Precision) (number : Binary64) :
    precision.Holds (precision.format.convert number) := by
  -- Converting twice is converting once, because a format is within itself.
  have digit : 1 ≤ precision.format.precision := by cases precision <;> decide
  exact BinaryFormat.convert_of_within ⟨le_rfl, digit, le_rfl, le_rfl⟩ number

/-- Single precision holds what the narrower precisions hold. -/
theorem within_single {precision : Precision} (narrow : precision ≠ .double) :
    precision.format.Within .single := by
  -- Single precision has the most digits, the finest step and the widest range of the three.
  cases precision with
  | half => exact ⟨by decide, by decide, by decide, by decide⟩
  | brain => exact ⟨by decide, by decide, by decide, by decide⟩
  | single => exact ⟨by decide, by decide, by decide, by decide⟩
  | double => exact absurd rfl narrow

end Precision

/-- The scores of one step: at least one, in a precision that single precision is fine enough for. -/
structure Logits where
  precision : Precision
  values : List Binary64
  narrow : precision ≠ .double
  held : ∀ value ∈ values, precision.Holds value
  nonempty : values ≠ []

namespace Logits

/-- Logits with other values in place of their own. -/
def array (logits : Logits) (values : List Binary64) : ScoreArray :=
  ⟨[logits.values.length], .floats logits.precision values⟩

/-- Numbers stored as logits. -/
def ofNumbers (precision : Precision) (narrow : precision ≠ .double) (numbers : List Binary64)
    (nonempty : numbers ≠ []) : Logits where
  precision
  values := numbers.map precision.format.convert
  narrow
  held value member := by
    obtain ⟨number, _, rfl⟩ := List.mem_map.mp member
    exact precision.holds_convert number
  nonempty empty := nonempty (List.map_eq_nil_iff.mp empty)

/-- Logits are compared as they are. -/
theorem single_eq (logits : Logits) :
    (Scores.floats logits.precision logits.values).single = logits.values := by
  -- Values that a precision holds survive the way through single precision.
  have kept : ∀ value ∈ logits.values, BinaryFormat.single.convert value = value := by
    intro value member
    have stored : logits.precision.format.convert value = value := logits.held value member
    rw [← stored, BinaryFormat.convert_of_within (Precision.within_single logits.narrow)]
  exact (List.map_congr_left kept).trans (List.map_id' _)

/-- Four logits with a tie, an infinity and a NaN among them. -/
def mixed : Logits :=
  ofNumbers .half (by decide) [.finite true 0, .infinity false, .nan, .finite false 0] (by decide)

/-- Four logits, of which the first cannot be chosen and the others rank as they stand. -/
def descending : Logits :=
  ofNumbers .half (by decide) [.nan, .infinity false, .finite false 0, .finite true 0] (by decide)

end Logits

end ConstrainedDecoding
