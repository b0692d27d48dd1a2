import Mathlib.Data.List.TakeWhile
import ConstrainedDecoding.Proofs.Text.Digits
import ConstrainedDecoding.Text.Integer

/-! Integers that are read from a text can be written down again. -/

namespace ConstrainedDecoding.Text

/-- Only the digits of ASCII have a value in base ten, and it is below ten. -/
theorem digitValue?_ten {letter : Letter} {value : Nat}
    (valued : digitValue? 10 letter = some value) : letter.isDigit = true ∧ value < 10 := by
  obtain ⟨found, small⟩ := Option.filter_eq_some_iff.mp valued
  have small : value < 10 := of_decide_eq_true small
  refine ⟨?_, small⟩
  -- The letters that are digits in base sixteen only stand for ten and more.
  simp only [hexValue?, Letter.isDigit, Bool.and_eq_true, decide_eq_true_eq] at found ⊢
  split at found
  · assumption
  · split at found
    · rename_i letters
      have same := Option.some.inj found
      omega
    · split at found
      · have same := Option.some.inj found
        omega
      · cases found

/-- A number that digits spell has at most one decimal place for each of them. -/
theorem digitsFrom?_spec {text : Text} {number result : Nat} {afterDigit : Bool}
    (spelled : digitsFrom? 10 number afterDigit text = some result) :
    (∀ letter ∈ text, letter.isDigit = true ∨ letter = '_') ∧
      result < (number + 1) * 10 ^ text.countP Letter.isDigit := by
  induction text generalizing number afterDigit with
  | nil =>
    cases afterDigit with
    | false => cases spelled
    | true =>
      cases spelled
      simp
  | cons letter rest ih =>
    rw [digitsFrom?] at spelled
    split at spelled
    · rename_i mark
      subst mark
      cases afterDigit with
      | false => cases spelled
      | true =>
        -- An underscore adds no place.
        obtain ⟨marks, bound⟩ := ih spelled
        exact ⟨by simpa using marks, bound⟩
    · split at spelled
      · rename_i value valued
        obtain ⟨isDigit, small⟩ := digitValue?_ten valued
        obtain ⟨marks, bound⟩ := ih spelled
        refine ⟨by simpa [isDigit] using marks, bound.trans_le ?_⟩
        calc (number * 10 + value + 1) * 10 ^ rest.countP Letter.isDigit
            ≤ ((number + 1) * 10) * 10 ^ rest.countP Letter.isDigit :=
              Nat.mul_le_mul_right _ (by omega)
          _ = (number + 1) * 10 ^ (letter :: rest).countP Letter.isDigit := by
              rw [List.countP_cons_of_pos isDigit, Nat.pow_succ']
              ring
      · cases spelled

/-- In base ten there is no base mark to skip. -/
theorem afterBaseMark_ten (text : Text) : afterBaseMark 10 text = text := by
  unfold afterBaseMark
  split
  · simp
  · rfl

/-- An integer that is read from a text is below the greatest one that can be written down. -/
theorem integer?_natAbs_lt {text : Text} {value : Int} (short : excessDigits? text = none)
    (read : integer? 10 text = some value) : value.natAbs < 10 ^ digitLimit := by
  simp only [integer?, afterBaseMark_ten] at read
  cases spelled : digitsFrom? 10 0 false (signAndDigits text).2 with
  | none => simp [spelled] at read
  | some number =>
    obtain ⟨marks, bound⟩ := digitsFrom?_spec spelled
    have abs : value.natAbs = number := by
      simp only [spelled, Option.bind_eq_bind, Option.bind_some, Option.pure_def, Option.map_some,
        Option.some.injEq] at read
      split at read <;> omega
    -- All of the text after the sign is the run whose digits are counted.
    have run : (signAndDigits text).2.takeWhile
        (fun letter => letter.isDigit || letter = .char '_') = (signAndDigits text).2 :=
      List.takeWhile_eq_self_iff.mpr fun letter member => by simpa using marks letter member
    have few : (signAndDigits text).2.countP Letter.isDigit ≤ digitLimit := by
      by_contra many
      rw [excessDigits?, run, overlong?] at short
      simp [spelled, not_le.mp many] at short
    calc value.natAbs = number := abs
      _ < (0 + 1) * 10 ^ (signAndDigits text).2.countP Letter.isDigit := bound
      _ ≤ (0 + 1) * 10 ^ digitLimit := Nat.mul_le_mul_left _ (Nat.pow_le_pow_right (by decide) few)
      _ = 10 ^ digitLimit := by rw [Nat.zero_add, Nat.one_mul]

end ConstrainedDecoding.Text
