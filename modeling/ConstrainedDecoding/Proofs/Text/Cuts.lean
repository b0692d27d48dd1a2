import Mathlib.Data.List.TakeWhile
import ConstrainedDecoding.Text.Basic
import ConstrainedDecoding.Text.Blank

/-! Where a text is cut: after its beginning, at a separator, and where a run of white space ends. -/

namespace ConstrainedDecoding

/-- Two parts around a separator are the same text as two others just if they are these, or they cut
that text at another separator. -/
theorem append_cons_eq_append_cons_iff {α : Type} {separator : α}
    {left right otherLeft otherRight : List α} :
    left ++ separator :: right = otherLeft ++ separator :: otherRight ↔
      (left = otherLeft ∧ right = otherRight) ∨
      (∃ middle, otherLeft = left ++ separator :: middle ∧
        right = middle ++ separator :: otherRight) ∨
      ∃ middle, left = otherLeft ++ separator :: middle ∧
        otherRight = middle ++ separator :: right := by
  constructor
  · intro same
    -- One left part goes on where the other one ends, by nothing or by a separator.
    rcases List.append_eq_append_iff.mp same with ⟨more, rfl, rest⟩ | ⟨more, rfl, rest⟩
    · cases more with
      | nil => exact .inl ⟨(List.append_nil _).symm, (List.cons.inj rest).2⟩
      | cons first middle =>
        obtain ⟨rfl, after⟩ := List.cons_eq_cons.mp rest
        exact .inr (.inl ⟨middle, rfl, after⟩)
    · cases more with
      | nil => exact .inl ⟨List.append_nil _, (List.cons.inj rest).2.symm⟩
      | cons first middle =>
        obtain ⟨rfl, after⟩ := List.cons_eq_cons.mp rest
        exact .inr (.inr ⟨middle, rfl, after⟩)
  · rintro (⟨rfl, rfl⟩ | ⟨middle, rfl, rfl⟩ | ⟨middle, rfl, rfl⟩)
    · rfl
    · simp
    · simp

namespace Text

/-- A text has a beginning just if it is that beginning and something after it. -/
theorem after?_eq_some_iff {α : Type} [DecidableEq α] {beginning text rest : List α} :
    after? beginning text = some rest ↔ text = beginning ++ rest := by
  -- By induction on the beginning, letter by letter.
  induction beginning generalizing text with
  | nil => simp [after?]
  | cons expected beginning ih =>
    cases text with
    | nil => simp [after?]
    | cons found text =>
      simp only [after?, List.cons_append, List.cons.injEq]
      split
      · rename_i same
        rw [ih, same]
        simp
      · rename_i other
        simp [Ne.symm other]

/-- A run of white space, line breaks among it. -/
def IsGap (gap : Text) : Prop :=
  ∀ letter ∈ gap, isBlank letter = true

variable {gap other rest otherRest : Text} {letter otherLetter : Letter}

/-- What stands before the first visible letter of a text is a gap. -/
theorem isGap_takeWhile (text : Text) : IsGap (text.takeWhile isBlank) :=
  fun _ member => List.mem_takeWhile_imp member

/-- A gap goes up to the first visible letter. -/
theorem IsGap.dropWhile (blank : IsGap gap) (visible : isBlank letter = false) :
    (gap ++ letter :: rest).dropWhile isBlank = letter :: rest := by
  rw [List.dropWhile_append_of_pos blank, List.dropWhile_cons_of_neg (by simp [visible])]

/-- A text has one gap before its first visible letter. -/
theorem IsGap.cancel (blank : IsGap gap) (visible : isBlank letter = false)
    (otherBlank : IsGap other) (otherVisible : isBlank otherLetter = false)
    (same : gap ++ letter :: rest = other ++ otherLetter :: otherRest) :
    gap = other ∧ rest = otherRest := by
  -- Without its gap the text is the same, too.
  have after : letter :: rest = otherLetter :: otherRest := by
    rw [← blank.dropWhile visible, same, otherBlank.dropWhile otherVisible]
  rw [after] at same
  exact ⟨List.append_cancel_right same, (List.cons.inj after).2⟩

end Text

end ConstrainedDecoding
