import ConstrainedDecoding.Proofs.Text.Digits

/-! What letters numbers are written with, and how integers differ from all other numbers. -/

namespace ConstrainedDecoding

/-- The letters of numbers besides the digits: signs, points, exponents, and those of words. -/
def numberMarks : List Char :=
  ['-', '+', '.', 'e', 'N', 'a', 'I', 'n', 'f', 'i', 't', 'y']

/-- An integer is written with digits and a minus sign. -/
theorem mem_integerText {value : Int} {char : Char} (member : char ∈ integerText value) :
    char.isDigit = true ∨ char = '-' := by
  unfold integerText at member
  split at member
  · -- The sign comes before the digits of the absolute value.
    rcases List.mem_cons.mp member with rfl | digit
    · exact .inr rfl
    · exact .inl (decimalDigits_isDigit digit)
  · exact .inl (decimalDigits_isDigit member)

/-- The letters of an integer are letters of numbers. -/
theorem mark_of_mem_integerText {value : Int} {char : Char} (member : char ∈ integerText value) :
    char.isDigit = true ∨ char ∈ numberMarks := by
  refine (mem_integerText member).imp_right ?_
  rintro rfl
  decide

/-- Different integers are written differently. -/
theorem integerText_injective {first second : Int} (same : integerText first = integerText second) :
    first = second := by
  -- Equal digits spell the same absolute value.
  have value : ∀ left right : Nat, decimalDigits left = decimalDigits right → left = right := by
    intro left right digits
    rw [← digitsNumber_decimalDigits left, ← digitsNumber_decimalDigits right, digits]
  -- A minus sign is no digit, so the signs are the same too.
  have unsigned : ∀ number digits, decimalDigits number ≠ '-' :: digits := by
    intro number digits begins
    have digit : '-' ∈ decimalDigits number := begins ▸ List.mem_cons_self
    exact absurd (decimalDigits_isDigit digit) (by decide)
  unfold integerText at same
  split at same
  · split at same
    · have same := value _ _ (List.cons.inj same).2
      omega
    · exact absurd same.symm (unsigned _ _)
  · split at same
    · exact absurd same (unsigned _ _)
    · have same := value _ _ same
      omega

namespace NumberLayout

/-- An exponent is written with its mark, a sign and digits. -/
theorem mem_exponentText {layout : NumberLayout} {exponent : Int} {char : Char}
    (member : char ∈ layout.exponentText exponent) :
    char.isDigit = true ∨ char ∈ numberMarks := by
  -- The mark comes first, then the sign, and then the digits with zeros before them.
  unfold exponentText at member
  rcases List.mem_cons.mp member with rfl | member
  · exact .inr (by decide)
  · rcases List.mem_cons.mp member with rfl | member
    · exact .inr (by split <;> decide)
    · rcases List.mem_append.mp member with padding | digit
      · exact .inl (List.eq_of_mem_replicate padding ▸ rfl)
      · exact .inl (decimalDigits_isDigit digit)

/-- A point stands among digits and adds no other letter. -/
theorem mem_insertPoint {digits : List Char} {whole : Nat} {char : Char}
    (member : char ∈ insertPoint digits whole) : char ∈ digits ∨ char = '.' := by
  -- The point stands between the digits that come before it and those after it.
  rcases List.mem_append.mp member with before | after
  · exact .inl (List.mem_of_mem_take before)
  · rcases List.mem_cons.mp after with rfl | after
    · exact .inr rfl
    · exact .inl (List.mem_of_mem_drop after)

/-- A decimal is written with digits and the marks of numbers. -/
theorem mem_decimalText {layout : NumberLayout} {decimal : Decimal} {char : Char}
    (member : char ∈ layout.decimalText decimal) : char.isDigit = true ∨ char ∈ numberMarks := by
  have digit : char ∈ decimalDigits decimal.digits → char.isDigit = true :=
    decimalDigits_isDigit
  have pointed : ∀ whole, char ∈ insertPoint (decimalDigits decimal.digits) whole →
      char.isDigit = true ∨ char ∈ numberMarks := by
    intro whole member
    rcases mem_insertPoint member with among | rfl
    · exact .inl (digit among)
    · exact .inr (by decide)
  have zero : ∀ count, char ∈ List.replicate count '0' → char.isDigit = true :=
    fun count member => List.eq_of_mem_replicate member ▸ rfl
  unfold decimalText at member
  simp only at member
  split at member
  · split at member
    · -- Zeros are added to an integer, and a fraction of zero.
      simp only [List.mem_append, List.mem_cons, List.not_mem_nil, or_false] at member
      rcases member with (among | padding) | rfl | rfl
      · exact .inl (digit among)
      · exact .inl (zero _ padding)
      · exact .inr (by decide)
      · exact .inl rfl
    · split at member
      · exact pointed _ member
      · simp only [List.mem_cons, List.mem_append] at member
        rcases member with rfl | rfl | padding | among
        · exact .inl rfl
        · exact .inr (by decide)
        · exact .inl (zero _ padding)
        · exact .inl (digit among)
  · -- In scientific notation the exponent follows the digits, with a point or without one.
    rcases List.mem_append.mp member with among | exponent
    · split at among
      · exact .inl (digit among)
      · exact pointed _ among
    · exact mem_exponentText exponent

/-- A number is written with digits and the marks of numbers. -/
theorem mem_written {value : Binary64} {char : Char} (member : char ∈ written.text value) :
    char.isDigit = true ∨ char ∈ numberMarks := by
  have sign : ∀ negative : Bool, char ∈ (if negative then ['-'] else []) → char ∈ numberMarks := by
    intro negative member
    cases negative
    · cases member
    · rw [List.mem_singleton.mp member]
      decide
  cases value with
  | nan =>
    have marks : "NaN".toList ⊆ numberMarks := by decide
    exact .inr (marks member)
  | infinity negative =>
    have marks : "Infinity".toList ⊆ numberMarks := by decide
    rcases List.mem_append.mp member with member | member
    · exact .inr (sign negative member)
    · exact .inr (marks member)
  | finite negative units =>
    rcases List.mem_append.mp member with member | member
    · exact .inr (sign negative member)
    · split at member
      · -- Zero has one form, with a fraction.
        simp only [List.mem_cons, List.not_mem_nil, or_false] at member
        rcases member with rfl | rfl | rfl
        · exact .inl rfl
        · exact .inr (by decide)
        · exact .inl rfl
      · exact mem_decimalText member

/-- A decimal is written with a point or an exponent. -/
theorem exists_mark_decimalText (layout : NumberLayout) (decimal : Decimal) :
    '.' ∈ layout.decimalText decimal ∨ 'e' ∈ layout.decimalText decimal := by
  have point : ∀ digits whole, '.' ∈ insertPoint digits whole := by
    intro digits whole
    simp [insertPoint]
  unfold decimalText
  simp only
  split
  · -- In positional notation there is a point in any case.
    left
    split
    · simp
    · split
      · exact point _ _
      · simp
  · right
    exact List.mem_append_right _ List.mem_cons_self

/-- A number is written with a letter that no integer is written with. -/
theorem exists_mark_written (value : Binary64) :
    ∃ char ∈ written.text value, char.isDigit = false ∧ char ≠ '-' := by
  -- Words have capital letters, and decimals a point or an exponent.
  cases value with
  | nan => exact ⟨'N', by decide, by decide, by decide⟩
  | infinity negative => exact ⟨'I', List.mem_append_right _ (by decide), by decide, by decide⟩
  | finite negative units =>
    rw [text]
    by_cases zero : units = 0
    · rw [if_pos zero]
      exact ⟨'.', List.mem_append_right _ (by decide), by decide, by decide⟩
    · rw [if_neg zero]
      rcases exists_mark_decimalText written (Decimal.shortest units) with point | exponent
      · exact ⟨'.', List.mem_append_right _ point, by decide, by decide⟩
      · exact ⟨'e', List.mem_append_right _ exponent, by decide, by decide⟩

/-- No number is written as an integer is. -/
theorem integerText_ne_written (integer : Int) (value : Binary64) :
    integerText integer ≠ written.text value := by
  intro same
  -- Every written number has a letter that is neither a digit nor a sign.
  obtain ⟨char, member, noDigit, noSign⟩ := exists_mark_written value
  rcases mem_integerText (same ▸ member) with digit | sign
  · simp [digit] at noDigit
  · exact noSign sign

end NumberLayout

end ConstrainedDecoding
