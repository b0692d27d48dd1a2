import Mathlib.Data.Nat.Digits.Defs
import Mathlib.Tactic.Ring
import ConstrainedDecoding.Number.Decimal
import ConstrainedDecoding.Text.Integer

/-! The digits of a number spell that number, in base ten and in base sixteen. -/

namespace ConstrainedDecoding

namespace Letter

/-- The code point of the number of a letter is the letter. -/
theorem ofNumber_number (letter : Letter) : ofNumber letter.number = letter := by
  cases letter with
  | char value =>
    -- No character has the number of a surrogate.
    have outside : ¬(0xD800 ≤ value.toNat ∧ value.toNat ≤ 0xDFFF) := by
      have valid : value.toNat < 0xD800 ∨ 0xDFFF < value.toNat ∧ value.toNat < 0x110000 :=
        value.valid
      omega
    simp only [number, ofNumber, dif_neg outside, Char.ofNat_toNat]
  | surrogate index =>
    have inside : 0xD800 ≤ 0xD800 + index.val ∧ 0xD800 + index.val ≤ 0xDFFF := by omega
    simp only [number, ofNumber, dif_pos inside, Nat.add_sub_cancel_left]

end Letter

namespace Text

/-- The digit of each value below sixteen has that value. -/
theorem hexValue?_hexDigit : ∀ value < 16, hexValue? (hexDigit value) = some value := by
  decide

/-- Hexadecimal digits spell the number that they are of, up to their width. -/
theorem hexNumber?_hexDigits (width number : Nat) :
    hexNumber? (ofChars (hexDigits width number)) = some (number % 16 ^ width) := by
  -- The last digit is the lowest one, so it is the width that shrinks, and the number with it.
  induction width generalizing number with
  | zero => simp [hexDigits, hexNumber?, ofChars, Nat.mod_one]
  | succ width ih =>
    have last := hexValue?_hexDigit (number % 16) (by omega)
    have high : List.foldl _ (some 0) (ofChars (hexDigits width (number / 16))) = _ :=
      ih (number / 16)
    rw [hexNumber?, hexDigits, ofChars, List.map_append, List.foldl_append]
    rw [ofChars] at high
    simp only [high, List.map_cons, List.map_nil, List.foldl_cons, List.foldl_nil, last]
    rw [Nat.pow_succ', Nat.mod_mul]
    show some (number / 16 % 16 ^ width * 16 + number % 16) = _
    rw [Nat.add_comm, Nat.mul_comm]

end Text

/-- The digits of a number are digits. -/
theorem decimalDigits_isDigit {number : Nat} {char : Char}
    (member : char ∈ decimalDigits number) : char.isDigit = true :=
  Nat.isDigit_of_mem_toDigits (by decide) (by decide) member

/-- The letters of a number in decimal are digits. -/
theorem isDigit_of_mem_decimalDigits {number : Nat} {letter : Letter}
    (member : letter ∈ Text.ofChars (decimalDigits number)) : letter.isDigit = true := by
  obtain ⟨digit, among, rfl⟩ := List.mem_map.mp member
  have isDigit := decimalDigits_isDigit among
  -- The two classes of digits are the same range of code points.
  simp only [Char.isDigit, Bool.and_eq_true, decide_eq_true_eq] at isDigit
  have range : 0x30 ≤ digit.toNat ∧ digit.toNat ≤ 0x39 := isDigit
  simp [Letter.isDigit, Letter.number, range]

/-- A number is written with a digit at least. -/
theorem decimalDigits_cons (number : Nat) :
    ∃ first rest, decimalDigits number = first :: rest ∧ (Letter.char first).isDigit = true := by
  -- Every number has a digit, zero included.
  cases spelled : decimalDigits number with
  | nil => exact absurd spelled Nat.toDigits_ne_nil
  | cons first rest =>
    have member : Letter.char first ∈ Text.ofChars (decimalDigits number) := by
      rw [spelled]
      exact List.mem_cons_self
    exact ⟨first, rest, rfl, isDigit_of_mem_decimalDigits member⟩

/-- A number is written as a lone zero, or it does not begin with one. -/
theorem decimalDigits_cases (number : Nat) :
    decimalDigits number = ['0'] ∨
      ∃ first rest, decimalDigits number = first :: rest ∧ first ≠ '0' := by
  induction number using Nat.strongRecOn with
  | ind number ih =>
    by_cases small : number < 10
    · rw [decimalDigits, Nat.toDigits_of_lt_base small]
      have digits : ∀ value < 10, Nat.digitChar value = '0' ∨ Nat.digitChar value ≠ '0' := by decide
      rcases digits number small with zero | other
      · exact .inl (by rw [zero])
      · exact .inr ⟨_, [], rfl, other⟩
    · -- The first digit is that of the number without its last one, which is not zero.
      have steps :
          decimalDigits number = decimalDigits (number / 10) ++ [(number % 10).digitChar] :=
        Nat.toDigits_of_base_le (by decide) (by omega)
      rcases ih (number / 10) (by omega) with zero | ⟨first, rest, shorter, other⟩
      · have spelled := congrArg (fun digits => Nat.ofDigitChars 10 digits 0) zero
        simp only [decimalDigits, Nat.ofDigitChars_toDigits (by decide : 1 < 10) (le_refl 10)]
          at spelled
        have none : Nat.ofDigitChars 10 ['0'] 0 = 0 := rfl
        omega
      · exact .inr ⟨first, rest ++ [(number % 10).digitChar], by rw [steps, shorter]; rfl, other⟩

/-- Digits that are read as characters spell the same number as letters. -/
theorem digitsNumber_ofChars (digits : List Char) (number : Nat) :
    Text.digitsNumber number (Text.ofChars digits) = Nat.ofDigitChars 10 digits number := by
  induction digits generalizing number with
  | nil => rfl
  | cons digit rest ih =>
    -- The first digit is taken up by the number that the others continue.
    show Text.digitsNumber (number * 10 + (digit.toNat - 48)) (Text.ofChars rest) =
      Nat.ofDigitChars 10 rest (10 * number + (digit.toNat - 48))
    rw [ih, Nat.mul_comm]

/-- The decimal digits of a number spell the number. -/
theorem digitsNumber_decimalDigits (number : Nat) :
    Text.digitsNumber 0 (Text.ofChars (decimalDigits number)) = number := by
  rw [digitsNumber_ofChars]
  exact Nat.ofDigitChars_toDigits (by decide) (le_refl 10)

/-- A number has as many decimal digits as it needs to be below a power of ten. -/
theorem decimalDigits_length_le {number limit : Nat} (some : 0 < limit) :
    (decimalDigits number).length ≤ limit ↔ number < 10 ^ limit :=
  Nat.length_toDigits_le_iff (by decide) some

/-- A number that digits spell is below the power of ten of their count. -/
theorem digitsNumber_lt (digits : Text) (isDigit : ∀ letter ∈ digits, letter.isDigit = true) :
    Text.digitsNumber 0 digits < 10 ^ digits.length := by
  -- Each digit makes room for one more decimal place.
  have general : ∀ (digits : Text) (number : Nat), (∀ letter ∈ digits, letter.isDigit = true) →
      Text.digitsNumber number digits < (number + 1) * 10 ^ digits.length := by
    intro digits
    induction digits with
    | nil =>
      intro number _
      simp [Text.digitsNumber]
    | cons digit rest ih =>
      intro number isDigit
      have upper : digit.number - 48 ≤ 9 := by
        have first := isDigit digit List.mem_cons_self
        simp only [Letter.isDigit, Bool.and_eq_true, decide_eq_true_eq] at first
        omega
      have later := ih (number * 10 + (digit.number - 48)) fun letter member =>
        isDigit letter (List.mem_cons_of_mem digit member)
      calc Text.digitsNumber number (digit :: rest)
          = Text.digitsNumber (number * 10 + (digit.number - 48)) rest := rfl
        _ < (number * 10 + (digit.number - 48) + 1) * 10 ^ rest.length := later
        _ ≤ ((number + 1) * 10) * 10 ^ rest.length := Nat.mul_le_mul_right _ (by omega)
        _ = (number + 1) * 10 ^ (digit :: rest).length := by
          rw [List.length_cons, Nat.pow_succ']
          ring
  have bound := general digits 0 isDigit
  rwa [Nat.zero_add, Nat.one_mul] at bound

end ConstrainedDecoding
