import ConstrainedDecoding.Proofs.Text.Digits

/-! The pairs of letters that spell a number in base sixteen, over all of Unicode. -/

namespace ConstrainedDecoding.Text

/-- The value of a digit: a hexadecimal digit of ASCII, or a decimal digit of any script. -/
def numeralDigit? (letter : Letter) : Option Nat :=
  (hexValue? letter).or (decimalDigit? letter)

/-- White space as it may stand around a number: that of Unicode, but for the control separators. -/
def isNumeralBlank (letter : Letter) : Bool :=
  isBlank letter && !(0x1C ≤ letter.number && letter.number ≤ 0x1F)

/-- Two letters that spell a natural number in base sixteen. -/
inductive Numeral : Letter → Letter → Nat → Prop
  | digits {high low : Letter} {first last : Nat} (upper : numeralDigit? high = some first)
    (lower : numeralDigit? low = some last) : Numeral high low (first * 16 + last)
  | positive {low : Letter} {number : Nat} (digit : numeralDigit? low = some number) :
    Numeral '+' low number
  /-- Zero is the only natural number with a minus. -/
  | negative {low : Letter} (digit : numeralDigit? low = some 0) : Numeral '-' low 0
  | before {blank low : Letter} {number : Nat} (space : isNumeralBlank blank = true)
    (digit : numeralDigit? low = some number) : Numeral blank low number
  | after {high blank : Letter} {number : Nat} (digit : numeralDigit? high = some number)
    (space : isNumeralBlank blank = true) : Numeral high blank number

section

variable {letter : Letter} {value : Nat}

/-- A hexadecimal digit of ASCII is one of three ranges, and its value is below sixteen. -/
theorem hexValue?_spec (valued : hexValue? letter = some value) :
    (48 ≤ letter.number ∧ letter.number ≤ 57 ∧ value = letter.number - 48 ∨
      97 ≤ letter.number ∧ letter.number ≤ 102 ∧ value = letter.number - 87 ∨
      65 ≤ letter.number ∧ letter.number ≤ 70 ∧ value = letter.number - 55) ∧ value < 16 := by
  simp only [hexValue?, Bool.and_eq_true, decide_eq_true_eq] at valued
  -- There are three runs of letters that are digits.
  split at valued
  · cases valued
    omega
  · split at valued
    · cases valued
      omega
    · split at valued
      · cases valued
        omega
      · cases valued

/-- A decimal digit is at most nine above the zero of its script, by the value that it has. -/
theorem decimalDigit?_spec (valued : decimalDigit? letter = some value) :
    ∃ start ∈ decimalZeros, letter.number = start + value ∧ value ≤ 9 := by
  obtain ⟨start, found, rfl⟩ := Option.map_eq_some_iff.mp valued
  -- The run that is found is one that the letter lies in.
  have range := List.find?_some found
  simp only [Bool.and_eq_true, decide_eq_true_eq] at range
  exact ⟨start, List.mem_of_find?_eq_some found, by omega, by omega⟩

/-- The zeros are that of ASCII and others far above it, and no white space is near any of them. -/
theorem decimalZeros_apart : ∀ start ∈ decimalZeros, (start = 48 ∨ 0x660 ≤ start) ∧
    ∀ range ∈ blankRanges, range.2 < start ∨ start + 9 < range.1 := by
  decide

/-- A decimal digit is no white space. -/
theorem isBlank_of_decimalDigit? (valued : decimalDigit? letter = some value) :
    isBlank letter = false := by
  obtain ⟨start, zero, same, small⟩ := decimalDigit?_spec valued
  rw [isBlank, inRanges, List.any_eq_false]
  intro range member
  -- No range of blanks meets the ten digits after any zero.
  have apart := (decimalZeros_apart start zero).2 range member
  simp only [Bool.and_eq_true, decide_eq_true_eq]
  omega

/-- The ways in which a letter has a plain form: in ASCII it is its own, and beyond ASCII it counts
as a space, as a digit or as no part of a number. -/
inductive PlainForm : Letter → Letter → Prop
  | ascii {letter : Letter} (inside : letter.number < 127) : PlainForm letter letter
  | space {letter : Letter} (beyond : 127 ≤ letter.number) (blank : isBlank letter = true) :
    PlainForm letter ' '
  | digit {letter : Letter} {value : Nat} (beyond : 127 ≤ letter.number)
    (valued : decimalDigit? letter = some value) : PlainForm letter (hexDigit value)
  | other {letter : Letter} (beyond : 127 ≤ letter.number) (visible : isBlank letter = false)
    (valueless : decimalDigit? letter = none) : PlainForm letter '?'

/-- Every letter has its plain form in one of these ways. -/
theorem plainForm_spec (letter : Letter) : PlainForm letter (plainForm letter) := by
  unfold plainForm
  -- The cases are those in which the form is found, one after the other.
  split
  · rename_i inside
    exact .ascii inside
  · rename_i outside
    have beyond : 127 ≤ letter.number := Nat.not_lt.mp outside
    split
    · rename_i blank
      exact .space beyond blank
    · rename_i visible
      split
      · rename_i valued
        exact .digit beyond valued
      · rename_i valueless
        exact .other beyond (Bool.eq_false_iff.mpr visible) valueless

/-- In ASCII, the digits in base ten are digits in base sixteen of the same value. -/
theorem decimalDigit?_of_ascii {letter : Letter} {value : Nat} (inside : letter.number < 127)
    (valued : decimalDigit? letter = some value) : hexValue? letter = some value := by
  obtain ⟨start, zero, same, small⟩ := decimalDigit?_spec valued
  -- Only the first of all runs of digits lies in ASCII.
  have first : start = 48 := (decimalZeros_apart start zero).1.resolve_right (by omega)
  simp only [hexValue?, Bool.and_eq_true, decide_eq_true_eq]
  rw [if_pos (by omega)]
  exact congrArg some (by omega)

/-- Beyond ASCII there is no hexadecimal digit. -/
theorem hexValue?_of_beyond {letter : Letter} (beyond : 127 ≤ letter.number) :
    hexValue? letter = none := by
  refine Option.eq_none_iff_forall_ne_some.mpr fun value valued => ?_
  have range := (hexValue?_spec valued).1
  omega

/-- The digits of a number are the letters whose plain forms are hexadecimal digits. -/
theorem hexValue?_plainForm (letter : Letter) :
    hexValue? (plainForm letter) = numeralDigit? letter := by
  have form := plainForm_spec letter
  generalize plainForm letter = plain at form
  unfold numeralDigit?
  cases form with
  | ascii inside =>
    cases decimal : decimalDigit? letter with
    | none => rw [Option.or_none]
    | some value => rw [decimalDigit?_of_ascii inside decimal, Option.some_or]
  | space beyond blank =>
    -- A digit would be no white space.
    have valueless : decimalDigit? letter = none :=
      Option.eq_none_iff_forall_ne_some.mpr fun value valued => by
        rw [isBlank_of_decimalDigit? valued] at blank
        cases blank
    rw [hexValue?_of_beyond beyond, valueless]
    rfl
  | @digit value beyond valued =>
    obtain ⟨_, _, _, small⟩ := decimalDigit?_spec valued
    rw [hexValue?_of_beyond beyond, valued, hexValue?_hexDigit value (by omega)]
    rfl
  | other beyond visible valueless =>
    rw [hexValue?_of_beyond beyond, valueless]
    rfl

/-- A letter is the character whose number it has. -/
theorem eq_char_iff {letter : Letter} {char : Char} :
    letter = .char char ↔ letter.number = char.toNat := by
  constructor
  · rintro rfl
    rfl
  · -- A letter is determined by its number.
    intro same
    rw [← Letter.ofNumber_number letter, same]
    exact Letter.ofNumber_number (.char char)

/-- No decimal digit is white space of ASCII or a sign. -/
theorem hexDigit_apart : ∀ value ≤ 9, isAsciiBlank (hexDigit value) = false ∧
    (hexDigit value : Letter) ≠ '+' ∧ (hexDigit value : Letter) ≠ '-' := by
  decide

/-- White space around a number are the letters whose plain forms are white space of ASCII. -/
theorem isAsciiBlank_plainForm (letter : Letter) :
    isAsciiBlank (plainForm letter) = isNumeralBlank letter := by
  have form := plainForm_spec letter
  generalize plainForm letter = plain at form
  -- Among plain letters six are blanks, and of the others just the blank ones become a space.
  cases form with
  | ascii inside =>
    rw [Bool.eq_iff_iff]
    simp only [isAsciiBlank, isNumeralBlank, isBlank, inRanges, blankRanges, List.any_cons,
      List.any_nil, Bool.or_eq_true, Bool.and_eq_true, Bool.not_eq_true', decide_eq_true_eq,
      Bool.and_eq_false_iff, decide_eq_false_iff_not, Bool.false_eq_true, or_false, eq_char_iff,
      show ' '.toNat = 32 from rfl]
    omega
  | space beyond blank =>
    have apart : ¬letter.number ≤ 0x1F := by omega
    simp [isNumeralBlank, blank, apart]
    rfl
  | @digit value beyond valued =>
    obtain ⟨_, _, _, small⟩ := decimalDigit?_spec valued
    rw [isNumeralBlank, isBlank_of_decimalDigit? valued, (hexDigit_apart value small).1]
    rfl
  | other beyond visible valueless =>
    rw [isNumeralBlank, visible]
    rfl

/-- Only a sign has a sign for its plain form. -/
theorem plainForm_eq_sign {letter : Letter} {sign : Char} (isSign : sign = '+' ∨ sign = '-') :
    plainForm letter = sign ↔ letter = sign := by
  have small : sign.toNat < 127 := by
    rcases isSign with rfl | rfl <;> decide
  have apart : 127 ≤ letter.number → letter ≠ sign := fun beyond same => by
    have number := eq_char_iff.mp same
    omega
  have form := plainForm_spec letter
  generalize plainForm letter = plain at form
  -- A plain letter keeps its form, and all others become something that is no sign.
  cases form with
  | ascii inside => rfl
  | space beyond _ =>
    refine iff_of_false ?_ (apart beyond)
    rcases isSign with rfl | rfl <;> decide
  | @digit value beyond valued =>
    obtain ⟨_, _, _, digit⟩ := decimalDigit?_spec valued
    refine iff_of_false ?_ (apart beyond)
    rcases isSign with rfl | rfl
    · exact (hexDigit_apart value digit).2.1
    · exact (hexDigit_apart value digit).2.2
  | other beyond _ _ =>
    refine iff_of_false ?_ (apart beyond)
    rcases isSign with rfl | rfl <;> decide

end

section

variable {letter high low : Letter} {value : Nat}

/-- A digit of a number is below sixteen. -/
theorem numeralDigit?_lt (valued : numeralDigit? letter = some value) : value < 16 := by
  rw [← hexValue?_plainForm] at valued
  exact (hexValue?_spec valued).2

/-- A digit of a number is neither white space nor a sign. -/
theorem apart_of_numeralDigit? (valued : numeralDigit? letter = some value) :
    isNumeralBlank letter = false ∧ letter ≠ '+' ∧ letter ≠ '-' := by
  -- In its plain form the letter is a digit, and neither a blank nor a sign is one.
  refine ⟨?_, ?_, ?_⟩
  · rw [← hexValue?_plainForm] at valued
    have range := (hexValue?_spec valued).1
    rw [← isAsciiBlank_plainForm]
    simp only [isAsciiBlank, eq_char_iff, show ' '.toNat = 32 from rfl, Bool.or_eq_false_iff,
      decide_eq_false_iff_not, Bool.and_eq_false_iff]
    omega
  · rintro rfl
    cases valued
  · rintro rfl
    cases valued

/-- The digits in base sixteen are the hexadecimal ones. -/
theorem digitValue?_sixteen (letter : Letter) : digitValue? 16 letter = hexValue? letter := by
  cases valued : hexValue? letter with
  | none => rw [digitValue?, valued, Option.filter_none]
  | some value =>
    rw [digitValue?, valued, Option.filter_some, if_pos (decide_eq_true (hexValue?_spec valued).2)]

/-- A number goes on with a last digit, and with nothing else. -/
theorem digitsFrom?_single (number : Nat) (afterDigit : Bool) (letter : Letter) :
    digitsFrom? 16 number afterDigit [letter] = (hexValue? letter).map (number * 16 + ·) := by
  rw [digitsFrom?]
  split
  · -- An underscore is no digit, and none follows it.
    rename_i mark
    subst mark
    cases afterDigit <;> rfl
  · rw [digitValue?_sixteen]
    cases hexValue? letter <;> rfl

/-- Two letters, where a mark of the base may stand, are a number if both are digits. -/
theorem digitsFrom?_pair (high low : Letter) :
    digitsFrom? 16 0 false (afterBaseMark 16 [high, low]) =
      (hexValue? high).bind fun first => (hexValue? low).map (first * 16 + ·) := by
  by_cases marked : high = '0' ∧ (low = 'x' ∨ low = 'X')
  · -- After the mark of the base there is no digit left.
    obtain ⟨rfl, rfl | rfl⟩ := marked <;> rfl
  · have unmarked : afterBaseMark 16 [high, low] = [high, low] := by
      unfold afterBaseMark
      split
      · rename_i mark rest same
        cases same
        simp only [true_and, not_or] at marked
        simp [marked]
      · rfl
    rw [unmarked, digitsFrom?]
    split
    · rename_i mark
      subst mark
      rfl
    · rw [digitValue?_sixteen]
      cases valued : hexValue? high with
      | none => rfl
      | some first =>
        show digitsFrom? 16 (0 * 16 + first) true [low] = _
        rw [digitsFrom?_single, Nat.zero_mul, Nat.zero_add]
        rfl

/-- The integer that letters in their plain form spell between outer white space. -/
def signedNumber? (text : Text) : Option Int :=
  (digitsFrom? 16 0 false (afterBaseMark 16 (splitSign text).2)).map fun number : Nat =>
    if (splitSign text).1 then -Int.ofNat number else Int.ofNat number

/-- A text spells an integer if its plain form does so between outer white space. -/
theorem integer?_eq (text : Text) :
    integer? 16 text = signedNumber? (trimWhere isAsciiBlank (text.map plainForm)) := by
  unfold integer? signedNumber? signAndDigits
  obtain ⟨negative, digits⟩ := splitSign (trimWhere isAsciiBlank (text.map plainForm))
  cases found : digitsFrom? 16 0 false (afterBaseMark 16 digits) <;> simp [found]

/-- A letter alone is a number if it is a digit. -/
theorem digitsFrom?_alone (letter : Letter) :
    digitsFrom? 16 0 false (afterBaseMark 16 [letter]) = hexValue? letter := by
  -- A base mark takes two letters, so there is none.
  have unmarked : afterBaseMark 16 [letter] = [letter] := by
    unfold afterBaseMark
    split <;> simp_all
  rw [unmarked, digitsFrom?_single]
  cases hexValue? letter <;> simp

/-- A letter alone is an integer if it is a digit. -/
theorem signedNumber?_single (letter : Letter) :
    signedNumber? [letter] = (hexValue? letter).map Int.ofNat := by
  -- A sign alone has no digits after it, and it is no digit itself.
  by_cases sign : letter = '-' ∨ letter = '+'
  · rcases sign with rfl | rfl <;> rfl
  · have unsigned : splitSign [letter] = (false, [letter]) := by
      unfold splitSign
      split <;> simp_all
    rw [signedNumber?, unsigned, digitsFrom?_alone]
    rfl

/-- Two letters are an integer if both are digits, or if the last one is a digit after a sign. -/
theorem signedNumber?_pair (high low : Letter) : signedNumber? [high, low] =
    if high = '-' then (hexValue? low).map (-Int.ofNat ·)
    else if high = '+' then (hexValue? low).map Int.ofNat
    else (hexValue? high).bind fun first =>
      (hexValue? low).map fun last => Int.ofNat (first * 16 + last) := by
  -- The first letter is one of the signs, or both are read as digits.
  by_cases minus : high = '-'
  · subst minus
    have negative : splitSign ['-', low] = (true, [low]) := rfl
    rw [signedNumber?, negative, digitsFrom?_alone, if_pos rfl]
    rfl
  · by_cases plus : high = '+'
    · subst plus
      have positive : splitSign ['+', low] = (false, [low]) := rfl
      rw [signedNumber?, positive, digitsFrom?_alone, if_neg minus, if_pos rfl]
      rfl
    · have unsigned : splitSign [high, low] = (false, [high, low]) := by
        unfold splitSign
        split <;> simp_all
      rw [signedNumber?, unsigned, digitsFrom?_pair, if_neg minus, if_neg plus]
      cases hexValue? high with
      | none => rfl
      | some first => cases hexValue? low <;> rfl

/-- Two letters are an integer in base sixteen as two digits, or as a digit beside white space or
after a sign. -/
theorem integer?_pair (high low : Letter) : integer? 16 [high, low] =
    if isNumeralBlank high then (numeralDigit? low).map Int.ofNat
    else if isNumeralBlank low then (numeralDigit? high).map Int.ofNat
    else if high = '-' then (numeralDigit? low).map (-Int.ofNat ·)
    else if high = '+' then (numeralDigit? low).map Int.ofNat
    else (numeralDigit? high).bind fun first =>
      (numeralDigit? low).map fun last => Int.ofNat (first * 16 + last) := by
  have minus : high = '-' ↔ plainForm high = '-' := (plainForm_eq_sign (.inr rfl)).symm
  have plus : high = '+' ↔ plainForm high = '+' := (plainForm_eq_sign (.inl rfl)).symm
  -- White space at either end is cut off, and of two blanks nothing is left.
  have trimmed : integer? 16 [high, low] = signedNumber?
      (if isNumeralBlank high then if isNumeralBlank low then [] else [plainForm low]
        else if isNumeralBlank low then [plainForm high] else [plainForm high, plainForm low]) := by
    rw [integer?_eq, ← isAsciiBlank_plainForm, ← isAsciiBlank_plainForm]
    cases before : isAsciiBlank (plainForm high) <;> cases after : isAsciiBlank (plainForm low) <;>
      simp [trimWhere, before, after]
  rw [trimmed]
  cases isNumeralBlank high with
  | true =>
    cases after : isNumeralBlank low with
    | true =>
      have valueless : numeralDigit? low = none :=
        Option.eq_none_iff_forall_ne_some.mpr fun value valued => by
          rw [(apart_of_numeralDigit? valued).1] at after
          cases after
      rw [valueless]
      rfl
    | false =>
      show signedNumber? [plainForm low] = (numeralDigit? low).map Int.ofNat
      rw [signedNumber?_single, hexValue?_plainForm]
  | false =>
    cases isNumeralBlank low with
    | true =>
      show signedNumber? [plainForm high] = (numeralDigit? high).map Int.ofNat
      rw [signedNumber?_single, hexValue?_plainForm]
    | false =>
      show signedNumber? [plainForm high, plainForm low] = _
      simp only [signedNumber?_pair, hexValue?_plainForm, minus, plus, Bool.false_eq_true, if_false]

/-- Two letters spell a natural number in base sixteen just in these ways. -/
theorem integer?_pair_iff {number : Nat} :
    integer? 16 [high, low] = some (number : Int) ↔ Numeral high low number := by
  rw [integer?_pair]
  constructor
  · intro spelled
    split at spelled
    · rename_i space
      obtain ⟨value, digit, same⟩ := Option.map_eq_some_iff.mp spelled
      cases same
      exact .before space digit
    · split at spelled
      · rename_i space
        obtain ⟨value, digit, same⟩ := Option.map_eq_some_iff.mp spelled
        cases same
        exact .after digit space
      · split at spelled
        · rename_i minus
          subst minus
          obtain ⟨value, digit, same⟩ := Option.map_eq_some_iff.mp spelled
          -- Of the negative numbers and zero, only zero is natural.
          obtain rfl : value = 0 := by
            have positive := Int.natCast_nonneg number
            have same : -(value : Int) = number := same
            omega
          obtain rfl : number = 0 := by
            have same : -((0 : Nat) : Int) = number := same
            omega
          exact .negative digit
        · split at spelled
          · rename_i plus
            subst plus
            obtain ⟨value, digit, same⟩ := Option.map_eq_some_iff.mp spelled
            cases same
            exact .positive digit
          · obtain ⟨first, upper, rest⟩ := Option.bind_eq_some_iff.mp spelled
            obtain ⟨last, lower, same⟩ := Option.map_eq_some_iff.mp rest
            cases same
            exact .digits upper lower
  · intro numeral
    cases numeral with
    | @digits _ _ first last upper lower =>
      obtain ⟨visible, plus, minus⟩ := apart_of_numeralDigit? upper
      obtain ⟨alsoVisible, _, _⟩ := apart_of_numeralDigit? lower
      simp only [visible, alsoVisible, plus, minus, upper, lower]
      rfl
    | positive digit =>
      have sign : isNumeralBlank '+' = false := rfl
      obtain ⟨visible, _, _⟩ := apart_of_numeralDigit? digit
      simp only [sign, visible, digit]
      rfl
    | negative digit =>
      have sign : isNumeralBlank '-' = false := rfl
      obtain ⟨visible, _, _⟩ := apart_of_numeralDigit? digit
      simp only [sign, visible, digit]
      rfl
    | before space digit =>
      rw [if_pos space, digit]
      rfl
    | after digit space =>
      obtain ⟨visible, _, _⟩ := apart_of_numeralDigit? digit
      simp only [visible, space, digit]
      rfl

/-- A number that two letters spell is that of a byte. -/
theorem Numeral.lt {number : Nat} (numeral : Numeral high low number) :
    number < 256 := by
  -- Each digit is below sixteen, and there are two of them at most.
  cases numeral with
  | digits upper lower =>
    have first := numeralDigit?_lt upper
    have last := numeralDigit?_lt lower
    omega
  | positive digit =>
    have last := numeralDigit?_lt digit
    omega
  | negative _ => decide
  | before _ digit =>
    have last := numeralDigit?_lt digit
    omega
  | after digit _ =>
    have first := numeralDigit?_lt digit
    omega

end

end ConstrainedDecoding.Text
