import ConstrainedDecoding.Proofs.Vocabulary.Fallback

/-! Token strings in the byte alphabet, and the bytes that are read back from them. -/

namespace ConstrainedDecoding

open Text

/-- A number below the surrogates is that of its character. -/
theorem toNat_charOfNat {number : Nat} (small : number < 0xD800) :
    (Char.ofNat number).toNat = number := by
  rw [Char.ofNat, dif_pos (.inl small)]
  rfl

/-- The character of a byte has the number of the byte, or one from 256 on by the place of the byte
among the hidden ones. -/
theorem alphabetChar_toNat (byte : UInt8) :
    isShownByte byte.toNat = true ∧ (alphabetChar byte).toNat = byte.toNat ∨
      ∃ place, (alphabetChar byte).toNat = 256 + place ∧ place < 256 ∧
        hiddenBytes[place]? = some byte.toNat := by
  have small := byte.toNat_lt
  unfold alphabetChar
  -- A byte that is not shown has a place among the hidden ones.
  split
  · rename_i shown
    exact .inl ⟨shown, toNat_charOfNat (by omega)⟩
  · rename_i hidden
    have member : byte.toNat ∈ hiddenBytes :=
      List.mem_filter.mpr ⟨List.mem_range.mpr small, by simpa using hidden⟩
    have inside := List.idxOf_lt_length_iff.mpr member
    have few : hiddenBytes.length ≤ 256 :=
      (List.length_filter_le _ _).trans (List.length_range).le
    refine .inr ⟨_, toNat_charOfNat (by omega), by omega, ?_⟩
    rw [List.getElem?_eq_getElem inside, List.getElem_idxOf]

/-- Every byte is read back from its character in the byte alphabet. -/
theorem alphabetByte?_alphabetChar (byte : UInt8) :
    alphabetByte? (alphabetChar byte) = some byte := by
  have small := byte.toNat_lt
  -- Characters below 256 stand for themselves, and the others for hidden bytes by place.
  rcases alphabetChar_toNat byte with ⟨shown, number⟩ | ⟨place, number, _, found⟩
  · simp [alphabetByte?, Letter.number, number, small, shown]
  · simp [alphabetByte?, Letter.number, number, found]

/-- Bytes written in the byte alphabet. -/
def alphabetText (bytes : Bytes) : Text :=
  bytes.map fun byte => .char (alphabetChar byte)

/-- Bytes are read back from the byte alphabet. -/
theorem alphabetBytes?_alphabetText (bytes : Bytes) :
    alphabetBytes? (alphabetText bytes) = some bytes := by
  -- By induction on the bytes, each of which comes back from its character.
  induction bytes with
  | nil => rfl
  | cons byte rest ih =>
    rw [alphabetBytes?, alphabetText, List.map_cons, List.mapM_cons, alphabetByte?_alphabetChar]
    rw [alphabetBytes?, alphabetText] at ih
    rw [ih]
    rfl

/-- White space is outside the numbers of the byte alphabet. -/
theorem blankRanges_apart : ∀ range ∈ blankRanges,
    range.2 < 0x21 ∨ 0x7E < range.1 ∧ range.2 < 0xA1 ∨ 512 ≤ range.1 := by
  decide

/-- The byte alphabet has no white space, and its digits are the hexadecimal ones of ASCII. -/
theorem alphabetChar_plain {letter : Letter} {byte : UInt8} (shows : letter = alphabetChar byte) :
    isNumeralBlank letter = false ∧ numeralDigit? letter = hexValue? letter := by
  have range : 0x21 ≤ letter.number ∧ letter.number ≤ 0x7E ∨
      0xA1 ≤ letter.number ∧ letter.number < 512 := by
    have small := byte.toNat_lt
    have same : letter.number = (alphabetChar byte).toNat := eq_char_iff.mp shows
    rcases alphabetChar_toNat byte with ⟨shown, number⟩ | ⟨place, number, few, _⟩
    · simp only [isShownByte, Bool.or_eq_true, Bool.and_eq_true, decide_eq_true_eq] at shown
      omega
    · omega
  constructor
  · have visible : isBlank letter = false := by
      rw [isBlank, inRanges, List.any_eq_false]
      intro blanks member
      have apart := blankRanges_apart blanks member
      simp only [Bool.and_eq_true, decide_eq_true_eq]
      omega
    rw [isNumeralBlank, visible, Bool.false_and]
  · rw [numeralDigit?]
    cases decimal : decimalDigit? letter with
    | none => rw [Option.or_none]
    | some value =>
      -- All zeros but that of ASCII are beyond the alphabet.
      obtain ⟨start, zero, same, nine⟩ := decimalDigit?_spec decimal
      have first := (decimalZeros_apart start zero).1
      rw [decimalDigit?_of_ascii (by omega) decimal, Option.some_or]

/-- Two letters of the byte alphabet that spell a number: hexadecimal digits, or a digit after a
sign. -/
inductive AsciiNumeral : Letter → Letter → Nat → Prop
  | digits {high low : Letter} {first last : Nat} (upper : hexValue? high = some first)
    (lower : hexValue? low = some last) : AsciiNumeral high low (first * 16 + last)
  | positive {low : Letter} {number : Nat} (digit : hexValue? low = some number) :
    AsciiNumeral '+' low number
  | negative : AsciiNumeral '-' '0' 0

/-- Bytes that the byte alphabet writes as the number of a byte between brackets. -/
def IsMistaken (bytes : Bytes) (number : Nat) : Prop :=
  ∃ high low, alphabetText bytes = fallbackToken high low ∧ AsciiNumeral high low number

section

variable {bytes : Bytes} {high low : Letter} {number : Nat}

/-- In the byte alphabet, letters spell a number in no other ways. -/
theorem asciiNumeral_iff (written : alphabetText bytes = fallbackToken high low) :
    Numeral high low number ↔ AsciiNumeral high low number := by
  have plain : ∀ letter ∈ fallbackToken high low,
      isNumeralBlank letter = false ∧ numeralDigit? letter = hexValue? letter := by
    intro letter member
    rw [← written] at member
    obtain ⟨byte, _, same⟩ := List.mem_map.mp member
    exact alphabetChar_plain same.symm
  obtain ⟨highVisible, upper⟩ := plain high (by simp [fallbackToken])
  obtain ⟨lowVisible, lower⟩ := plain low (by simp [fallbackToken])
  constructor
  · intro numeral
    cases numeral with
    | digits first last => exact .digits (upper ▸ first) (lower ▸ last)
    | positive digit => exact .positive (lower ▸ digit)
    | negative digit =>
      -- Zero is the only digit of its value.
      rw [lower] at digit
      obtain rfl : low = '0' := by
        have range := (hexValue?_spec digit).1
        exact eq_char_iff.mpr (show low.number = 48 by omega)
      exact .negative
    | before space _ => cases space.symm.trans highVisible
    | after _ space => cases space.symm.trans lowVisible
  · intro numeral
    cases numeral with
    | digits first last => exact numeral_of_hexValue? first last
    | positive digit => exact .positive (lower.trans digit)
    | negative => exact .negative rfl

/-- Bytes that are written as a byte's number are read as that byte. -/
theorem IsMistaken.tokenBytes_eq (mistaken : IsMistaken bytes number) :
    tokenBytes true (alphabetText bytes) = .ok [UInt8.ofNat number] := by
  obtain ⟨high, low, written, numeral⟩ := mistaken
  rw [written]
  exact tokenBytes_of_numeral ((asciiNumeral_iff written).mpr numeral) true

/-- All other bytes are read back from the byte alphabet. -/
theorem tokenBytes_alphabetText (exact : ∀ number, ¬IsMistaken bytes number) :
    tokenBytes true (alphabetText bytes) = .ok bytes := by
  -- The spelling is no fallback token, so it is read by the alphabet.
  have own : fallbackByte? (alphabetText bytes) = none :=
    fallbackByte?_eq_none fun high low number written numeral =>
      exact number ⟨high, low, written, (asciiNumeral_iff written).mp numeral⟩
  rw [tokenBytes, own, if_pos rfl, alphabetBytes?_alphabetText]

/--
Bytes are read back from the byte alphabet just if they are not written as a byte's number there,
that is as two hexadecimal digits, a digit with a sign or a negative zero between brackets.

Those are read as the byte of the number, so they may be confused with other bytes, and only they.
-/
theorem tokenBytes_alphabetText_iff (bytes : Bytes) :
    (tokenBytes true (alphabetText bytes) = .ok bytes ↔ ∀ number, ¬IsMistaken bytes number) ∧
    (∀ number, IsMistaken bytes number →
      tokenBytes true (alphabetText bytes) = .ok [UInt8.ofNat number]) ∧
    ∀ others, tokenBytes true (alphabetText bytes) = tokenBytes true (alphabetText others) →
      bytes = others ∨ (∃ number, IsMistaken bytes number) ∨
        ∃ number, IsMistaken others number := by
  refine ⟨⟨fun read number mistaken => ?_, tokenBytes_alphabetText⟩,
    fun number => IsMistaken.tokenBytes_eq, fun others same => ?_⟩
  · -- The number would be a single byte, but there are six of them.
    have single := Except.ok.inj (read.symm.trans mistaken.tokenBytes_eq)
    obtain ⟨high, low, written, _⟩ := mistaken
    rw [single] at written
    cases congrArg List.length written
  · by_cases first : ∃ number, IsMistaken bytes number
    · exact .inr (.inl first)
    · by_cases second : ∃ number, IsMistaken others number
      · exact .inr (.inr second)
      · rw [tokenBytes_alphabetText (not_exists.mp first),
          tokenBytes_alphabetText (not_exists.mp second)] at same
        exact .inl (Except.ok.inj same)

/-- Six bytes that are written as the number of a line feed are read as one, as a line feed is. -/
theorem numbered_bytes_confused :
    alphabetText [0x3C, 0x30, 0x78, 0x30, 0x41, 0x3E] = "<0x0A>" ∧
      tokenBytes true (alphabetText [0x3C, 0x30, 0x78, 0x30, 0x41, 0x3E]) = .ok [0x0A] ∧
      tokenBytes true (alphabetText [0x0A]) = .ok [0x0A] := by
  have written : alphabetText [0x3C, 0x30, 0x78, 0x30, 0x41, 0x3E] = fallbackToken '0' 'A' := rfl
  have digits : AsciiNumeral '0' 'A' 10 := @AsciiNumeral.digits _ _ 0 10 rfl rfl
  refine ⟨written, IsMistaken.tokenBytes_eq ⟨'0', 'A', written, digits⟩, tokenBytes_alphabetText ?_⟩
  -- A line feed alone is written with a single letter.
  rintro number ⟨high, low, single, _⟩
  cases congrArg List.length single

end

end ConstrainedDecoding
