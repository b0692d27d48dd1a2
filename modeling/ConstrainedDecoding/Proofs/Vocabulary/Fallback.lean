import ConstrainedDecoding.Proofs.Text.Numeral
import ConstrainedDecoding.Proofs.Text.Utf8
import ConstrainedDecoding.Vocabulary.Bytes

/-! Token strings outside the byte alphabet: a byte by its number, or plain text. -/

namespace ConstrainedDecoding

open Text

/-- The token that shows two letters for the number of a byte. -/
def fallbackToken (high low : Letter) : Text :=
  ['<', '0', 'x', high, low, '>']

section

variable {token : Text} {high low : Letter} {number : Nat}

/-- A fallback token is one whose two letters spell a number. -/
theorem fallbackByte?_eq_some_iff {byte : UInt8} :
    fallbackByte? token = some byte ↔ ∃ high low number, token = fallbackToken high low ∧
      Numeral high low number ∧ byte = UInt8.ofNat number := by
  constructor
  · intro found
    unfold fallbackByte? at found
    -- The token has to be of the form, its two letters an integer, and that has to be a byte.
    split at found
    · rename_i high low
      split at found
      · rename_i value spelled
        split at found
        · rename_i inside
          simp only [Bool.and_eq_true, decide_eq_true_eq] at inside
          obtain ⟨number, rfl⟩ := Int.eq_ofNat_of_zero_le inside.1
          exact ⟨high, low, number, rfl, integer?_pair_iff.mp spelled, (Option.some.inj found).symm⟩
        · cases found
      · cases found
    · cases found
  · rintro ⟨high, low, number, rfl, numeral, rfl⟩
    have spelled := integer?_pair_iff.mpr numeral
    have small := numeral.lt
    simp only [fallbackToken, fallbackByte?, spelled]
    rw [if_pos (by simp; omega)]
    rfl

/-- A token whose letters spell a number is the byte of that number, in any vocabulary. -/
theorem tokenBytes_of_numeral (numeral : Numeral high low number) (byteLevel : Bool) :
    tokenBytes byteLevel (fallbackToken high low) = .ok [UInt8.ofNat number] := by
  have found := fallbackByte?_eq_some_iff.mpr ⟨high, low, number, rfl, numeral, rfl⟩
  rw [tokenBytes, found]

/-- A token whose letters spell no number is no fallback token. -/
theorem fallbackByte?_eq_none (none : ∀ high low number, token = fallbackToken high low →
    ¬Numeral high low number) : fallbackByte? token = .none := by
  refine Option.eq_none_iff_forall_ne_some.mpr fun byte found => ?_
  obtain ⟨high, low, number, same, numeral, _⟩ := fallbackByte?_eq_some_iff.mp found
  exact none high low number same numeral

/-- A character of a token, with a space for the mark that stands for one. -/
def spaced (char : Char) : Char :=
  if char = '\u2581' then ' ' else char

/-- A letter of a token, spaced if it is a character. -/
def spacedLetter : Letter → Letter
  | .char char => .char (spaced char)
  | .surrogate index => .surrogate index

/-- The bytes of a plain token are those of its spaced letters. -/
theorem plainBytes_eq (token : Text) : plainBytes token = utf8 (token.map spacedLetter) := by
  have mark : spaceMark = .char '\u2581' := rfl
  -- The mark is a character, so no surrogate is taken for it.
  have spacedLetter_eq (letter : Letter) :
      (if letter = spaceMark then .char ' ' else letter) = spacedLetter letter := by
    cases letter with
    | char char =>
      rw [mark, spacedLetter, spaced]
      split <;> simp_all
    | surrogate index => rfl
  exact congrArg utf8 (List.map_congr_left fun letter _ => spacedLetter_eq letter)

/-- A text whose letters are characters once they are spaced consists of characters. -/
theorem exists_chars_of_spaced {shown : List Char}
    (same : token.map spacedLetter = ofChars shown) :
    ∃ chars, token = ofChars chars ∧ shown = chars.map spaced := by
  -- By induction on the token: spacing makes no character of a surrogate.
  induction token generalizing shown with
  | nil => exact ⟨[], rfl, List.map_eq_nil_iff.mp same.symm⟩
  | cons letter rest ih =>
    obtain ⟨char, others, rfl, first, later⟩ := List.map_eq_cons_iff.mp same.symm
    obtain ⟨chars, rfl, rfl⟩ := ih later.symm
    cases letter with
    | char value =>
      cases first
      exact ⟨value :: chars, rfl, rfl⟩
    | surrogate index => cases first

/-- The bytes of a plain token are those of its characters, and only surrogates have none. -/
theorem plainBytes_eq_ok_iff {bytes : Bytes} :
    plainBytes token = .ok bytes ↔
      ∃ chars, token = ofChars chars ∧ bytes = encodeUtf8 (chars.map spaced) := by
  rw [plainBytes_eq, utf8_eq_ok_iff]
  -- The text with spaces has bytes just if it consists of characters, and so did the token.
  constructor
  · rintro ⟨shown, same, rfl⟩
    obtain ⟨chars, rfl, rfl⟩ := exists_chars_of_spaced same
    exact ⟨chars, rfl, rfl⟩
  · rintro ⟨chars, rfl, rfl⟩
    exact ⟨chars.map spaced, by simp [ofChars, Function.comp_def, spacedLetter], rfl⟩

/-- What a token means outside the byte alphabet: two hexadecimal digits between brackets are the
byte of their number, and any other token is its text with spaces for their marks. -/
inductive Means : Text → Bytes → Prop
  | byte {high low : Letter} {first last : Nat} (upper : hexValue? high = some first)
    (lower : hexValue? low = some last) :
    Means (fallbackToken high low) [UInt8.ofNat (first * 16 + last)]
  | text {chars : List Char} (apart : ∀ high low, ofChars chars = fallbackToken high low →
      hexValue? high = none ∨ hexValue? low = none) :
    Means (ofChars chars) (encodeUtf8 (chars.map spaced))

/-- A token whose letters spell a number without being two hexadecimal digits: one of them is a
sign, white space, or a digit of another script. -/
def IsLoose (token : Text) (number : Nat) : Prop :=
  ∃ high low, token = fallbackToken high low ∧ Numeral high low number ∧
    (hexValue? high = none ∨ hexValue? low = none)

/-- A text has a byte for each of its characters at least. -/
theorem length_le_encodeUtf8 (chars : List Char) : chars.length ≤ (encodeUtf8 chars).length := by
  -- By induction: every character has a byte at least.
  induction chars with
  | nil => exact Nat.zero_le _
  | cons char rest ih =>
    rw [encodeUtf8, List.flatMap_cons, List.length_append, String.length_utf8EncodeChar,
      List.length_cons, ← encodeUtf8]
    have some := Char.utf8Size_pos char
    omega

/-- Two letters that are hexadecimal digits spell a number. -/
theorem numeral_of_hexValue? {first last : Nat} (upper : hexValue? high = some first)
    (lower : hexValue? low = some last) : Numeral high low (first * 16 + last) :=
  .digits (by rw [numeralDigit?, upper, Option.some_or])
    (by rw [numeralDigit?, lower, Option.some_or])

/-- The two letters of a numbered token are its own. -/
theorem fallbackToken_inj {otherHigh otherLow : Letter} :
    fallbackToken high low = fallbackToken otherHigh otherLow ↔
      high = otherHigh ∧ low = otherLow := by
  simp [fallbackToken]

/-- Two hexadecimal digits between brackets mean the byte of their number, and nothing else. -/
theorem means_fallbackToken_iff {first last : Nat} (upper : hexValue? high = some first)
    (lower : hexValue? low = some last) {bytes : Bytes} :
    Means (fallbackToken high low) bytes ↔ bytes = [UInt8.ofNat (first * 16 + last)] := by
  constructor
  · intro means
    generalize same : fallbackToken high low = token at means
    -- The two letters are those of the token, so it does not mean its own text.
    cases means with
    | byte otherUpper otherLower =>
      obtain ⟨rfl, rfl⟩ := fallbackToken_inj.mp same
      cases upper.symm.trans otherUpper
      cases lower.symm.trans otherLower
      rfl
    | text apart =>
      rcases apart high low same.symm with none | none
      · cases upper.symm.trans none
      · cases lower.symm.trans none
  · rintro rfl
    exact .byte upper lower

/-- A token that is not loosely numbered is read as what it means. -/
theorem tokenBytes_of_not_isLoose (exact : ∀ number, ¬IsLoose token number) (bytes : Bytes) :
    tokenBytes false token = .ok bytes ↔ Means token bytes := by
  by_cases fallback : ∃ high low number, token = fallbackToken high low ∧ Numeral high low number
  · obtain ⟨high, low, number, rfl, numeral⟩ := fallback
    -- Both letters are hexadecimal digits, since the number is not loosely spelled.
    have digits := exact number
    simp only [IsLoose, not_exists, not_and, not_or, Option.ne_none_iff_exists'] at digits
    obtain ⟨⟨first, upper⟩, last, lower⟩ := digits high low rfl numeral
    rw [tokenBytes_of_numeral (numeral_of_hexValue? upper lower),
      means_fallbackToken_iff upper lower, Except.ok.injEq, eq_comm]
  · have plain : tokenBytes false token = plainBytes token := by
      rw [tokenBytes, fallbackByte?_eq_none fun high low number same numeral =>
        fallback ⟨high, low, number, same, numeral⟩]
      rfl
    rw [plain, plainBytes_eq_ok_iff]
    constructor
    · rintro ⟨chars, rfl, rfl⟩
      refine .text fun high low same => ?_
      -- Two hexadecimal digits would spell a number.
      by_contra digits
      simp only [not_or, Option.ne_none_iff_exists'] at digits
      obtain ⟨⟨first, upper⟩, last, lower⟩ := digits
      exact fallback ⟨high, low, _, same, numeral_of_hexValue? upper lower⟩
    · intro means
      cases means with
      | byte upper lower => exact absurd ⟨_, _, _, rfl, numeral_of_hexValue? upper lower⟩ fallback
      | @text chars _ => exact ⟨chars, rfl, rfl⟩

/-- A loosely numbered token means its text, which is longer than the byte that it is read as. -/
theorem IsLoose.not_means (loose : IsLoose token number) (byte : UInt8) :
    ¬Means token [byte] := by
  obtain ⟨high, low, same, _, inexact⟩ := loose
  intro means
  generalize single : [byte] = bytes at means
  cases means with
  | byte upper lower =>
    obtain ⟨rfl, rfl⟩ := fallbackToken_inj.mp same
    rcases inexact with none | none
    · cases upper.symm.trans none
    · cases lower.symm.trans none
  | @text chars _ =>
    -- There are six letters, and each of them has a byte.
    have letters : chars.length = 6 := by
      have length := congrArg List.length same
      rwa [ofChars, List.length_map] at length
    have bytes := length_le_encodeUtf8 (chars.map spaced)
    rw [← single, List.length_map, letters] at bytes
    cases bytes with
    | step impossible => cases impossible

/--
Outside the byte alphabet a token is read as what it means, unless it is loosely numbered.

Then it is read as the byte of its number, which it does not mean.
-/
theorem tokenBytes_means_iff (token : Text) :
    ((∀ bytes, tokenBytes false token = .ok bytes ↔ Means token bytes) ↔
      ∀ number, ¬IsLoose token number) ∧
    ∀ number, IsLoose token number → tokenBytes false token = .ok [UInt8.ofNat number] := by
  -- A loose token is read as a byte, and that is not what it means.
  have read : ∀ number, IsLoose token number →
      tokenBytes false token = .ok [UInt8.ofNat number] := by
    rintro number ⟨high, low, rfl, numeral, _⟩
    exact tokenBytes_of_numeral numeral false
  refine ⟨⟨fun exact number loose => ?_, fun exact => tokenBytes_of_not_isLoose exact⟩, read⟩
  exact loose.not_means _ ((exact _).mp (read number loose))

/-- A token with a sign before its digit is read as a byte, and means its six characters. -/
theorem signed_number_read_as_byte :
    tokenBytes false "<0x+A>" = .ok [0x0A] ∧
      Means "<0x+A>" [0x3C, 0x30, 0x78, 0x2B, 0x41, 0x3E] := by
  refine ⟨rfl, @Means.text "<0x+A>".toList fun high low same => ?_⟩
  -- A sign is no hexadecimal digit, so the token means its own text.
  have signed : fallbackToken '+' 'A' = fallbackToken high low := same
  obtain ⟨rfl, rfl⟩ := fallbackToken_inj.mp signed
  exact .inl rfl

end

end ConstrainedDecoding
