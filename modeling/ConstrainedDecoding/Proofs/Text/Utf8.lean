import Mathlib.Tactic.Tauto
import ConstrainedDecoding.Proofs.Text.Digits

/-! Text is read back from its bytes in UTF-8. -/

namespace ConstrainedDecoding.Text

section

variable {tolerant : Bool} {first second third fourth : UInt8}

/-- A byte continues a sequence just if its number is in one range. -/
theorem isContinuation_iff {byte : UInt8} :
    isContinuation byte = true ↔ 0x80 ≤ byte.toNat ∧ byte.toNat ≤ 0xBF := by
  simp [isContinuation, UInt8.le_iff_toNat_le]

/-- Two bytes form a sequence by their numbers. -/
theorem isPair_iff : isPair first second = true ↔
    (0xC2 ≤ first.toNat ∧ first.toNat ≤ 0xDF) ∧ isContinuation second = true := by
  simp [isPair, UInt8.le_iff_toNat_le]

/-- Three bytes form a sequence by their numbers. -/
theorem isTriple_iff : isTriple tolerant first second third = true ↔
    (0xE0 ≤ first.toNat ∧ first.toNat ≤ 0xEF) ∧ isContinuation second = true ∧
      isContinuation third = true ∧ (first.toNat ≠ 0xE0 ∨ 0xA0 ≤ second.toNat) ∧
      (first.toNat ≠ 0xED ∨ tolerant = true ∨ second.toNat ≤ 0x9F) := by
  simp only [isTriple, Bool.and_eq_true, Bool.or_eq_true, decide_eq_true_eq, ne_eq,
    UInt8.le_iff_toNat_le, ← UInt8.toNat_inj, UInt8.reduceToNat]
  tauto

/-- Four bytes form a sequence by their numbers. -/
theorem isQuadruple_iff : isQuadruple first second third fourth = true ↔
    (0xF0 ≤ first.toNat ∧ first.toNat ≤ 0xF4) ∧ isContinuation second = true ∧
      isContinuation third = true ∧ isContinuation fourth = true ∧
      (first.toNat ≠ 0xF0 ∨ 0x90 ≤ second.toNat) ∧
      (first.toNat ≠ 0xF4 ∨ second.toNat ≤ 0x8F) := by
  simp only [isQuadruple, Bool.and_eq_true, Bool.or_eq_true, decide_eq_true_eq, ne_eq,
    UInt8.le_iff_toNat_le, ← UInt8.toNat_inj, UInt8.reduceToNat]
  tauto

/-- A byte is in ASCII by its number. -/
theorem ascii_iff : first < 0x80 ↔ first.toNat < 0x80 := by
  simp [UInt8.lt_iff_toNat_lt]

/-- Bytes whose first one is beyond those of pairs are no pair and not in ASCII. -/
theorem wide_of_le (high : 0xE0 ≤ first.toNat) :
    ¬first < 0x80 ∧ ¬isPair first second = true := by
  rw [ascii_iff, isPair_iff]
  omega

end

/-- The number of a byte that was made of a small enough one. -/
theorem toNat_byte {number : Nat} (small : number < 256) : (UInt8.ofNat number).toNat = number := by
  rw [UInt8.toNat_ofNat', Nat.mod_eq_of_lt small]

/-- A byte that continues a sequence, with six bits as its payload. -/
theorem continuation_byte {bits : Nat} (small : bits < 64) :
    ∃ byte, UInt8.ofNat (bits + 128) = byte ∧ byte.toNat = bits + 128 ∧
      isContinuation byte = true ∧ continuation byte = bits := by
  have same := @toNat_byte (bits + 128) (by omega)
  -- Nothing matters about the byte but its number.
  generalize UInt8.ofNat (bits + 128) = byte at same
  refine ⟨byte, rfl, same, ?_, ?_⟩
  · rw [isContinuation_iff]
    omega
  · unfold continuation
    omega

section

variable {tolerant : Bool} {rest : Bytes} {lead high middle low : Nat}

/-- A byte of ASCII is read as its character. -/
theorem decodeUtf8?_single (ascii : lead < 0x80) :
    decodeUtf8? tolerant (UInt8.ofNat lead :: rest) =
      (decodeUtf8? tolerant rest).map (.char (Char.ofNat lead) :: ·) := by
  have first := @toNat_byte lead (by omega)
  -- Nothing matters about the byte but its number.
  generalize UInt8.ofNat lead = byte at *
  rw [decodeUtf8?.eq_def]
  simp only [ascii_iff, first, if_pos ascii]

/-- Two bytes are read as the character of their payloads, unless it needs but one. -/
theorem decodeUtf8?_pair (two : 2 ≤ lead ∧ lead < 32) (small : low < 64) :
    decodeUtf8? tolerant (UInt8.ofNat (lead + 192) :: UInt8.ofNat (low + 128) :: rest) =
      (decodeUtf8? tolerant rest).map (.char (Char.ofNat (lead * 64 + low)) :: ·) := by
  have first := @toNat_byte (lead + 192) (by omega)
  obtain ⟨second, made, _, continues, value⟩ := continuation_byte small
  rw [made]
  generalize UInt8.ofNat (lead + 192) = byte at *
  -- The first byte is beyond ASCII, so the second one is looked at.
  have wide : ¬byte < 0x80 := by
    rw [ascii_iff]
    omega
  have pair : isPair byte second = true := by
    rw [isPair_iff]
    exact ⟨by omega, continues⟩
  rw [decodeUtf8?.eq_def]
  simp only [if_neg wide, if_pos pair, value, first, Nat.add_sub_cancel]

/-- Three bytes are read as the letter of their payloads, unless it needs but two. -/
theorem decodeUtf8?_triple (three : lead < 16) (middleSmall : middle < 64) (lowSmall : low < 64)
    (long : lead ≠ 0 ∨ 32 ≤ middle) (whole : lead ≠ 13 ∨ tolerant = true ∨ middle < 32) :
    decodeUtf8? tolerant (UInt8.ofNat (lead + 224) :: UInt8.ofNat (middle + 128) ::
      UInt8.ofNat (low + 128) :: rest) =
      (decodeUtf8? tolerant rest).map (.ofNumber (lead * 4096 + middle * 64 + low) :: ·) := by
  have first := @toNat_byte (lead + 224) (by omega)
  obtain ⟨second, made, number, continues, value⟩ := continuation_byte middleSmall
  obtain ⟨third, last, _, ends, lastValue⟩ := continuation_byte lowSmall
  rw [made, last]
  generalize UInt8.ofNat (lead + 224) = byte at *
  obtain ⟨wide, pair⟩ := @wide_of_le byte second (by omega)
  -- The sequence is not overlong, and a surrogate only if those are tolerated.
  have triple : isTriple tolerant byte second third = true := by
    rw [isTriple_iff]
    exact ⟨by omega, continues, ends, by omega, whole.imp (by omega) (.imp_right (by omega))⟩
  rw [decodeUtf8?.eq_def]
  simp only [if_neg wide, if_neg pair, if_pos triple, value, lastValue, first, Nat.add_sub_cancel]

/-- Four bytes are read as the character of their payloads, unless it needs but three. -/
theorem decodeUtf8?_quadruple (four : lead < 5) (highSmall : high < 64) (middleSmall : middle < 64)
    (lowSmall : low < 64) (long : lead ≠ 0 ∨ 16 ≤ high) (inside : lead ≠ 4 ∨ high < 16) :
    decodeUtf8? tolerant (UInt8.ofNat (lead + 240) :: UInt8.ofNat (high + 128) ::
      UInt8.ofNat (middle + 128) :: UInt8.ofNat (low + 128) :: rest) =
      (decodeUtf8? tolerant rest).map
        (.char (Char.ofNat (lead * 262144 + high * 4096 + middle * 64 + low)) :: ·) := by
  have first := @toNat_byte (lead + 240) (by omega)
  obtain ⟨second, made, number, continues, value⟩ := continuation_byte highSmall
  obtain ⟨third, next, _, goesOn, nextValue⟩ := continuation_byte middleSmall
  obtain ⟨fourth, last, _, ends, lastValue⟩ := continuation_byte lowSmall
  rw [made, next, last]
  generalize UInt8.ofNat (lead + 240) = byte at *
  obtain ⟨wide, pair⟩ := @wide_of_le byte second (by omega)
  -- The first byte is beyond those of the shorter sequences.
  have triple : ¬isTriple tolerant byte second third = true := by
    rw [isTriple_iff]
    omega
  have quadruple : isQuadruple byte second third fourth = true := by
    rw [isQuadruple_iff]
    exact ⟨by omega, continues, goesOn, ends, by omega, by omega⟩
  rw [decodeUtf8?.eq_def]
  simp only [if_neg wide, if_neg pair, if_neg triple, if_pos quadruple, value, nextValue,
    lastValue, first, Nat.add_sub_cancel]

end

/-- A character is read back from its bytes, whatever follows them. -/
theorem decodeUtf8?_encodeChar (tolerant : Bool) (char : Char) (rest : Bytes) :
    decodeUtf8? tolerant (String.utf8EncodeChar char ++ rest) =
      (decodeUtf8? tolerant rest).map (.char char :: ·) := by
  have valid : char.toNat < 0xD800 ∨ 0xDFFF < char.toNat ∧ char.toNat < 0x110000 := char.valid
  have back := Char.ofNat_toNat char
  have letter : Letter.ofNumber char.toNat = .char char := (Letter.char char).ofNumber_number
  unfold String.utf8EncodeChar
  have code : char.val.toNat = char.toNat := rfl
  simp only [code]
  clear code
  generalize char.toNat = number at *
  -- Each length of a sequence has its range of code points, and its bytes share out the bits.
  split
  · rw [List.singleton_append, decodeUtf8?_single (by omega), back]
  · split
    · have whole : number / 64 % 32 * 64 + number % 64 = number := by omega
      simp only [List.cons_append, List.nil_append]
      rw [decodeUtf8?_pair (by omega) (by omega), whole, back]
    · split
      · have whole : number / 4096 % 16 * 4096 + number / 64 % 64 * 64 + number % 64 = number := by
          omega
        simp only [List.cons_append, List.nil_append]
        rw [decodeUtf8?_triple (by omega) (by omega) (by omega) (by omega)
          (by omega), whole, letter]
      · have whole : number / 262144 % 8 * 262144 + number / 4096 % 64 * 4096 +
            number / 64 % 64 * 64 + number % 64 = number := by
          omega
        simp only [List.cons_append, List.nil_append]
        rw [decodeUtf8?_quadruple (by omega) (by omega) (by omega) (by omega) (by omega)
          (by omega), whole, back]

/-- Characters are read back from their bytes. -/
theorem decodeUtf8?_encodeUtf8 (tolerant : Bool) (chars : List Char) :
    decodeUtf8? tolerant (encodeUtf8 chars) = some (ofChars chars) := by
  induction chars with
  | nil => rfl
  | cons char chars ih =>
    -- The bytes of the first character are read whatever comes after them.
    rw [encodeUtf8, List.flatMap_cons, ← encodeUtf8, decodeUtf8?_encodeChar, ih]
    rfl

/-- A text without surrogates consists of characters. -/
theorem eq_ofChars_of_firstRun? {text : Text} {start : Nat}
    (plain : firstRun? isSurrogate start text = none) :
    ∃ chars, text.chars? = some chars ∧ text = ofChars chars := by
  -- By induction: a surrogate anywhere would have begun a run.
  induction text generalizing start with
  | nil => exact ⟨[], rfl, rfl⟩
  | cons letter rest ih =>
    cases letter with
    | surrogate index => simp [firstRun?, isSurrogate] at plain
    | char value =>
      obtain ⟨chars, spelled, same⟩ := @ih (start + 1) plain
      exact ⟨value :: chars, by rw [chars?, spelled]; rfl, by rw [same]; rfl⟩

/-- Characters are the characters of their text, and none of them is a surrogate. -/
theorem chars?_ofChars (chars : List Char) (start : Nat) :
    (ofChars chars).chars? = some chars ∧ firstRun? isSurrogate start (ofChars chars) = none := by
  -- By induction on the characters, none of which is a surrogate.
  induction chars generalizing start with
  | nil => exact ⟨rfl, rfl⟩
  | cons char rest ih =>
    obtain ⟨spelled, plain⟩ := ih (start + 1)
    constructor
    · show (ofChars rest).chars?.map (char :: ·) = some (char :: rest)
      rw [spelled]
      rfl
    · exact plain

/-- A text has bytes just if it consists of characters, and the bytes are those of the characters. -/
theorem utf8_eq_ok_iff {text : Text} {bytes : Bytes} :
    utf8 text = .ok bytes ↔ ∃ chars, text = ofChars chars ∧ bytes = encodeUtf8 chars := by
  constructor
  · intro encoded
    unfold utf8 at encoded
    -- There are bytes only if no letter was found to be a surrogate.
    split at encoded
    · cases encoded
    · rename_i plain
      obtain ⟨chars, spelled, same⟩ := eq_ofChars_of_firstRun? plain
      cases encoded
      exact ⟨chars, same, by rw [spelled]; rfl⟩
  · rintro ⟨chars, rfl, rfl⟩
    obtain ⟨spelled, plain⟩ := chars?_ofChars chars 0
    simp only [utf8, plain, spelled]
    rfl

end ConstrainedDecoding.Text
