import ConstrainedDecoding.Proofs.Json.RoundTrip

/-! Strings in plain ASCII are read back, unless they hold the two halves of a character. -/

namespace ConstrainedDecoding

/-- There is a last code point. -/
theorem Letter.number_lt (letter : Letter) : letter.number < 0x110000 := by
  -- Characters end below this number, and surrogates long before.
  cases letter with
  | char value =>
    have valid : value.toNat < 0xD800 ∨ 0xDFFF < value.toNat ∧ value.toNat < 0x110000 :=
      value.valid
    simp only [number]
    omega
  | surrogate index =>
    simp only [number]
    omega

namespace Json

/-- The numbers of the first halves of pairs. -/
theorem isHighSurrogate_iff {unit : Nat} :
    isHighSurrogate unit = true ↔ 0xD800 ≤ unit ∧ unit ≤ 0xDBFF := by
  simp [isHighSurrogate]

/-- The numbers of the second halves of pairs. -/
theorem isLowSurrogate_iff {unit : Nat} :
    isLowSurrogate unit = true ↔ 0xDC00 ≤ unit ∧ unit ≤ 0xDFFF := by
  simp [isLowSurrogate]

end Json

namespace Text

/-- No high surrogate stands right before a low one, where both would be taken for a character. -/
def IsWhole : Text → Prop
  | first :: second :: rest =>
    (Json.isHighSurrogate first.number = true → Json.isLowSurrogate second.number = false) ∧
      IsWhole (second :: rest)
  | _ => True

/-- A text without its first letter has no halves of characters if the text has none. -/
theorem IsWhole.tail {letter : Letter} {rest : Text} (whole : IsWhole (letter :: rest)) :
    IsWhole rest := by
  cases rest with
  | nil => trivial
  | cons next rest => exact whole.2

/-- A text of characters has no halves of characters. -/
theorem isWhole_ofChars (chars : List Char) : IsWhole (ofChars chars) := by
  induction chars with
  | nil => trivial
  | cons first rest ih =>
    cases rest with
    | nil => trivial
    | cons second rest =>
      refine ⟨fun high => ?_, ih⟩
      -- A character has the number of no surrogate.
      have valid : first.toNat < 0xD800 ∨ 0xDFFF < first.toNat ∧ first.toNat < 0x110000 :=
        first.valid
      have range : 0xD800 ≤ first.toNat ∧ first.toNat ≤ 0xDBFF := Json.isHighSurrogate_iff.mp high
      omega

end Text

namespace Json

/-- The escape of a high surrogate is read as its letter, unless that of a low one follows. -/
theorem scanString_high {opening rest : Text} {unit : Nat} (small : unit < 0x10000)
    (high : isHighSurrogate unit = true) (more : rest ≠ [])
    (apart : ∀ e f g h after tail,
      rest = .char '\\' :: .char 'u' :: e :: f :: g :: h :: after :: tail →
        ∃ low, Text.hexNumber? [e, f, g, h] = some low ∧ isLowSurrogate low = false) :
    scanString opening (unitEscape unit ++ rest) =
      prepend (.ofNumber unit) (scanString opening rest) := by
  obtain ⟨next, rest, rfl⟩ := List.exists_cons_of_ne_nil more
  obtain ⟨a, b, c, d, spelled, digits⟩ := exists_unitDigits small
  rw [spelled, scanString.eq_def]
  simp only [List.cons_append, List.nil_append, digits, high, if_true]
  -- A second escape is looked at, but its unit is none that could be joined to the first.
  split
  · obtain ⟨low, found, other⟩ := apart _ _ _ _ _ _ rfl
    simp only [found, other, Bool.false_eq_true, if_false]
  · rfl

/-- The escapes of a pair of surrogates are read as their character, if something follows. -/
theorem scanString_pair {opening rest : Text} {high low : Nat}
    (small : high < 0x10000 ∧ low < 0x10000) (isHigh : isHighSurrogate high = true)
    (isLow : isLowSurrogate low = true) (more : rest ≠ []) :
    scanString opening (unitEscape high ++ (unitEscape low ++ rest)) =
      prepend (joinSurrogates high low) (scanString opening rest) := by
  obtain ⟨next, rest, rfl⟩ := List.exists_cons_of_ne_nil more
  obtain ⟨a, b, c, d, spelled, digits⟩ := exists_unitDigits small.1
  obtain ⟨e, f, g, h, lowSpelled, lowDigits⟩ := exists_unitDigits small.2
  -- The reader sees both escapes at once and joins what they stand for.
  rw [spelled, lowSpelled, scanString.eq_def]
  simp only [List.cons_append, List.nil_append, digits, isHigh, lowDigits, isLow, if_true]

/-- A letter beyond the first 65536 is written as a pair that is joined to the letter again. -/
theorem joinSurrogates_halves {letter : Letter} (wide : 0x10000 ≤ letter.number) :
    joinSurrogates (0xD800 + (letter.number - 0x10000) / 1024)
      (0xDC00 + (letter.number - 0x10000) % 1024) = letter := by
  have number : 0x10000 + (0xD800 + (letter.number - 0x10000) / 1024 - 0xD800) * 1024 +
      (0xDC00 + (letter.number - 0x10000) % 1024 - 0xDC00) = letter.number := by omega
  rw [joinSurrogates, number, letter.ofNumber_number]

/-- The digits after the mark of a unit's escape spell the unit. -/
theorem hexNumber?_of_unitEscape {unit : Nat} (small : unit < 0x10000) {e f g h : Letter}
    {rest tail : Text}
    (begins : unitEscape unit ++ rest = .char '\\' :: .char 'u' :: e :: f :: g :: h :: tail) :
    Text.hexNumber? [e, f, g, h] = some unit := by
  obtain ⟨a, b, c, d, spelled, digits⟩ := exists_unitDigits small
  rw [spelled] at begins
  -- The two texts have the same six letters at their beginning.
  simp only [List.cons_append, List.nil_append, List.cons.injEq, true_and] at begins
  obtain ⟨rfl, rfl, rfl, rfl, _⟩ := begins
  exact digits

/-- The form of a letter that is no low surrogate does not begin with the escape of one. -/
theorem escapeAscii_apart {letter : Letter} (other : isLowSurrogate letter.number = false)
    {e f g h after : Letter} {rest tail : Text}
    (begins : escapeAscii letter ++ rest =
      .char '\\' :: .char 'u' :: e :: f :: g :: h :: after :: tail) :
    ∃ low, Text.hexNumber? [e, f, g, h] = some low ∧ isLowSurrogate low = false := by
  unfold escapeAscii at begins
  split at begins
  · -- A short escape has another mark than that of a unit.
    rename_i short
    obtain ⟨mark, rfl, mark_ne, _⟩ := shortEscape?_eq_some short
    exact absurd (List.cons.inj (List.cons.inj begins).2).1 mark_ne
  · rename_i long
    split at begins
    · -- A letter that stands for itself is no backslash.
      exact absurd (List.cons.inj begins).1 (ne_of_shortEscape?_none long).2
    · split at begins
      · rename_i small
        exact ⟨letter.number, hexNumber?_of_unitEscape small begins, other⟩
      · -- The first half of a pair is a high surrogate.
        have bound := letter.number_lt
        rw [List.append_assoc] at begins
        refine ⟨_, hexNumber?_of_unitEscape (by omega) begins, ?_⟩
        rw [← Bool.not_eq_true, isLowSurrogate_iff]
        omega

/-- A letter that was written in ASCII reads back, if no half of a character follows its other half.

What follows is the rest of the string, which begins with the form of the next letter. -/
theorem scanString_escapeAscii {opening rest : Text} (letter : Letter) (more : rest ≠ [])
    (apart : isHighSurrogate letter.number = true → ∀ e f g h after tail,
      rest = .char '\\' :: .char 'u' :: e :: f :: g :: h :: after :: tail →
        ∃ low, Text.hexNumber? [e, f, g, h] = some low ∧ isLowSurrogate low = false) :
    scanString opening (escapeAscii letter ++ rest) = prepend letter (scanString opening rest) := by
  -- The forms of letters are gone through from the shortest to the longest.
  unfold escapeAscii
  cases short : shortEscape? letter with
  | some escape =>
    obtain ⟨mark, rfl, other, means⟩ := shortEscape?_eq_some short
    exact scanString_short other means
  | none =>
    obtain ⟨quote, backslash⟩ := ne_of_shortEscape?_none short
    simp only
    split
    · -- A letter that stands for itself is no control character.
      rename_i plain
      simp only [Bool.and_eq_true, decide_eq_true_eq] at plain
      exact scanString_plain quote backslash (by omega)
    · split
      · rename_i small
        -- The escape of a unit gives its letter back, whether it is a surrogate or not.
        by_cases high : isHighSurrogate letter.number = true
        · rw [scanString_high small high more (apart high), letter.ofNumber_number]
        · rw [scanString_unit small (Bool.eq_false_iff.mpr high) more, letter.ofNumber_number]
      · rename_i wide
        have bound := letter.number_lt
        have isHigh : isHighSurrogate (0xD800 + (letter.number - 0x10000) / 1024) = true := by
          rw [isHighSurrogate_iff]
          omega
        have isLow : isLowSurrogate (0xDC00 + (letter.number - 0x10000) % 1024) = true := by
          rw [isLowSurrogate_iff]
          omega
        rw [List.append_assoc, scanString_pair (by omega) isHigh isLow more,
          joinSurrogates_halves (by omega)]

/-- A text that was written in ASCII reads back, up to its closing mark. -/
theorem scanString_writeAscii (opening rest : Text) {text : Text} (whole : text.IsWhole) :
    scanString opening (text.flatMap escapeAscii ++ .char '"' :: rest) = .ok (text, rest) := by
  induction text with
  | nil =>
    rw [List.flatMap_nil, List.nil_append, scanString.eq_def]
    rfl
  | cons letter letters ih =>
    rw [List.flatMap_cons, List.append_assoc, scanString_escapeAscii letter (by simp),
      ih whole.tail]
    · rfl
    · intro high e f g h after tail begins
      -- What follows is the closing mark, or the form of a letter that is no low surrogate.
      cases letters with
      | nil => exact absurd (List.cons.inj begins).1 (by decide)
      | cons next letters =>
        rw [List.flatMap_cons, List.append_assoc] at begins
        exact escapeAscii_apart (whole.1 high) begins

/-- Every text without the halves of a character reads back from the layout in ASCII. -/
theorem asciiLayout_reads : asciiLayout.Reads Text.IsWhole where
  string whole opening rest := scanString_writeAscii opening rest whole
  comma := ⟨[.char ' '], rfl, by simp [isSpace]⟩
  colon := ⟨[.char ' '], rfl, by simp [isSpace]⟩

end Json

end ConstrainedDecoding
