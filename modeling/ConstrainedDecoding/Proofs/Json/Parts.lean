import Mathlib.Data.List.TakeWhile
import ConstrainedDecoding.Json.Reader
import ConstrainedDecoding.Json.Writer
import ConstrainedDecoding.Proofs.Text.Digits

/-! Strings and numbers are read back from their written form, whatever follows them. -/

namespace ConstrainedDecoding

/-- The written form of a number is read as that number, up to its end. -/
def Binary64.ReadsBack (value : Binary64) : Prop :=
  Json.scanPlain (Text.ofChars (NumberLayout.written.text value)) = .ok (.float value, [])

namespace Json

/-- A letter that stands for itself is read as such. -/
theorem scanString_plain {opening rest : Text} {letter : Letter} (quote : letter ≠ '"')
    (backslash : letter ≠ '\\') (visible : ¬letter.number < 0x20) :
    scanString opening (letter :: rest) = prepend letter (scanString opening rest) := by
  rw [scanString.eq_def]
  -- Neither of the two marks is at the start, and the letter is no control character.
  split
  all_goals simp_all

/-- A short escape is read as the letter that it stands for. -/
theorem scanString_short {opening rest : Text} {mark letter : Letter} (other : mark ≠ 'u')
    (means : unescape? mark = some letter) :
    scanString opening ('\\' :: mark :: rest) = prepend letter (scanString opening rest) := by
  rw [scanString.eq_def]
  split
  case h_3 same =>
    -- After the backslash comes the mark, which is not that of a unit.
    obtain rfl := (List.cons.inj same).2
    split
    all_goals simp_all
  all_goals simp_all

/-- The four digits of a unit spell the unit. -/
theorem exists_unitDigits {unit : Nat} (small : unit < 0x10000) : ∃ a b c d : Letter,
    unitEscape unit = [.char '\\', .char 'u', a, b, c, d] ∧
      Text.hexNumber? [a, b, c, d] = some unit := by
  have digits := Text.hexNumber?_hexDigits 4 unit
  rw [Nat.mod_eq_of_lt (by omega)] at digits
  exact ⟨_, _, _, _, rfl, digits⟩

/-- The escape of a unit that is no surrogate is read as its letter, if something follows. -/
theorem scanString_unit {opening rest : Text} {unit : Nat} (small : unit < 0x10000)
    (lone : isHighSurrogate unit = false) (more : rest ≠ []) :
    scanString opening (unitEscape unit ++ rest) =
      prepend (.ofNumber unit) (scanString opening rest) := by
  -- The reader wants a letter after the four digits, which is why something has to follow.
  obtain ⟨next, rest, rfl⟩ := List.exists_cons_of_ne_nil more
  obtain ⟨a, b, c, d, spelled, digits⟩ := exists_unitDigits small
  rw [spelled, scanString.eq_def]
  simp only [List.cons_append, List.nil_append, digits, lone, Bool.false_eq_true, if_false]

/-- A short escape is a backslash and a mark that stands for the letter. -/
theorem shortEscape?_eq_some {letter : Letter} {escape : Text}
    (short : shortEscape? letter = some escape) :
    ∃ mark : Letter, escape = [.char '\\', mark] ∧ mark ≠ 'u' ∧ unescape? mark = some letter := by
  have ofNumber := letter.ofNumber_number
  unfold shortEscape? at short
  -- Each letter with a short escape has a mark of its own.
  repeat' split at short
  all_goals cases short
  · rename_i same
    exact ⟨'"', rfl, by decide, by rw [same]; rfl⟩
  · rename_i same
    exact ⟨'\\', rfl, by decide, by rw [same]; rfl⟩
  · rename_i same
    exact ⟨'n', rfl, by decide, by rw [same]; rfl⟩
  · rename_i same
    exact ⟨'r', rfl, by decide, by rw [same]; rfl⟩
  · rename_i same
    exact ⟨'t', rfl, by decide, by rw [same]; rfl⟩
  · rename_i same
    rw [same] at ofNumber
    exact ⟨'f', rfl, by decide, by rw [← ofNumber]; rfl⟩
  · rename_i same
    rw [same] at ofNumber
    exact ⟨'b', rfl, by decide, by rw [← ofNumber]; rfl⟩

/-- The quotation mark and the backslash have short escapes. -/
theorem ne_of_shortEscape?_none {letter : Letter} (long : shortEscape? letter = none) :
    letter ≠ '"' ∧ letter ≠ '\\' := by
  constructor <;> rintro rfl <;> exact absurd long (by decide)

/-- A letter that was written with Unicode kept as it is reads back, if something follows. -/
theorem scanString_escapeUnicode {opening rest : Text} (letter : Letter) (more : rest ≠ []) :
    scanString opening (escapeUnicode letter ++ rest) =
      prepend letter (scanString opening rest) := by
  unfold escapeUnicode
  cases short : shortEscape? letter with
  | some escape =>
    obtain ⟨mark, rfl, other, means⟩ := shortEscape?_eq_some short
    exact scanString_short other means
  | none =>
    by_cases control : letter.number < 0x20
    · -- A control character is written as a unit, and its number tells it.
      have lone : isHighSurrogate letter.number = false := by
        simp [isHighSurrogate]
        omega
      simp only [if_pos control]
      rw [scanString_unit (by omega) lone more, letter.ofNumber_number]
    · obtain ⟨quote, backslash⟩ := ne_of_shortEscape?_none short
      simp only [if_neg control]
      exact scanString_plain quote backslash control

/-- A text that was written with Unicode kept as it is reads back, up to its closing mark. -/
theorem scanString_write (opening text rest : Text) :
    scanString opening (text.flatMap escapeUnicode ++ .char '"' :: rest) = .ok (text, rest) := by
  induction text with
  | nil =>
    rw [List.flatMap_nil, List.nil_append, scanString.eq_def]
    rfl
  | cons letter letters ih =>
    -- The letters are read one by one, and the closing mark is what follows the last one.
    rw [List.flatMap_cons, List.append_assoc, scanString_escapeUnicode letter (by simp), ih]
    rfl

/-- What can follow a value: nothing, a separator, or the end of an array or an object. -/
def Ends (rest : Text) : Prop :=
  ∀ letter tail, rest = letter :: tail → letter = ',' ∨ letter = ']' ∨ letter = '\x7d'

/-- What follows a value does not begin with a letter that a number could go on with. -/
theorem Ends.head {rest tail : Text} {letter : Letter} (ends : Ends rest)
    (begins : rest = letter :: tail) : letter.isDigit = false ∧ letter ≠ '.' ∧ letter ≠ 'e' ∧
      letter ≠ 'E' ∧ letter ≠ '+' ∧ letter ≠ '-' := by
  rcases ends letter tail begins with rfl | rfl | rfl <;> decide

/-- The digits at the start of a text are the same if the end of a value follows it. -/
theorem Ends.digits {rest : Text} (ends : Ends rest) (text : Text) :
    (text ++ rest).takeWhile (·.isDigit) = text.takeWhile (·.isDigit) ∧
      (text ++ rest).dropWhile (·.isDigit) = text.dropWhile (·.isDigit) ++ rest := by
  -- By induction on the digits: only after the last of them is the rest looked at.
  induction text with
  | nil =>
    cases rest with
    | nil => exact ⟨rfl, rfl⟩
    | cons letter tail =>
      have noDigit := (ends.head rfl).1
      simp [noDigit]
  | cons letter text ih =>
    by_cases isDigit : letter.isDigit = true
    · simpa [isDigit] using ih
    · simp [isDigit]

/-- The whole part of a number is the same if the end of a value follows. -/
theorem Ends.whole {rest text digits after : Text} (ends : Ends rest)
    (scanned : scanWhole? text = some (digits, after)) :
    scanWhole? (text ++ rest) = some (digits, after ++ rest) := by
  unfold scanWhole? at scanned
  split at scanned
  · cases scanned
  · cases scanned
    rfl
  · rename_i digit tail zero
    split at scanned
    · rename_i isDigit
      obtain ⟨taken, dropped⟩ := ends.digits tail
      cases scanned
      -- The first letter is the same, so the same case applies.
      rw [List.cons_append, scanWhole?.eq_def]
      split
      · simp_all
      · simp_all
      · simp_all
    · cases scanned

/-- The fraction of a number is the same if the end of a value follows. -/
theorem Ends.fraction {rest text digits after : Text} (ends : Ends rest)
    (scanned : scanFraction text = (digits, after)) :
    scanFraction (text ++ rest) = (digits, after ++ rest) := by
  unfold scanFraction at scanned
  split at scanned
  · rename_i digit tail
    obtain ⟨taken, dropped⟩ := ends.digits tail
    show scanFraction ('.' :: digit :: (tail ++ rest)) = _
    by_cases isDigit : digit.isDigit = true
    · rw [if_pos isDigit] at scanned
      cases scanned
      simp only [scanFraction, if_pos isDigit, taken, dropped]
    · rw [if_neg isDigit] at scanned
      cases scanned
      simp only [scanFraction, if_neg isDigit, List.cons_append]
  · rename_i noPoint
    cases scanned
    rw [scanFraction.eq_def]
    split
    · rename_i digit tail same
      -- The point is the last letter of the text, and what follows does not begin with a digit.
      match text with
      | [] => exact absurd rfl (ends.head same).2.1
      | [letter] =>
        have noDigit := (ends.head (List.cons.inj same).2).1
        rw [if_neg (by simp [noDigit]), same]
      | letter :: second :: tail => exact absurd (by rw [(List.cons.inj same).1]) (noPoint _ _)
    · rfl

/-- Without a mark there is no exponent. -/
theorem scanExponent_of_ends {rest : Text} (ends : Ends rest) :
    scanExponent rest = (none, rest) := by
  -- What ends a value is no mark of an exponent.
  cases rest with
  | nil => rfl
  | cons letter tail =>
    obtain ⟨_, _, small, capital, _⟩ := ends.head rfl
    simp [scanExponent, small, capital]

/-- The sign of an exponent is the same if the end of a value follows. -/
theorem Ends.sign {rest : Text} (ends : Ends rest) (text : Text) :
    scanSign (text ++ rest) = ((scanSign text).1, (scanSign text).2 ++ rest) := by
  cases text with
  | nil =>
    cases rest with
    | nil => rfl
    | cons letter tail =>
      -- What follows is no sign, so none is found.
      obtain ⟨_, _, _, _, plus, minus⟩ := ends.head rfl
      simp only [List.nil_append]
      rw [scanSign.eq_def]
      split
      all_goals simp_all [scanSign]
  | cons letter text =>
    rw [List.cons_append, scanSign.eq_def, scanSign.eq_def]
    split
    all_goals simp_all

/-- The exponent of a number is the same if the end of a value follows. -/
theorem Ends.exponent {rest text : Text} {exponent : Option Int} (ends : Ends rest)
    (scanned : scanExponent text = (exponent, [])) :
    scanExponent (text ++ rest) = (exponent, rest) := by
  cases text with
  | nil =>
    cases scanned
    exact scanExponent_of_ends ends
  | cons mark text =>
    obtain ⟨taken, dropped⟩ := ends.digits (scanSign text).2
    simp only [scanExponent] at scanned
    -- The text was read to its end, so it had the mark of an exponent.
    split at scanned
    · rename_i marked
      obtain ⟨rfl, none⟩ := Prod.mk.inj scanned
      show scanExponent (mark :: (text ++ rest)) = _
      simp only [scanExponent, ends.sign text, taken, if_pos marked, dropped, none, List.nil_append]
    · cases scanned

/-- Whether a number has a minus sign, and the letters after that. -/
def unsign (text : Text) : Bool × Text :=
  match text with
  | '-' :: rest => (true, rest)
  | other => (false, other)

/-- The parts of a number: digits, digits after a point, and an exponent. -/
structure Spelling where
  whole : Text
  fraction : Text
  exponent : Option Int

/-- The number that the parts stand for. -/
def Spelling.number (negative : Bool) (spelling : Spelling) : Except Obstacle Json :=
  if spelling.fraction.isEmpty && spelling.exponent.isNone then readInteger negative spelling.whole
  else .ok (float (Binary64.ofDecimal negative
    ⟨Text.digitsNumber 0 (spelling.whole ++ spelling.fraction),
      spelling.exponent.getD 0 - spelling.fraction.length⟩))

/-- A text without a sign spells a number in its parts, and others letters are left after it. -/
def Spells (text : Text) (spelling : Spelling) (after : Text) : Prop :=
  ∃ afterWhole afterFraction, scanWhole? text = some (spelling.whole, afterWhole) ∧
    scanFraction afterWhole = (spelling.fraction, afterFraction) ∧
    scanExponent afterFraction = (spelling.exponent, after)

/-- Without a whole part there is no number. -/
theorem scanNumber_of_none {text : Text} (lacks : scanWhole? (unsign text).2 = none) :
    scanNumber text = .error (.value, text) := by
  unfold scanNumber
  split
  rename_i negative unsigned same
  -- The sign is split off just as it is here.
  have same : unsign text = (negative, unsigned) := same
  rw [same] at lacks
  rw [lacks]

/-- The number is that of its parts, which are scanned one after the other. -/
theorem scanNumber_of_some {text whole rest : Text}
    (found : scanWhole? (unsign text).2 = some (whole, rest)) :
    scanNumber text =
      (((⟨whole, (scanFraction rest).1, (scanExponent (scanFraction rest).2).1⟩ : Spelling).number
        (unsign text).1).mapError (·, text)).map (·, (scanExponent (scanFraction rest).2).2) := by
  unfold scanNumber
  split
  rename_i negative unsigned same
  -- The sign is split off just as it is here, and then there is a whole part.
  have same : unsign text = (negative, unsigned) := same
  rw [same] at found ⊢
  rw [found]
  simp only [Spelling.number]
  split
  · cases readInteger negative whole <;> rfl
  · rfl

/-- A number is read from a text just if the text spells it after the sign. -/
theorem scanNumber_eq_ok_iff {text after : Text} {json : Json} :
    scanNumber text = .ok (json, after) ↔ ∃ spelling, Spells (unsign text).2 spelling after ∧
      spelling.number (unsign text).1 = .ok json := by
  constructor
  · intro read
    -- There is a number only with a whole part, and the other parts may be empty.
    cases found : scanWhole? (unsign text).2 with
    | none =>
      rw [scanNumber_of_none found] at read
      cases read
    | some parts =>
      obtain ⟨whole, rest⟩ := parts
      rw [scanNumber_of_some found] at read
      cases number : (⟨whole, (scanFraction rest).1,
          (scanExponent (scanFraction rest).2).1⟩ : Spelling).number (unsign text).1 with
      | error obstacle => simp [number, Except.mapError, Except.map] at read
      | ok value =>
        simp only [number, Except.mapError, Except.map, Except.ok.injEq] at read
        obtain ⟨rfl, rfl⟩ := Prod.mk.inj read
        exact ⟨_, ⟨_, _, found, rfl, rfl⟩, number⟩
  · rintro ⟨⟨whole, fraction, exponent⟩, ⟨afterWhole, afterFraction, spells⟩, number⟩
    rw [scanNumber_of_some spells.1]
    simp only [spells.2.1, spells.2.2, number]
    rfl

/-- What a text spells is the same if the end of a value follows. -/
theorem Ends.spells {text rest : Text} (ends : Ends rest) {spelling : Spelling}
    (spells : Spells text spelling []) : Spells (text ++ rest) spelling rest := by
  obtain ⟨afterWhole, afterFraction, whole, fraction, exponent⟩ := spells
  exact ⟨afterWhole ++ rest, afterFraction ++ rest, ends.whole whole, ends.fraction fraction,
    ends.exponent exponent⟩

/-- A number that a text spells to its end is the same if the end of a value follows. -/
theorem scanNumber_append {text rest : Text} {json : Json}
    (read : scanNumber text = .ok (json, [])) (ends : Ends rest) :
    scanNumber (text ++ rest) = .ok (json, rest) := by
  obtain ⟨spelling, spells, number⟩ := scanNumber_eq_ok_iff.mp read
  -- The sign is looked for at the start, and there is a start already.
  have unsigned : unsign (text ++ rest) = ((unsign text).1, (unsign text).2 ++ rest) := by
    cases text with
    | nil => cases read
    | cons letter text =>
      rw [List.cons_append, unsign.eq_def, unsign.eq_def]
      split
      all_goals simp_all
  exact scanNumber_eq_ok_iff.mpr
    ⟨spelling, by rw [unsigned]; exact ends.spells spells, by rw [unsigned]; exact number⟩

/-- The decimal digits of a number are all of its spelling. -/
theorem spells_decimalDigits (number : Nat) :
    Spells (Text.ofChars (decimalDigits number)) ⟨Text.ofChars (decimalDigits number), [], none⟩
      [] := by
  have digits : ∀ letter ∈ Text.ofChars (decimalDigits number), letter.isDigit = true :=
    fun _ => isDigit_of_mem_decimalDigits
  refine ⟨[], [], ?_, rfl, rfl⟩
  rcases decimalDigits_cases number with zero | ⟨first, rest, spelled, other⟩
  · rw [zero]
    rfl
  · rw [spelled] at digits ⊢
    -- The first digit is no zero, so all digits after it belong to the whole part.
    have isDigit : (Letter.char first).isDigit = true := digits first List.mem_cons_self
    have later : ∀ letter ∈ rest.map Letter.char, letter.isDigit = true := fun letter member =>
      digits letter (List.mem_cons_of_mem (Letter.char first) member)
    show scanWhole? (.char first :: rest.map .char) = some (.char first :: rest.map .char, [])
    rw [scanWhole?.eq_def]
    split
    · simp_all
    · rename_i zero
      exact absurd (Letter.char.inj (List.cons.inj zero).1) other
    · rename_i same
      obtain ⟨rfl, rfl⟩ := List.cons.inj same
      rw [if_pos isDigit, List.takeWhile_eq_self_iff.mpr later, List.dropWhile_eq_nil_iff.mpr later]

/-- The sign of an integer is written before the digits of the absolute value. -/
theorem unsign_integerText (value : Int) (rest : Text) :
    unsign (Text.ofChars (integerText value) ++ rest) =
      (decide (value < 0), Text.ofChars (decimalDigits value.natAbs) ++ rest) := by
  unfold integerText
  by_cases negative : value < 0
  · rw [if_pos negative, decide_eq_true negative]
    rfl
  · rw [if_neg negative, decide_eq_false negative]
    -- Without a sign the text begins with a digit, which is none.
    rcases decimalDigits_cons value.natAbs with ⟨first, others, spelled, isDigit⟩
    rw [spelled, Text.ofChars, List.map_cons, List.cons_append, unsign.eq_def]
    split
    · rename_i same
      exact absurd ((List.cons.inj same).1 ▸ isDigit) (by decide)
    · rfl

/-- An integer reads back from its decimal text. -/
theorem scanNumber_integerText {value : Int}
    (short : (decimalDigits value.natAbs).length ≤ Text.digitLimit) :
    scanNumber (Text.ofChars (integerText value)) = .ok (int value, []) := by
  have length : ¬Text.digitLimit < (Text.ofChars (decimalDigits value.natAbs)).length := by
    rw [Text.ofChars, List.length_map]
    omega
  have split := unsign_integerText value []
  rw [List.append_nil, List.append_nil] at split
  have number : signed (decide (value < 0)) value.natAbs = value := by
    by_cases negative : value < 0
    · simp only [signed, negative, decide_true, if_true]
      omega
    · simp only [signed, negative, decide_false, Bool.false_eq_true, if_false]
      omega
  -- There is nothing behind the digits, so the number is read as an integer.
  refine scanNumber_eq_ok_iff.mpr ⟨_, by rw [split]; exact spells_decimalDigits value.natAbs, ?_⟩
  rw [split]
  simp [Spelling.number, readInteger, length, digitsNumber_decimalDigits, number]

/-- The values that words stand for. -/
def words : List Json :=
  [null, bool true, bool false, float .nan, float (.infinity false), float (.infinity true)]

/-- A text is read as a number, unless it begins with a word, and no number begins as words do. -/
theorem scanPlain_cases (text : Text) : scanPlain text = scanNumber text ∨
    ∃ word ∈ words, ∃ rest, scanPlain text = .ok (word, rest) ∧
      ∀ result, scanNumber text ≠ .ok result := by
  rw [scanPlain.eq_def]
  -- The last case is that of numbers, and the others are those of words.
  split
  case h_7 => exact .inl rfl
  all_goals exact .inr ⟨_, by simp [words], _, rfl, nofun⟩

/-- A text that a number is read from is read as just that number. -/
theorem scanPlain_of_scanNumber {text after : Text} {json : Json}
    (read : scanNumber text = .ok (json, after)) : scanPlain text = .ok (json, after) := by
  rcases scanPlain_cases text with number | ⟨_, _, _, _, none⟩
  · rw [number, read]
  · exact absurd read (none _)

/-- A word or a number that is read to its end is the same if the end of a value follows. -/
theorem scanPlain_append {text rest : Text} {negative : Bool} {units : Nat}
    (read : scanPlain text = .ok (float (.finite negative units), [])) (ends : Ends rest) :
    scanPlain (text ++ rest) = .ok (float (.finite negative units), rest) := by
  rcases scanPlain_cases text with number | ⟨word, among, _, found, _⟩
  · exact scanPlain_of_scanNumber (scanNumber_append (number ▸ read) ends)
  · -- No word stands for a finite number.
    obtain rfl := (Prod.mk.inj (Except.ok.inj (found.symm.trans read))).1
    simp [words] at among

/-- An integer reads back, whatever follows it. -/
theorem scanPlain_int {value : Int} (short : (decimalDigits value.natAbs).length ≤ Text.digitLimit)
    {rest : Text} (ends : Ends rest) :
    scanPlain (Text.ofChars (integerText value) ++ rest) = .ok (int value, rest) :=
  scanPlain_of_scanNumber (scanNumber_append (scanNumber_integerText short) ends)

/-- A binary64 number that reads back does so whatever follows it. -/
theorem scanPlain_float {value : Binary64} (reads : value.ReadsBack) {rest : Text}
    (ends : Ends rest) :
    scanPlain (Text.ofChars (NumberLayout.written.text value) ++ rest) =
      .ok (float value, rest) := by
  -- A number without digits is a word, and nothing behind a word matters.
  cases value with
  | nan => rfl
  | infinity negative => cases negative <;> rfl
  | finite negative units => exact scanPlain_append reads ends

end Json

end ConstrainedDecoding
