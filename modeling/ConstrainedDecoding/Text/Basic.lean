/-! Texts as documents can spell them, which is more than well-formed Unicode. -/

namespace ConstrainedDecoding

/-- A code point of a text: a character, or one of the surrogates, here without a partner. -/
inductive Letter where
  | char (value : Char)
  | surrogate (index : Fin 2048)
  deriving DecidableEq, Inhabited

namespace Letter

instance : Coe Char Letter := ⟨char⟩

/-- The number of a code point. -/
def number : Letter → Nat
  | char value => value.toNat
  | surrogate index => 0xD800 + index

/-- The code point of a number. -/
def ofNumber (number : Nat) : Letter :=
  if inside : 0xD800 ≤ number ∧ number ≤ 0xDFFF then surrogate ⟨number - 0xD800, by omega⟩
  else char (Char.ofNat number)

/-- An ASCII digit. -/
def isDigit (letter : Letter) : Bool :=
  0x30 ≤ letter.number && letter.number ≤ 0x39

end Letter

/-- A text. Unlike a string it may hold surrogates without partners. -/
abbrev Text := List Letter

namespace Text

/-- The text of characters. -/
def ofChars (chars : List Char) : Text :=
  chars.map .char

/-- The text of a string. -/
def ofString (string : String) : Text :=
  ofChars string.toList

instance : Coe String Text := ⟨ofString⟩

/-- The characters of a text, if it holds nothing else. -/
def chars? : Text → Option (List Char)
  | [] => some []
  | .char value :: rest => (chars? rest).map (value :: ·)
  | .surrogate _ :: _ => none

/-- A text comes before another or is the same, by the numbers of their code points. -/
def le : Text → Text → Bool
  | [], _ => true
  | _ :: _, [] => false
  | left :: lefts, right :: rights =>
    left.number < right.number || (left.number = right.number && le lefts rights)

/-- A code point lies in one of the closed ranges. -/
def inRanges (ranges : List (Nat × Nat)) (code : Nat) : Bool :=
  ranges.any fun range => range.1 ≤ code && code ≤ range.2

/-- The text after a given beginning, if it has that beginning. -/
def after? {α : Type} [DecidableEq α] : List α → List α → Option (List α)
  | [], text => some text
  | _ :: _, [] => none
  | expected :: beginning, found :: text =>
    if expected = found then after? beginning text else none

/-- The parts of a text between marks. A text without marks is its only part. -/
def parts {α : Type} [DecidableEq α] (mark : α) : List α → List (List α)
  | [] => [[]]
  | found :: rest =>
    match parts mark rest with
    | [] => [[found]]
    | first :: later => if found = mark then [] :: first :: later else (found :: first) :: later

/-- Texts with a separator between them. -/
def joinWith (separator : Text) : List Text → Text
  | [] => []
  | [text] => text
  | text :: rest => text ++ separator ++ joinWith separator rest

end Text

end ConstrainedDecoding
