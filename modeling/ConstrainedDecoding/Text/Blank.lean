import ConstrainedDecoding.Text.Basic

/-! White space as Unicode text counts it, and trimming by it. -/

namespace ConstrainedDecoding.Text

/-- The white space code points: separators and the characters whose direction class is a space. -/
def blankRanges : List (Nat × Nat) :=
  [(0x9, 0xD), (0x1C, 0x20), (0x85, 0x85), (0xA0, 0xA0), (0x1680, 0x1680), (0x2000, 0x200A),
   (0x2028, 0x2029), (0x202F, 0x202F), (0x205F, 0x205F), (0x3000, 0x3000)]

/-- A letter of Unicode white space, control separators included. -/
def isBlank (letter : Letter) : Bool :=
  inRanges blankRanges letter.number

/-- The six white space characters of plain ASCII text. -/
def isAsciiBlank (letter : Letter) : Bool :=
  letter = ' ' || (9 ≤ letter.number && letter.number ≤ 13)

/-- The text without the elements of a class at either end. -/
def trimWhere {α : Type} (drops : α → Bool) (text : List α) : List α :=
  ((text.dropWhile drops).reverse.dropWhile drops).reverse

/-- The text without white space at either end. -/
def trim (text : Text) : Text :=
  trimWhere isBlank text

end ConstrainedDecoding.Text
