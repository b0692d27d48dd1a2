import ConstrainedDecoding.Text.Blank
import ConstrainedDecoding.Text.DecimalDigit
import ConstrainedDecoding.Text.Hex

/-! Integers written in text. -/

namespace ConstrainedDecoding.Text

/-- A letter outside ASCII as the plain character it counts as, if it has one in a number. -/
def plainForm (letter : Letter) : Letter :=
  if letter.number < 127 then letter
  else if isBlank letter then ' '
  else match decimalDigit? letter with
    | some value => hexDigit value
    | none => '?'

/-- The value of a digit that the base admits. -/
def digitValue? (base : Nat) (letter : Letter) : Option Nat :=
  (hexValue? letter).filter (· < base)

/-- Digits with single underscores between them, continuing a number already read. -/
def digitsFrom? (base : Nat) (number : Nat) (afterDigit : Bool) : Text → Option Nat
  | [] => if afterDigit then some number else none
  | letter :: rest =>
    if letter = '_' then if afterDigit then digitsFrom? base number false rest else none
    else match digitValue? base letter with
      | some value => digitsFrom? base (number * base + value) true rest
      | none => none

/-- The digits after an optional base mark, which one underscore may follow. -/
def afterBaseMark (base : Nat) : Text → Text
  | '0' :: mark :: rest =>
    if base = 16 && (mark = 'x' || mark = 'X') then
      match rest with
      | '_' :: digits => digits
      | digits => digits
    else '0' :: mark :: rest
  | digits => digits

/-- A number that may have a sign: whether it is negative, and the text after the sign. -/
def splitSign : Text → Bool × Text
  | '-' :: rest => (true, rest)
  | '+' :: rest => (false, rest)
  | text => (false, text)

/-- The sign and the digits of a number, letters in their plain form and without outer blanks. -/
def signAndDigits (text : Text) : Bool × Text :=
  splitSign (trimWhere isAsciiBlank (text.map plainForm))

/-- The integer a text denotes: white space around a sign and digits, in base ten or sixteen. -/
def integer? (base : Nat) (text : Text) : Option Int :=
  let (negative, digits) := signAndDigits text
  (digitsFrom? base 0 false (afterBaseMark base digits)).map fun number =>
    if negative then -(number : Int) else number

/-- The number of digits that an integer may be written with. -/
def digitLimit : Nat := 4300

/-- The wording for an integer that has too many digits, and for their number if they are given. -/
def tooManyDigits (count : Option Nat) : Text :=
  let found : Text := match count with
    | some count => ": value has " ++ toString count ++ " digits"
    | none => ""
  "Exceeds the limit (" ++ toString digitLimit ++ " digits) for integer string conversion" ++
    found ++ "; use sys.set_int_max_str_digits() to increase the limit"

/-- How many digits a run has in which no underscore stands alone, if they are too many. -/
def overlong? (run : Text) : Option Nat :=
  let count := run.countP Letter.isDigit
  if digitLimit < count && (digitsFrom? 10 0 false run).isSome then some count else none

/-- How many digits a text begins with, if that is too many to read an integer from it. -/
def excessDigits? (text : Text) : Option Nat :=
  overlong? ((signAndDigits text).2.takeWhile fun letter => letter.isDigit || letter = '_')

end ConstrainedDecoding.Text
