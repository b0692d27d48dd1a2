import ConstrainedDecoding.Text.Hex
import ConstrainedDecoding.Text.Printable

/-! Text between quotation marks as messages show it. -/

namespace ConstrainedDecoding.Text

/-- The single quotation mark. -/
def apostrophe : Char := Char.ofNat 39

/-- A code point by number, in the shortest of the three escape forms that holds it. -/
def numberedEscape (code : Nat) : List Char :=
  if code < 0x100 then '\\' :: 'x' :: hexDigits 2 code
  else if code < 0x10000 then '\\' :: 'u' :: hexDigits 4 code
  else '\\' :: 'U' :: hexDigits 8 code

/-- One letter inside quotation marks of the given kind. -/
def quotedLetter (mark letter : Letter) : Text :=
  if letter = mark || letter = '\\' then ['\\', letter]
  else if letter = '\n' then "\\n"
  else if letter = '\r' then "\\r"
  else if letter = '\t' then "\\t"
  else if isPrintable letter then [letter]
  else ofChars (numberedEscape letter.number)

/-- Single marks, or double ones around a text that holds single marks only. -/
def quotationMark (text : Text) : Letter :=
  if text.contains apostrophe && !text.contains '"' then '"' else apostrophe

/-- A text in quotation marks. -/
def quoted (text : Text) : Text :=
  let mark := quotationMark text
  mark :: (text.flatMap (quotedLetter mark) ++ [mark])

end ConstrainedDecoding.Text
