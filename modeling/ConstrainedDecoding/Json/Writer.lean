import ConstrainedDecoding.Fault

/-! The written form of documents, which those with long integers do not have. -/

namespace ConstrainedDecoding

/-- An integer has no more digits than one may be written with. -/
def IsShort (value : Int) : Prop :=
  (decimalDigits value.natAbs).length ≤ Text.digitLimit

instance (value : Int) : Decidable (IsShort value) :=
  inferInstanceAs (Decidable ((decimalDigits value.natAbs).length ≤ Text.digitLimit))

namespace Json

/-- The short escape of a letter that has one. -/
def shortEscape? (letter : Letter) : Option Text :=
  if letter = '"' then some ['\\', '"']
  else if letter = '\\' then some ['\\', '\\']
  else if letter = '\n' then some ['\\', 'n']
  else if letter = '\r' then some ['\\', 'r']
  else if letter = '\t' then some ['\\', 't']
  else if letter.number = 12 then some ['\\', 'f']
  else if letter.number = 8 then some ['\\', 'b']
  else none

/-- One code unit by number. -/
def unitEscape (unit : Nat) : Text :=
  '\\' :: 'u' :: Text.ofChars (Text.hexDigits 4 unit)

/-- A letter in a written string that keeps Unicode text as it is. -/
def escapeUnicode (letter : Letter) : Text :=
  match shortEscape? letter with
  | some escape => escape
  | none => if letter.number < 0x20 then unitEscape letter.number else [letter]

/-- A letter in a written string of plain ASCII: others by their code units. -/
def escapeAscii (letter : Letter) : Text :=
  match shortEscape? letter with
  | some escape => escape
  | none =>
    if 0x20 ≤ letter.number && letter.number ≤ 0x7E then [letter]
    else if letter.number < 0x10000 then unitEscape letter.number
    else
      let offset := letter.number - 0x10000
      unitEscape (0xD800 + offset / 1024) ++ unitEscape (0xDC00 + offset % 1024)

/-- A string in double quotation marks. -/
def writeString (escape : Letter → Text) (text : Text) : Text :=
  '"' :: (text.flatMap escape ++ [.char '"'])

/-- How documents are written: the form of letters in strings, and the two separators. -/
structure Layout where
  escape : Letter → Text
  comma : Text
  colon : Text

/-- Unicode as it is, and a blank after each separator. -/
def plainLayout : Layout := ⟨escapeUnicode, [',', ' '], [':', ' ']⟩

/-- ASCII only, and a blank after each separator. -/
def asciiLayout : Layout := ⟨escapeAscii, [',', ' '], [':', ' ']⟩

/-- ASCII only, and no blanks. -/
def compactLayout : Layout := ⟨escapeAscii, [','], [':']⟩

mutual

/-- The written form of a value, integers with all their digits. -/
def write (layout : Layout) : Json → Text
  | null => ['n', 'u', 'l', 'l']
  | bool true => ['t', 'r', 'u', 'e']
  | bool false => ['f', 'a', 'l', 's', 'e']
  | int value => .ofChars (integerText value)
  | float value => .ofChars (NumberLayout.written.text value)
  | str value => writeString layout.escape value
  | arr [] => ['[', ']']
  | arr (first :: rest) => '[' :: (write layout first ++ writeElements layout rest)
  | obj [] => ['\x7b', '\x7d']
  | obj ((name, value) :: rest) =>
    '\x7b' :: (writeString layout.escape name ++ layout.colon ++ write layout value ++
      writeFields layout rest)

/-- The elements after the first, and the end of the array. -/
def writeElements (layout : Layout) : List Json → Text
  | [] => [']']
  | element :: rest => layout.comma ++ write layout element ++ writeElements layout rest

/-- The fields after the first, and the end of the object. -/
def writeFields (layout : Layout) : Fields Json → Text
  | [] => ['\x7d']
  | (name, value) :: rest =>
    layout.comma ++ writeString layout.escape name ++ layout.colon ++ write layout value ++
      writeFields layout rest

end

/-- Fields ordered by the code points of their names. -/
def sortFields (fields : Fields Json) : Fields Json :=
  fields.mergeSort fun left right => left.1.le right.1

mutual

/-- The same document with the fields of every object in the order of their names. -/
def sorted : Json → Json
  | arr elements => arr (sortedElements elements)
  | obj fields => obj (sortFields (sortedFields fields))
  | other => other

/-- Every element with its fields in order. -/
def sortedElements : List Json → List Json
  | [] => []
  | element :: rest => sorted element :: sortedElements rest

/-- Every field's value with its own fields in order. -/
def sortedFields : Fields Json → Fields Json
  | [] => []
  | (name, value) :: rest => (name, sorted value) :: sortedFields rest

end

mutual

/-- All integers in a value, in the order in which they are written. -/
def integers : Json → List Int
  | int value => [value]
  | arr elements => elementIntegers elements
  | obj fields => fieldIntegers fields
  | _ => []

/-- The integers in elements. -/
def elementIntegers : List Json → List Int
  | [] => []
  | element :: rest => integers element ++ elementIntegers rest

/-- The integers in the values of fields. -/
def fieldIntegers : Fields Json → List Int
  | [] => []
  | (_, value) :: rest => integers value ++ fieldIntegers rest

end

/-- All integers in a document are short. -/
def AllShort (json : Json) : Prop :=
  ∀ value ∈ json.integers, IsShort value

instance (json : Json) : Decidable json.AllShort :=
  inferInstanceAs (Decidable (∀ value ∈ json.integers, IsShort value))

/-- The written form of a document, unless one of its integers is too long for that. -/
def render (layout : Layout) (json : Json) : Except Fault Text :=
  if json.AllShort then .ok (write layout json) else .error (.invalid .longInteger)

/-- The text of a document, Unicode kept as it is. -/
def text (json : Json) : Except Fault Text :=
  render plainLayout json

/-- The canonical text of a document: ASCII only, fields in the order of their names. -/
def canonicalText (json : Json) : Except Fault Text :=
  render asciiLayout (sorted json)

end Json

end ConstrainedDecoding
