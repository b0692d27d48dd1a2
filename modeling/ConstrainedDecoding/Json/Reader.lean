import ConstrainedDecoding.Json.Basic
import ConstrainedDecoding.Number.Decimal
import ConstrainedDecoding.Text.Integer

/-! Reading documents, with the place and kind of the first fault. -/

namespace ConstrainedDecoding.Json

/-- What stops the reading of a document. -/
inductive Obstacle where
  | value
  | fieldName
  | colon
  | comma
  | unterminated
  | control
  | escape
  | unitEscape
  | extra
  | byteOrderMark
  /-- An integer has more digits than are read. -/
  | digits (count : Nat)
  deriving DecidableEq

/-- A document cannot be read: what is wrong, and where, by offset and by line and column. -/
structure ReadError where
  obstacle : Obstacle
  offset : Nat
  line : Nat
  column : Nat
  deriving DecidableEq

/-- An obstacle and the text that begins where it stands. -/
abbrev Stop := Obstacle × Text

/-- A part of a document and the text after it. -/
abbrev Scan (α : Type) := Except Stop (α × Text)

/-- White space between the parts of a document. -/
def isSpace (letter : Letter) : Bool :=
  letter = ' ' || letter = '\t' || letter = '\n' || letter = '\r'

/-- The text after white space. -/
def skipSpace (text : Text) : Text :=
  text.dropWhile isSpace

/-- The letter of a short escape. -/
def unescape? (letter : Letter) : Option Letter :=
  if letter = '"' || letter = '\\' || letter = '/' then some letter
  else if letter = 'b' then some (.ofNumber 8)
  else if letter = 'f' then some (.ofNumber 12)
  else if letter = 'n' then some '\n'
  else if letter = 'r' then some '\r'
  else if letter = 't' then some '\t'
  else none

/-- The first half of a pair of surrogates. -/
def isHighSurrogate (unit : Nat) : Bool :=
  0xD800 ≤ unit && unit ≤ 0xDBFF

/-- The second half of a pair of surrogates. -/
def isLowSurrogate (unit : Nat) : Bool :=
  0xDC00 ≤ unit && unit ≤ 0xDFFF

/-- The character of a pair of surrogates. -/
def joinSurrogates (high low : Nat) : Letter :=
  .ofNumber (0x10000 + (high - 0xD800) * 1024 + (low - 0xDC00))

/-- A letter put in front of a scanned string. -/
def prepend (letter : Letter) : Scan Text → Scan Text
  | .ok (letters, rest) => .ok (letter :: letters, rest)
  | .error stop => .error stop

/-- A string after its opening quotation mark, up to the closing one. -/
def scanString (opening : Text) : Text → Scan Text
  | [] => .error (.unterminated, opening)
  | '"' :: rest => .ok ([], rest)
  | '\\' :: rest =>
    match rest with
    | [] => .error (.unterminated, opening)
    | 'u' :: a :: b :: c :: d :: next :: rest =>
      match Text.hexNumber? [a, b, c, d] with
      | none => .error (.unitEscape, 'u' :: a :: b :: c :: d :: next :: rest)
      | some unit =>
        if isHighSurrogate unit then
          match next, rest with
          -- A second escape is looked at only when more text follows it.
          | '\\', 'u' :: e :: f :: g :: h :: after :: rest =>
            match Text.hexNumber? [e, f, g, h] with
            | none => .error (.unitEscape, 'u' :: e :: f :: g :: h :: after :: rest)
            | some low =>
              if isLowSurrogate low then
                prepend (joinSurrogates unit low) (scanString opening (after :: rest))
              else
                prepend (.ofNumber unit)
                  (scanString opening ('\\' :: 'u' :: e :: f :: g :: h :: after :: rest))
          | next, rest => prepend (.ofNumber unit) (scanString opening (next :: rest))
        else prepend (.ofNumber unit) (scanString opening (next :: rest))
    | 'u' :: rest => .error (.unitEscape, 'u' :: rest)
    | letter :: rest =>
      match unescape? letter with
      | some meant => prepend meant (scanString opening rest)
      | none => .error (.escape, '\\' :: letter :: rest)
  | letter :: rest =>
    if letter.number < 0x20 then .error (.control, letter :: rest)
    else prepend letter (scanString opening rest)
  termination_by text => text.length

/-- The whole part of a number: a lone zero, or digits that do not begin with one. -/
def scanWhole? : Text → Option (Text × Text)
  | [] => none
  | '0' :: rest => some (['0'], rest)
  | digit :: rest =>
    if digit.isDigit then some (digit :: rest.takeWhile (·.isDigit), rest.dropWhile (·.isDigit))
    else none

/-- The digits after a point, if at least one follows it. -/
def scanFraction : Text → Text × Text
  | '.' :: digit :: rest =>
    if digit.isDigit then (digit :: rest.takeWhile (·.isDigit), rest.dropWhile (·.isDigit))
    else ([], '.' :: digit :: rest)
  | text => ([], text)

/-- The sign of an exponent. -/
def scanSign : Text → Bool × Text
  | '-' :: rest => (true, rest)
  | '+' :: rest => (false, rest)
  | text => (false, text)

/-- The exponent, if its mark and optional sign are followed by a digit. -/
def scanExponent (text : Text) : Option Int × Text :=
  match text with
  | mark :: rest =>
    let (negative, digits) := scanSign rest
    let spelled := digits.takeWhile (·.isDigit)
    if (mark = 'e' || mark = 'E') && !spelled.isEmpty then
      (some (signed negative (Text.digitsNumber 0 spelled)), digits.dropWhile (·.isDigit))
    else (none, text)
  | [] => (none, [])

/-- The integer that digits spell, unless there are too many of them. -/
def readInteger (negative : Bool) (digits : Text) : Except Obstacle Json :=
  if Text.digitLimit < digits.length then .error (.digits digits.length)
  else .ok (int (signed negative (Text.digitsNumber 0 digits)))

/-- A number. One with a fraction or an exponent is a binary64 number, any other an integer. -/
def scanNumber (text : Text) : Scan Json :=
  let (negative, unsigned) := match text with
    | '-' :: rest => (true, rest)
    | other => (false, other)
  match scanWhole? unsigned with
  | none => .error (.value, text)
  | some (whole, rest) =>
    let (fraction, rest) := scanFraction rest
    let (exponent, rest) := scanExponent rest
    if fraction.isEmpty && exponent.isNone then
      match readInteger negative whole with
      | .ok number => .ok (number, rest)
      | .error obstacle => .error (obstacle, text)
    else
      let decimal := Decimal.mk (Text.digitsNumber 0 (whole ++ fraction))
        (exponent.getD 0 - fraction.length)
      .ok (float (Binary64.ofDecimal negative decimal), rest)

/-- A word with its value, a number, or no value at all. -/
def scanPlain : Text → Scan Json
  | 'n' :: 'u' :: 'l' :: 'l' :: rest => .ok (null, rest)
  | 't' :: 'r' :: 'u' :: 'e' :: rest => .ok (bool true, rest)
  | 'f' :: 'a' :: 'l' :: 's' :: 'e' :: rest => .ok (bool false, rest)
  | 'N' :: 'a' :: 'N' :: rest => .ok (float .nan, rest)
  | 'I' :: 'n' :: 'f' :: 'i' :: 'n' :: 'i' :: 't' :: 'y' :: rest =>
    .ok (float (.infinity false), rest)
  | '-' :: 'I' :: 'n' :: 'f' :: 'i' :: 'n' :: 'i' :: 't' :: 'y' :: rest =>
    .ok (float (.infinity true), rest)
  | text => scanNumber text

mutual

/-- A value at the start of a text. Each level of nesting uses up fuel. -/
def scanValue : Nat → Text → Except Stop (Json × Text)
  | 0, text => .error (.value, text)
  | fuel + 1, text =>
    match text with
    | '"' :: rest => do
      let (letters, rest) ← scanString text rest
      return (str letters, rest)
    | '[' :: rest =>
      match skipSpace rest with
      | ']' :: rest => .ok (arr [], rest)
      | rest => do
        let (elements, rest) ← scanElements fuel rest
        return (arr elements, rest)
    | '\x7b' :: rest =>
      match skipSpace rest with
      | '\x7d' :: rest => .ok (obj [], rest)
      | rest => do
        let (fields, rest) ← scanFields fuel rest
        return (obj (Fields.ofList fields), rest)
    | _ => scanPlain text

/-- One or more elements and the end of the array. -/
def scanElements : Nat → Text → Except Stop (List Json × Text)
  | 0, text => .error (.value, text)
  | fuel + 1, text => do
    let (element, rest) ← scanValue fuel text
    match skipSpace rest with
    | ']' :: rest => return ([element], rest)
    | ',' :: rest =>
      let (elements, rest) ← scanElements fuel (skipSpace rest)
      return (element :: elements, rest)
    | rest => .error (.comma, rest)

/-- One or more fields as they are given and the end of the object. -/
def scanFields : Nat → Text → Except Stop (List (Text × Json) × Text)
  | 0, text => .error (.value, text)
  | fuel + 1, text =>
    match text with
    | '"' :: rest => do
      let (name, rest) ← scanString text rest
      match skipSpace rest with
      | ':' :: rest =>
        let (value, rest) ← scanValue fuel (skipSpace rest)
        let field := (name, value)
        match skipSpace rest with
        | '\x7d' :: rest => return ([field], rest)
        | ',' :: rest =>
          let (fields, rest) ← scanFields fuel (skipSpace rest)
          return (field :: fields, rest)
        | rest => .error (.comma, rest)
      | rest => .error (.colon, rest)
    | _ => .error (.fieldName, text)

end

/-- A whole document, with nothing but white space around its value. -/
def scanDocument (text : Text) : Except Stop Json := do
  -- Every call consumes a character or is the last on its level, so the fuel suffices.
  let (value, rest) ← scanValue (2 * text.length + 2) (skipSpace text)
  match skipSpace rest with
  | [] => return value
  | rest => .error (.extra, rest)

/-- The line and column of the end of a text, both counted from one. -/
def lineAndColumn (before : Text) : Nat × Nat :=
  let step := fun (line, column) (letter : Letter) =>
    if letter = '\n' then (line + 1, 1) else (line, column + 1)
  before.foldl step (1, 1)

/-- An obstacle placed within the whole text. -/
def ReadError.locate (whole : Text) (stop : Stop) : ReadError :=
  let offset := whole.length - stop.2.length
  let (line, column) := lineAndColumn (whole.take offset)
  ⟨stop.1, offset, line, column⟩

/-- The document that letters spell. -/
def ofLetters (letters : Text) : Except ReadError Json :=
  (scanDocument letters).mapError (ReadError.locate letters)

/-- The document that a text spells. A byte order mark is not part of a text. -/
def ofText (text : Text) : Except ReadError Json :=
  if text.head? = some (.ofNumber 0xFEFF) then .error (ReadError.locate text (.byteOrderMark, text))
  else ofLetters text

/-- The wording of an obstacle. -/
def Obstacle.words : Obstacle → Text
  | value => "Expecting value"
  | fieldName => "Expecting property name enclosed in double quotes"
  | colon => "Expecting ':' delimiter"
  | comma => "Expecting ',' delimiter"
  | unterminated => "Unterminated string starting at"
  | control => "Invalid control character at"
  | escape => "Invalid \\escape"
  | unitEscape => "Invalid \\uXXXX escape"
  | extra => "Extra data"
  | byteOrderMark => "Unexpected UTF-8 BOM (decode using utf-8-sig)"
  | digits count => Text.tooManyDigits (some count)

/-- The obstacle is not in the form of the document but in what it states. -/
def Obstacle.isExcess : Obstacle → Bool
  | digits _ => true
  | _ => false

/-- The message of a fault in a document, with its place if the form is at fault. -/
def ReadError.message (error : ReadError) : Text :=
  if error.obstacle.isExcess then error.obstacle.words
  else error.obstacle.words ++ ": line " ++ toString error.line ++ " column " ++
    toString error.column ++ " (char " ++ toString error.offset ++ ")"

end ConstrainedDecoding.Json
