import ConstrainedDecoding.Text.Hex

/-! Texts in which characters are spelled by percent signs and the digits of their bytes. -/

namespace ConstrainedDecoding.Text

/-- A byte as a percent sign and two digits. -/
def percentByte (byte : UInt8) : List Char :=
  '%' :: (hexDigits 2 byte.toNat).map Char.toUpper

/-- A text with the characters that it does not keep spelled by their bytes. -/
def percentEncode (keeps : Char → Bool) (text : List Char) : List Char :=
  text.flatMap fun char =>
    if keeps char then [char] else (String.utf8EncodeChar char).flatMap percentByte

/-- The bytes of a text, those spelled by percent signs and digits among them. -/
def percentBytes : List Char → Bytes
  | [] => []
  | '%' :: high :: low :: rest =>
    match hexNumber? [.char high, .char low] with
    | some byte => UInt8.ofNat byte :: percentBytes rest
    | none => String.utf8EncodeChar '%' ++ percentBytes (high :: low :: rest)
  | char :: rest => String.utf8EncodeChar char ++ percentBytes rest

/-- What stands for a byte that is no part of a character. -/
def replacement : Char := Char.ofNat 0xFFFD

/-- The character that bytes begin with, and the number of its bytes. -/
def leadingChar? (bytes : Bytes) : Option (Char × Nat) :=
  [1, 2, 3, 4].findSome? fun count =>
    match decodeUtf8? false (bytes.take count) with
    | some [.char char] => some (char, count)
    | _ => none

/-- The characters of bytes, with a replacement for each byte that is no part of one. -/
def lenientUtf8 : Bytes → List Char
  | [] => []
  | byte :: rest =>
    match leadingChar? (byte :: rest) with
    | some (char, count) => char :: lenientUtf8 (rest.drop (count - 1))
    | none => replacement :: lenientUtf8 rest
termination_by bytes => bytes.length
decreasing_by all_goals simp only [List.length_drop, List.length_cons]; omega

/-- The text that percent signs and digits spell. -/
def percentDecode (text : List Char) : List Char :=
  lenientUtf8 (percentBytes text)

end ConstrainedDecoding.Text
