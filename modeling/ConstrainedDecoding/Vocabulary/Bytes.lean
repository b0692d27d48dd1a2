import ConstrainedDecoding.Text.Encoding
import ConstrainedDecoding.Text.Integer

/-! The bytes that token strings stand for. -/

namespace ConstrainedDecoding

/-- A byte that the byte alphabet shows as the character of the same number. -/
def isShownByte (code : Nat) : Bool :=
  (0x21 ≤ code && code ≤ 0x7E) || (0xA1 ≤ code && code ≤ 0xAC) || (0xAE ≤ code && code ≤ 0xFF)

/-- The other bytes, which take the characters from 256 on in increasing order. -/
def hiddenBytes : List Nat :=
  (List.range 256).filter fun code => !isShownByte code

/-- The character of a byte in the byte alphabet. -/
def alphabetChar (byte : UInt8) : Char :=
  if isShownByte byte.toNat then Char.ofNat byte.toNat
  else Char.ofNat (256 + hiddenBytes.idxOf byte.toNat)

/-- The byte of a letter in the byte alphabet. -/
def alphabetByte? (letter : Letter) : Option UInt8 :=
  if letter.number < 256 then
    if isShownByte letter.number then some (UInt8.ofNat letter.number) else none
  else hiddenBytes[letter.number - 256]?.map UInt8.ofNat

/-- The bytes of a text in the byte alphabet. -/
def alphabetBytes? (text : Text) : Option Bytes :=
  text.mapM alphabetByte?

/-- The byte that a fallback token spells by number between its brackets. -/
def fallbackByte? : Text → Option UInt8
  | ['<', '0', 'x', high, low, '>'] =>
    match Text.integer? 16 [high, low] with
    | some value => if 0 ≤ value && value < 256 then some (UInt8.ofNat value.toNat) else none
    | none => none
  | _ => none

/-- The letter that stands for a space inside a token. -/
def spaceMark : Letter := .ofNumber 0x2581

/-- The bytes of a plain token: its text with spaces for their marks. -/
def plainBytes (token : Text) : Except Text.Unencodable Bytes :=
  Text.utf8 (token.map fun letter => if letter = spaceMark then ' ' else letter)

/-- The bytes that a token stands for, in a vocabulary that uses the byte alphabet or not. -/
def tokenBytes (byteLevel : Bool) (token : Text) : Except Text.Unencodable Bytes :=
  match fallbackByte? token, if byteLevel then alphabetBytes? token else none with
  | some byte, _ => .ok [byte]
  | none, some bytes => .ok bytes
  | none, none => plainBytes token

/-- The letters of the space and the line feed in the byte alphabet. -/
def byteLevelMarkers : Text := [.ofNumber 0x120, .ofNumber 0x10A]

/-- Tokens that show a marker are written in the byte alphabet. -/
def usesByteAlphabet (tokens : List Text) : Bool :=
  tokens.any fun token => token.any byteLevelMarkers.contains

end ConstrainedDecoding
