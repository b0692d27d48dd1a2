import ConstrainedDecoding.Text.Basic

/-! Unicode text as bytes: the three encoding forms, with lone surrogates tolerated on request. -/

namespace ConstrainedDecoding

/-- A byte string. -/
abbrev Bytes := List UInt8

namespace Text

/-- Letters in a row that no bytes stand for: where they begin, how many there are, the first. -/
structure Unencodable where
  start : Nat
  count : Nat
  first : Letter
  deriving DecidableEq

/-- The bytes of characters in UTF-8. -/
def encodeUtf8 (chars : List Char) : Bytes :=
  chars.flatMap String.utf8EncodeChar

/-- A letter is a surrogate. -/
def isSurrogate : Letter → Bool
  | .char _ => false
  | .surrogate _ => true

/-- The first letters of a class in a text, counting positions from a given one. -/
def firstRun? (isMeant : Letter → Bool) (start : Nat) : Text → Option Unencodable
  | [] => none
  | letter :: rest =>
    if isMeant letter then some ⟨start, (rest.takeWhile isMeant).length + 1, letter⟩
    else firstRun? isMeant (start + 1) rest

/-- The bytes of a text in UTF-8, unless it holds surrogates. -/
def utf8 (text : Text) : Except Unencodable Bytes :=
  match firstRun? isSurrogate 0 text with
  | some surrogates => .error surrogates
  | none => .ok (encodeUtf8 (text.chars?.getD []))

/-- A byte that continues a sequence. -/
def isContinuation (byte : UInt8) : Bool :=
  0x80 ≤ byte && byte ≤ 0xBF

/-- The payload of a continuation byte. -/
def continuation (byte : UInt8) : Nat :=
  byte.toNat - 0x80

/-- Two bytes form a sequence. -/
def isPair (first second : UInt8) : Bool :=
  0xC2 ≤ first && first ≤ 0xDF && isContinuation second

/-- Three bytes form a sequence: no overlong form, and no surrogate unless they are tolerated. -/
def isTriple (tolerant : Bool) (first second third : UInt8) : Bool :=
  0xE0 ≤ first && first ≤ 0xEF && isContinuation second && isContinuation third &&
    (first ≠ 0xE0 || 0xA0 ≤ second) && (first ≠ 0xED || tolerant || second ≤ 0x9F)

/-- Four bytes form a sequence: no overlong form, and nothing past the last code point. -/
def isQuadruple (first second third fourth : UInt8) : Bool :=
  0xF0 ≤ first && first ≤ 0xF4 && isContinuation second && isContinuation third &&
    isContinuation fourth && (first ≠ 0xF0 || 0x90 ≤ second) && (first ≠ 0xF4 || second ≤ 0x8F)

/-- The text of UTF-8 bytes, if they are well formed. -/
def decodeUtf8? (tolerant : Bool) : Bytes → Option Text
  | [] => some []
  | first :: rest =>
    if first < 0x80 then (decodeUtf8? tolerant rest).map (.char (Char.ofNat first.toNat) :: ·)
    else match rest with
      | [] => none
      | second :: rest =>
        if isPair first second then
          (decodeUtf8? tolerant rest).map
            (.char (Char.ofNat ((first.toNat - 0xC0) * 64 + continuation second)) :: ·)
        else match rest with
          | [] => none
          | third :: rest =>
            if isTriple tolerant first second third then
              (decodeUtf8? tolerant rest).map
                (.ofNumber ((first.toNat - 0xE0) * 4096 + continuation second * 64 +
                  continuation third) :: ·)
            else match rest with
              | [] => none
              | fourth :: rest =>
                if isQuadruple first second third fourth then
                  (decodeUtf8? tolerant rest).map
                    (.char (Char.ofNat ((first.toNat - 0xF0) * 262144 + continuation second * 4096 +
                      continuation third * 64 + continuation fourth)) :: ·)
                else none

/-- The text of UTF-16 code units. A surrogate without its partner stays one. -/
def ofUnits : List Nat → Text
  | [] => []
  | unit :: [] => [.ofNumber unit]
  | unit :: next :: rest =>
    if 0xD800 ≤ unit && unit ≤ 0xDBFF && 0xDC00 ≤ next && next ≤ 0xDFFF then
      .char (Char.ofNat (0x10000 + (unit - 0xD800) * 1024 + (next - 0xDC00))) :: ofUnits rest
    else .ofNumber unit :: ofUnits (next :: rest)

/-- Bytes read two by two as code units. -/
def units? (bigEndian : Bool) : Bytes → Option (List Nat)
  | [] => some []
  | [_] => none
  | first :: second :: rest =>
    let unit := if bigEndian then first.toNat * 256 + second.toNat
      else second.toNat * 256 + first.toNat
    (units? bigEndian rest).map (unit :: ·)

/-- The text of UTF-16 bytes of one byte order. -/
def decodeUtf16? (bigEndian : Bool) (bytes : Bytes) : Option Text :=
  (units? bigEndian bytes).map ofUnits

/-- The text of UTF-32 bytes of one byte order. -/
def decodeUtf32? (bigEndian : Bool) : Bytes → Option Text
  | [] => some []
  | first :: second :: third :: fourth :: rest =>
    let code := if bigEndian then
        ((first.toNat * 256 + second.toNat) * 256 + third.toNat) * 256 + fourth.toNat
      else ((fourth.toNat * 256 + third.toNat) * 256 + second.toNat) * 256 + first.toNat
    if code ≤ 0x10FFFF then (decodeUtf32? bigEndian rest).map (.ofNumber code :: ·) else none
  | _ => none

/-- Line ends of every convention as single line feeds. -/
def unixLines : Text → Text
  | [] => []
  | '\r' :: '\n' :: rest => '\n' :: unixLines rest
  | '\r' :: rest => '\n' :: unixLines rest
  | letter :: rest => letter :: unixLines rest

end Text

end ConstrainedDecoding
