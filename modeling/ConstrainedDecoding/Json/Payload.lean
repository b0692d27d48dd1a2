import ConstrainedDecoding.Json.Reader
import ConstrainedDecoding.Text.Encoding

/-! Documents that arrive as text or as bytes. -/

namespace ConstrainedDecoding

/-- A document before it is read. -/
inductive Payload where
  | text (content : Text)
  | bytes (content : Bytes)

/-- The bytes of a payload, those of a text in UTF-8. -/
def Payload.octets : Payload → Except Text.Unencodable Bytes
  | text content => content.utf8
  | bytes content => .ok content

namespace Json

/-- Why a payload holds no document. -/
inductive PayloadError where
  | undecodable
  | unreadable (error : ReadError)

/-- The text of bytes in the encoding form that their first bytes give away. -/
def decodeBytes? (bytes : Bytes) : Option Text :=
  match bytes with
  -- A byte order mark names the form, and the four byte form is looked for first.
  | 0x00 :: 0x00 :: 0xFE :: 0xFF :: rest => Text.decodeUtf32? true rest
  | 0xFF :: 0xFE :: 0x00 :: 0x00 :: rest => Text.decodeUtf32? false rest
  | 0xFE :: 0xFF :: rest => Text.decodeUtf16? true rest
  | 0xFF :: 0xFE :: rest => Text.decodeUtf16? false rest
  | 0xEF :: 0xBB :: 0xBF :: rest => Text.decodeUtf8? true rest
  -- A document begins with an ASCII character, so zero bytes show the width of a unit.
  | first :: second :: third :: fourth :: _ =>
    if first = 0 then
      if second = 0 then Text.decodeUtf32? true bytes else Text.decodeUtf16? true bytes
    else if second = 0 then
      if third = 0 && fourth = 0 then Text.decodeUtf32? false bytes
      else Text.decodeUtf16? false bytes
    else Text.decodeUtf8? true bytes
  | [first, second] =>
    if first = 0 then Text.decodeUtf16? true bytes
    else if second = 0 then Text.decodeUtf16? false bytes
    else Text.decodeUtf8? true bytes
  | _ => Text.decodeUtf8? true bytes

/-- The document that a payload holds. -/
def ofPayload : Payload → Except PayloadError Json
  | .text content => (ofText content).mapError .unreadable
  | .bytes content =>
    match decodeBytes? content with
    | some letters => (ofLetters letters).mapError .unreadable
    | none => .error .undecodable

end Json

end ConstrainedDecoding
