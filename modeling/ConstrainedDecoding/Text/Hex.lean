import ConstrainedDecoding.Text.Encoding

/-! Hexadecimal digits. -/

namespace ConstrainedDecoding.Text

/-- The lowercase digit of a value below sixteen. -/
def hexDigit (value : Nat) : Char :=
  Char.ofNat (if value < 10 then 48 + value else 87 + value)

/-- The value of a hexadecimal digit of either case. -/
def hexValue? (letter : Letter) : Option Nat :=
  let code := letter.number
  if 48 ≤ code && code ≤ 57 then some (code - 48)
  else if 97 ≤ code && code ≤ 102 then some (code - 87)
  else if 65 ≤ code && code ≤ 70 then some (code - 55)
  else none

/-- The low digits of a number, the most significant first. -/
def hexDigits : Nat → Nat → List Char
  | 0, _ => []
  | width + 1, number => hexDigits width (number / 16) ++ [hexDigit (number % 16)]

/-- The number spelled by hexadecimal digits. -/
def hexNumber? (digits : Text) : Option Nat :=
  digits.foldl (fun number digit => do return (← number) * 16 + (← hexValue? digit)) (some 0)

/-- Two digits for each byte. -/
def hexOfBytes (bytes : Bytes) : List Char :=
  bytes.flatMap fun byte => hexDigits 2 byte.toNat

/-- The bytes spelled by pairs of digits. -/
def bytesOfHex? : Text → Option Bytes
  | [] => some []
  | high :: low :: rest => do
    let byte ← hexNumber? [high, low]
    return UInt8.ofNat byte :: (← bytesOfHex? rest)
  | _ => none

end ConstrainedDecoding.Text
