import ConstrainedDecoding.Text.Encoding

/-! Bytes in base 64. -/

namespace ConstrainedDecoding.Text

/-- The digit of a value below 64. -/
def base64Digit (value : Nat) : Char :=
  Char.ofNat (if value < 26 then 65 + value else if value < 52 then 71 + value
    else if value < 62 then value - 4 else if value = 62 then 43 else 47)

/-- The digits of bytes, four for three of them, with marks in place of missing digits. -/
def base64 : Bytes → List Char
  | [] => []
  | [first] =>
    [base64Digit (first.toNat / 4), base64Digit (first.toNat % 4 * 16), '=', '=']
  | [first, second] =>
    [base64Digit (first.toNat / 4), base64Digit (first.toNat % 4 * 16 + second.toNat / 16),
      base64Digit (second.toNat % 16 * 4), '=']
  | first :: second :: third :: rest =>
    base64Digit (first.toNat / 4) ::
      base64Digit (first.toNat % 4 * 16 + second.toNat / 16) ::
      base64Digit (second.toNat % 16 * 4 + third.toNat / 64) ::
      base64Digit (third.toNat % 64) :: base64 rest

end ConstrainedDecoding.Text
