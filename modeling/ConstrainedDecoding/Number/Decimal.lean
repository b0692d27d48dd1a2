import ConstrainedDecoding.Number.Binary64

/-! Decimal notation of binary64 numbers: exact reading, and the shortest digits that read back. -/

namespace ConstrainedDecoding

/-- A decimal number: a count of a power of ten. -/
structure Decimal where
  digits : Nat
  exponent : Int
  deriving DecidableEq

/-- The digits of a natural number in decimal. -/
def decimalDigits (number : Nat) : List Char :=
  Nat.toDigits 10 number

/-- An integer in decimal, with a minus sign when it is negative. -/
def integerText (value : Int) : List Char :=
  if value < 0 then '-' :: decimalDigits value.natAbs else decimalDigits value.natAbs

/-- The binary64 number nearest to a decimal one. -/
def Binary64.ofDecimal (negative : Bool) (decimal : Decimal) : Binary64 :=
  if decimal.digits = 0 then .finite negative 0
  -- Beyond these exponents the answer is an infinity or a zero whatever the digits are.
  else if 400 < decimal.exponent then .infinity negative
  else if decimal.exponent + (decimal.digits.log2 + 1) < -400 then .finite negative 0
  else
    BinaryFormat.double.close negative
      (decimal.digits * tenPow decimal.exponent.toNat * twoPow unitExponent)
      (tenPow (-decimal.exponent).toNat)

namespace Decimal

/-- A positive number of units is at least a power of ten. -/
def powerAtMost (units : Nat) (exponent : Int) : Bool :=
  tenPow exponent.toNat * twoPow unitExponent ≤ units * tenPow (-exponent).toNat

/-- The exponent of the leading decimal digit of a positive number of units. -/
def leadingExponent (units : Nat) : Int :=
  -- The estimate from the binary exponent is off by one place at most.
  let estimate := ((units.log2 : Int) - unitExponent) * 30103 / 100000
  if powerAtMost units (estimate + 1) then estimate + 1
  else if powerAtMost units estimate then estimate
  else estimate - 1

/-- The ends of the interval that rounds to a number of units, in quarters of a unit. -/
def roundingInterval (units : Nat) : Nat × Nat :=
  let scale := twoPow (BinaryFormat.double.step units)
  -- Below a power of two the neighbour is only half as far away.
  let below := if units = twoPow 52 * scale && scale ≠ 1 then scale else 2 * scale
  (4 * units - below, 4 * units + 2 * scale)

/-- The interval holds its ends exactly when the number's significand is even. -/
def holdsEnds (units : Nat) : Bool :=
  units / twoPow (BinaryFormat.double.step units) % 2 = 0

/-- The multiple of a power of ten nearest to a number of units, if it reads back as the number. -/
def onGrid? (units : Nat) (exponent : Int) : Option Nat :=
  let (low, high) := roundingInterval units
  let grid := tenPow exponent.toNat * 4 * twoPow unitExponent
  let shift := tenPow (-exponent).toNat
  let value := 4 * units * shift
  let readsBack := fun count =>
    if holdsEnds units then low * shift ≤ count * grid && count * grid ≤ high * shift
    else low * shift < count * grid && count * grid < high * shift
  let lower := value / grid
  let rest := 2 * (value % grid)
  -- The nearer neighbour is tried first, the even one at equal distance.
  let first := if rest < grid || (rest = grid && lower % 2 = 0) then lower else lower + 1
  let second := if first = lower then lower + 1 else lower
  if readsBack first then some first else if readsBack second then some second else none

/-- The decimal without trailing zeros in its digits, at most a given number of them. -/
def dropZeros (decimal : Decimal) : Nat → Decimal
  | 0 => decimal
  | fuel + 1 =>
    if decimal.digits ≠ 0 && decimal.digits % 10 = 0 then
      dropZeros ⟨decimal.digits / 10, decimal.exponent + 1⟩ fuel
    else decimal

/-- The decimal with the fewest digits that reads back as a number of units, nearest of those. -/
def shortest (units : Nat) : Decimal :=
  let leading := leadingExponent units
  let found := (List.range 17).findSome? fun (places : Nat) =>
    (onGrid? units (leading - places)).map fun digits => Decimal.mk digits (leading - places)
  -- Seventeen digits always read back, so the default is never taken.
  dropZeros (found.getD ⟨0, 0⟩) 17

end Decimal

/-- How a format writes numbers: where it is positional, and its words for what is not finite. -/
structure NumberLayout where
  positionalFrom : Int
  positionalBelow : Int
  exponentWidth : Nat
  nanText : String
  infinityText : String

namespace NumberLayout

/-- Digits with a mark after so many of them. -/
def insertPoint (digits : List Char) (whole : Nat) : List Char :=
  digits.take whole ++ '.' :: digits.drop whole

/-- The exponent with its sign and at least the layout's number of digits. -/
def exponentText (layout : NumberLayout) (exponent : Int) : List Char :=
  let digits := decimalDigits exponent.natAbs
  let padding := List.replicate (layout.exponentWidth - digits.length) '0'
  'e' :: (if exponent < 0 then '-' else '+') :: (padding ++ digits)

/-- A decimal in positional notation with a fraction, or in scientific notation. -/
def decimalText (layout : NumberLayout) (decimal : Decimal) : List Char :=
  let digits := decimalDigits decimal.digits
  let leading := decimal.exponent + digits.length - 1
  if layout.positionalFrom ≤ leading && leading < layout.positionalBelow then
    if 0 ≤ decimal.exponent then digits ++ List.replicate decimal.exponent.toNat '0' ++ ['.', '0']
    else if 0 ≤ leading then insertPoint digits (leading + 1).toNat
    else '0' :: '.' :: (List.replicate (-leading - 1).toNat '0' ++ digits)
  else
    -- A single digit stands without a point.
    (if digits.length = 1 then digits else insertPoint digits 1) ++ layout.exponentText leading

/-- The text of a number, with the fewest digits that read back. -/
def text (layout : NumberLayout) : Binary64 → List Char
  | .nan => layout.nanText.toList
  | .infinity negative => (if negative then ['-'] else []) ++ layout.infinityText.toList
  | .finite negative units =>
    (if negative then ['-'] else []) ++
      if units = 0 then ['0', '.', '0'] else layout.decimalText (Decimal.shortest units)

/-- Numbers as messages show them: positional from 0.0001 up to 10^16. -/
def shown : NumberLayout := ⟨-4, 16, 2, "nan", "inf"⟩

/-- Numbers as documents hold them: as shown, with the words of the document format. -/
def written : NumberLayout := { shown with nanText := "NaN", infinityText := "Infinity" }

end NumberLayout

end ConstrainedDecoding
