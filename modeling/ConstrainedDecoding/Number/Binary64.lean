/-! Binary64 numbers as exact values, and rounding to the narrower binary formats. -/

namespace ConstrainedDecoding

/-- A binary64 number. A finite one is a signed count of the least positive number, 2^-1074. -/
inductive Binary64 where
  | nan
  | infinity (negative : Bool)
  | finite (negative : Bool) (units : Nat)
  deriving DecidableEq, Inhabited

/-- A power of two. -/
def twoPow (exponent : Nat) : Nat :=
  Nat.pow 2 exponent

/-- A power of ten. -/
def tenPow (exponent : Nat) : Nat :=
  Nat.pow 10 exponent

/-- The binary exponent of one, counted in units. -/
def unitExponent : Nat := 1074

/-- A count with its sign. -/
def signed (negative : Bool) (count : Nat) : Int :=
  if negative then -count else count

/-- The quotient rounded to the nearest whole number, a half going to the even neighbour. -/
def nearestQuotient (numerator denominator : Nat) : Nat :=
  let quotient := numerator / denominator
  let twice := 2 * (numerator % denominator)
  -- The remainder is compared with half the denominator.
  if twice < denominator then quotient
  else if denominator < twice then quotient + 1
  else quotient + quotient % 2

/-- A binary format: how many significant bits, the finest step and the first power out of range. -/
structure BinaryFormat where
  precision : Nat
  finest : Nat
  limit : Nat

namespace BinaryFormat

/-- Double precision, whose finest step is one unit. -/
def double : BinaryFormat := ⟨53, 0, unitExponent + 1024⟩

/-- Single precision. -/
def single : BinaryFormat := ⟨24, unitExponent - 149, unitExponent + 128⟩

/-- Half precision. -/
def half : BinaryFormat := ⟨11, unitExponent - 24, unitExponent + 16⟩

/-- The short format with the range of single precision. -/
def brain : BinaryFormat := ⟨8, unitExponent - 133, unitExponent + 128⟩

/-- The exponent of the step between neighbours around a count of units. -/
def step (format : BinaryFormat) (units : Nat) : Nat :=
  max format.finest (units.log2 + 1 - format.precision)

/-- The nearest count of units that the format can hold. -/
def nearest (format : BinaryFormat) (numerator denominator : Nat) : Nat :=
  -- The step is that of the whole part, which has the leading digits.
  let scale := twoPow (format.step (numerator / denominator))
  nearestQuotient numerator (denominator * scale) * scale

/-- The nearest number of the format, or an infinity when that is out of range. -/
def close (format : BinaryFormat) (negative : Bool) (numerator denominator : Nat) : Binary64 :=
  let units := format.nearest numerator denominator
  if twoPow format.limit ≤ units then .infinity negative else .finite negative units

/-- An integer as the nearest number of the format. -/
def ofInt (format : BinaryFormat) (value : Int) : Binary64 :=
  format.close (value < 0) (value.natAbs * twoPow unitExponent) 1

/-- A number converted to the format. -/
def convert (format : BinaryFormat) : Binary64 → Binary64
  | .finite negative units => format.close negative units 1
  | other => other

end BinaryFormat

namespace Binary64

/-- A number is at most another. Nothing compares with a NaN. -/
def le : Binary64 → Binary64 → Bool
  | .nan, _ => false
  | _, .nan => false
  -- Below come the cases of infinities, in which the finite side does not matter.
  | .infinity true, _ => true
  | _, .infinity false => true
  | _, .infinity true => false
  | .infinity false, _ => false
  | .finite negative units, .finite otherNegative otherUnits =>
    signed negative units ≤ signed otherNegative otherUnits

/-- A number is below another. -/
def lt (left right : Binary64) : Bool :=
  left.le right && !right.le left

/-- Anything but a zero, a NaN included. -/
def isNonzero : Binary64 → Bool
  | .finite _ units => units ≠ 0
  | _ => true

/-- An integer as the nearest binary64 number. -/
def ofInt (value : Int) : Binary64 :=
  BinaryFormat.double.ofInt value

/-- One more than a number, rounded to the nearest. -/
def successor : Binary64 → Binary64
  | .finite negative units =>
    let total := signed negative units + twoPow unitExponent
    BinaryFormat.double.close (total < 0) total.natAbs 1
  | other => other

/-- The integer part of a finite number, toward zero. -/
def truncate? : Binary64 → Option Int
  | .finite negative units => some (signed negative (units / twoPow unitExponent))
  | _ => none

/-- A number is at most an integer. -/
def leInt : Binary64 → Int → Bool
  | .nan, _ => false
  | .infinity negative, _ => negative
  | .finite negative units, value => signed negative units ≤ value * twoPow unitExponent

/-- An integer is at most a number. -/
def intLe : Int → Binary64 → Bool
  | _, .nan => false
  | _, .infinity negative => !negative
  | value, .finite negative units => value * twoPow unitExponent ≤ signed negative units

/-- The 64 bits of the interchange format: sign, exponent and fraction. -/
def bits : Binary64 → Nat
  | .nan => 0x7FF8 * twoPow 48
  | .infinity negative => 0x7FF * twoPow 52 + if negative then twoPow 63 else 0
  | .finite negative units =>
    let sign := if negative then twoPow 63 else 0
    -- A subnormal number is its own fraction, and a normal one drops its leading bit.
    if units < twoPow 52 then sign + units
    else
      let step := units.log2 - 52
      sign + step * twoPow 52 + units / twoPow step

end Binary64

end ConstrainedDecoding
