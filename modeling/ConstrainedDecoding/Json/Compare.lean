import ConstrainedDecoding.Json.Basic

/-! Equality of documents by value, and the keys by which equal values are found again. -/

namespace ConstrainedDecoding.Json

/-- A number: a truth value counts as zero or one. -/
inductive Number where
  | int (value : Int)
  | float (value : Binary64)

/-- The number that a value counts as. -/
def number? : Json → Option Number
  | bool value => some (.int (if value then 1 else 0))
  | int value => some (.int value)
  | float value => some (.float value)
  | _ => none

/-- A number is at most another, whatever their kinds. -/
def Number.le : Number → Number → Bool
  | .int left, .int right => left ≤ right
  | .int left, .float right => Binary64.intLe left right
  | .float left, .int right => left.leInt right
  | .float left, .float right => left.le right

/-- Two numbers are equal in value. -/
def Number.same (left right : Number) : Bool :=
  left.le right && right.le left

/-- Two numbers are the same member of a collection: a NaN is there, though it equals nothing. -/
def Number.matches : Number → Number → Bool
  | .float .nan, .float .nan => true
  | left, right => left.same right

mutual

/-- Two values are equal parts of larger ones: numbers by value, objects in any order of fields. -/
def same : Json → Json → Bool
  | null, null => true
  | str left, str right => left = right
  | arr left, arr right => sameElements left right
  | obj left, obj right => left.length = right.length && sameFields left right
  | left, right =>
    match left.number?, right.number? with
    | some left, some right => left.matches right
    | _, _ => false

/-- Two lists are equal element by element. -/
def sameElements : List Json → List Json → Bool
  | [], [] => true
  | left :: lefts, right :: rights => same left right && sameElements lefts rights
  | _, _ => false

/-- Every field has an equal one under the same name. -/
def sameFields : List (Text × Json) → List (Text × Json) → Bool
  | [], _ => true
  | (name, value) :: rest, fields =>
    (match Fields.get? fields name with
    | some other => same value other
    | none => false) && sameFields rest fields

end

/-- What a value is filed under. Two values with different keys are never equal. -/
inductive HashKey where
  | number (residue : Int)
  | text (content : Text)
  | nothing
  | notANumber
  deriving DecidableEq

/-- The prime modulus of numeric keys. -/
def hashModulus : Nat := twoPow 61 - 1

/-- The key of a number from its residue. Minus one is a reserved key. -/
def numericKey (negative : Bool) (residue : Nat) : Int :=
  let key := signed negative residue
  if key = -1 then -2 else key

/-- The key of an integer. -/
def integerKey (value : Int) : Int :=
  numericKey (value < 0) (value.natAbs % hashModulus)

/-- The key of a binary64 number, the same as that of an integer equal to it. -/
def floatKey : Binary64 → HashKey
  | .nan => .notANumber
  | .infinity negative => .number (signed negative 314159)
  | .finite negative units =>
    -- Two to the power 61 is one here, so dividing by 2^1074 is multiplying by 2^24.
    .number (numericKey negative (units % hashModulus * twoPow 24 % hashModulus))

/-- The key of a value that can be filed: not of an array or an object. -/
def hashKey? : Json → Option HashKey
  | null => some .nothing
  | bool value => some (.number (if value then 1 else 0))
  | int value => some (.number (integerKey value))
  | float value => some (floatKey value)
  | str value => some (if value.isEmpty then .number 0 else .text value)
  | arr _ => none
  | obj _ => none

end ConstrainedDecoding.Json
