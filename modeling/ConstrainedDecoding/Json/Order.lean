import ConstrainedDecoding.Fault
import ConstrainedDecoding.Json.Compare

/-! The order of document values of one kind, and which values can be filed at all. -/

namespace ConstrainedDecoding.Json

/-- The failure to file a value. -/
def unhashable (json : Json) : Fault :=
  .operand ("unhashable type: '" ++ json.live.kindName ++ "'")

/-- The value can be filed. -/
def checkHashable (json : Json) : Except Fault Unit :=
  if json.hashKey?.isSome then .ok () else .error json.unhashable

/-- Two values are equal. A NaN equals nothing, not even itself. -/
def equals (left right : Json) : Bool :=
  match left with
  | float .nan => false
  | _ => left.same right

/-- A value is above another, if the two are of kinds that can be compared. -/
def above? (left right : Json) : Option Bool :=
  match left, right with
  | str left, str right => some (!left.le right)
  | left, right => do
    let left ← left.number?
    let right ← right.number?
    return right.le left && !left.le right

/-- The failure to compare values of different kinds. -/
def incomparable (left right : Json) : Fault :=
  .operand ("'>' not supported between instances of '" ++ left.live.kindName ++ "' and '" ++
    right.live.kindName ++ "'")

/-- The greater one of two values, the first if neither is above the other. -/
def greater (first second : Json) : Except Fault Json :=
  match second.above? first with
  | some above => .ok (if above then second else first)
  | none => .error (second.incomparable first)

/-- The value is a number. -/
def isNumber (json : Json) : Bool :=
  json.number?.isSome

/-- The value is a text. -/
def isString : Json → Bool
  | str _ => true
  | _ => false

/-- Values in ascending order, if they are of one kind. A single value needs no order. -/
def sorted? (values : List Json) : Option (List Json) :=
  if values.length ≤ 1 || values.all isNumber || values.all isString then
    some (values.mergeSort fun left right => left.above? right ≠ some true)
  else none

end ConstrainedDecoding.Json
