import ConstrainedDecoding.Json.Fields
import ConstrainedDecoding.Number.Binary64

/-! Documents: values with integers of any size kept apart from binary64 numbers. -/

namespace ConstrainedDecoding

/-- A document value. The fields of an object keep their order. -/
inductive Json where
  | null
  | bool (value : Bool)
  | int (value : Int)
  | float (value : Binary64)
  | str (value : Text)
  | arr (elements : List Json)
  | obj (fields : List (Text × Json))
  deriving Inhabited

namespace Json

/-- A value that counts as true: not null, false, zero or empty. -/
def isTruthy : Json → Bool
  | null => false
  | bool value => value
  | int value => value ≠ 0
  | float value => value.isNonzero
  | str value => !value.isEmpty
  | arr elements => !elements.isEmpty
  | obj fields => !fields.isEmpty

/-- The value is null. -/
def isNull : Json → Bool
  | null => true
  | _ => false

/-- The value, unless it counts as false. -/
def orElse (value default : Json) : Json :=
  if value.isTruthy then value else default

/-- A field of an object that has it. -/
def field? : Json → Text → Option Json
  | obj fields, name => Fields.get? fields name
  | _, _ => none

/-- The value is a given text. -/
def isText (text : Text) : Json → Bool
  | str value => value = text
  | _ => false

/-- A text or nothing. -/
def ofText? : Option Text → Json
  | some text => str text
  | none => null

end Json

end ConstrainedDecoding
