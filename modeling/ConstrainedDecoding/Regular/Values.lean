import ConstrainedDecoding.Json.Writer
import ConstrainedDecoding.Regular.Basic

/-! Schemas that leave a choice between finitely many values. -/

namespace ConstrainedDecoding.Regular

/-- The written form of a value, without blanks. -/
def ofValue (value : Json) : Regular :=
  Regular.text ((value.write Json.compactLayout).chars?.getD [])

/-- The values of a type that has finitely many. -/
def ofType? (type : Json) : Option Regular :=
  if type.isText "boolean" then some (anyOf [ofValue (.bool true), ofValue (.bool false)])
  else if type.isText "null" then some (ofValue .null)
  else none

/-- A value is of a type that schemas can name. Every integer is a number as well. -/
def isOfType : Json → Text → Bool
  | .null, type => type = "null"
  | .bool _, type => type = "boolean"
  | .int _, type => type = "integer" || type = "number"
  | .float _, type => type = "number"
  | .str _, type => type = "string"
  | .arr _, type => type = "array"
  | .obj _, type => type = "object"

/-- The values of a list that are of a type, if a type is stated. -/
def ofStatedType (stated : Option Json) (values : List Json) : List Json :=
  match stated with
  | some (.str type) => values.filter (isOfType · type)
  | _ => values

/-- The language of the values that a schema admits. A schema that admits none is refused. -/
def ofSchema? (schema : Json) : Option Regular :=
  match schema.field? "enum" with
  | some (.arr values) =>
    match ofStatedType (schema.field? "type") values with
    | [] => none
    | values => some (anyOf (values.map ofValue))
  | some _ => none
  | none => (schema.field? "type").bind ofType?

end ConstrainedDecoding.Regular
