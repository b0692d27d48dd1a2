import ConstrainedDecoding.Grammar.Basic
import ConstrainedDecoding.Json.Order

/-! Equality of grammar descriptions, and the keys by which equal ones are found again. -/

namespace ConstrainedDecoding.Grammar

/-- Two descriptions are of one kind and have equal parts. -/
def same : Grammar → Grammar → Bool
  | jsonSchema left, jsonSchema right => (Json.obj left).same (.obj right)
  | regex left, regex right => left.same right
  | lark left leftStart, lark right rightStart => left.same right && leftStart.same rightStart
  | _, _ => false

/-- The key of a part, if it can be filed. -/
def partKey (part : Json) : Except Fault Json.HashKey :=
  match part.hashKey? with
  | some key => .ok key
  | none => .error part.unhashable

/-- The keys of a description's parts. A schema is filed under its canonical text. -/
def hashKeys : Grammar → Except Fault (List Json.HashKey)
  | jsonSchema schema => do return [.text "json_schema", .text (← (Json.obj schema).canonicalText)]
  | regex pattern => do return [← partKey pattern]
  | lark source startRule => do return [← partKey source, ← partKey startRule]

/-- Two descriptions are filed under the same keys. -/
def sameHash (left right : Grammar) : Except Fault Bool := do
  return (← left.hashKeys) = (← right.hashKeys)

end ConstrainedDecoding.Grammar
