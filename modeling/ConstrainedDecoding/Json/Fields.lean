import ConstrainedDecoding.Text.Basic

/-! Named entries in the order in which their names were first given. -/

namespace ConstrainedDecoding

/-- Entries with their names, in order. -/
abbrev Fields (α : Type) := List (Text × α)

namespace Fields

variable {α : Type}

/-- The entry of a name. -/
def get? (fields : Fields α) (name : Text) : Option α :=
  (fields.find? fun field => field.1 == name).map (·.2)

/-- An entry replaced where its name stands, or added at the end. -/
def put (name : Text) (value : α) : Fields α → Fields α
  | [] => [(name, value)]
  | (other, old) :: rest =>
    if other = name then (other, value) :: rest else (other, old) :: put name value rest

/-- Entries given one after the other: the last value of a name counts, at its first position. -/
def ofList (given : List (Text × α)) : Fields α :=
  given.foldl (fun fields field => put field.1 field.2 fields) []

/-- The names in order. -/
def names (fields : Fields α) : List Text :=
  fields.map (·.1)

end Fields

end ConstrainedDecoding
