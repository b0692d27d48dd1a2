import ConstrainedDecoding.Json.Compare
import ConstrainedDecoding.Live.Basic

/-! Keys of mappings: which of them are equal, and their order. -/

namespace ConstrainedDecoding.Live

/-- The number that a value counts as. -/
def number? : Live → Option Json.Number
  | bool value => some (.int (if value then 1 else 0))
  | int value => some (.int value)
  | float value => some (.float value)
  | _ => none

/-- Two keys are the same: texts and numbers by value. -/
def sameKey : Live → Live → Bool
  | null, null => true
  | str left, str right => left = right
  | left, right =>
    match left.number?, right.number? with
    | some left, some right => left.matches right
    | _, _ => false

/-- An entry replaced where its key stands, or added at the end. -/
def putEntry (key value : Live) : List (Live × Live) → List (Live × Live)
  | [] => [(key, value)]
  | (other, old) :: rest =>
    if key.sameKey other then (other, value) :: rest else (other, old) :: putEntry key value rest

/-- A mapping of entries given one after the other. -/
def ofEntries (given : List (Live × Live)) : Live :=
  dict (given.foldl (fun entries entry => putEntry entry.1 entry.2 entries) [])

/-- A key is at most another of its kind. -/
def keyLe : Live → Live → Bool
  | str left, str right => left.le right
  | left, right =>
    match left.number?, right.number? with
    | some left, some right => left.le right
    | _, _ => false

/-- Keys have an order if they are all texts or all numbers. A single key always has one. -/
def areOrdered (keys : List Live) : Bool :=
  keys.length ≤ 1 || keys.all (·.text?.isSome) || keys.all (·.number?.isSome)

end ConstrainedDecoding.Live
