import ConstrainedDecoding.Fault

/-! Positions in lists, where a negative one counts from the end. -/

namespace ConstrainedDecoding

/-- The place of an index in a list of some length, if there is one. -/
def position? (length : Nat) (index : Int) : Option Nat :=
  let place := if index < 0 then index + length else index
  if 0 ≤ place && place < length then some place.toNat else none

/-- How many elements stand before a cut. A cut beyond either end is at that end. -/
def cutPosition (length : Nat) (index : Int) : Nat :=
  if index < 0 then (index + length).toNat else min index.toNat length

/-- The element at an index. -/
def elementAt {α : Type} (elements : List α) (index : Int) : Except Fault α :=
  match (position? elements.length index).bind (elements[·]?) with
  | some element => .ok element
  | none => .error .badIndex

/-- The elements with the one at an index replaced. -/
def replaceAt {α : Type} (elements : List α) (index : Int) (element : α) :
    Except Fault (List α) :=
  match position? elements.length index with
  | some place => .ok (elements.set place element)
  | none => .error .badIndex

end ConstrainedDecoding
