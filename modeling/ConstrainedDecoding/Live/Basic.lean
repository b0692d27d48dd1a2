import ConstrainedDecoding.Json.Basic

/-! Values of a running tokenizer: documents, and objects known only by what they answer. -/

namespace ConstrainedDecoding

/-- A value that a tokenizer object may hold. -/
inductive Live where
  | null
  | bool (value : Bool)
  | int (value : Int)
  | float (value : Binary64)
  | str (value : Text)
  | list (elements : List Live)
  /-- A mapping, with keys of any kind. -/
  | dict (entries : List (Live × Live))
  /-- An object with named attributes and nothing else. -/
  | record (attributes : List (Text × Live))
  /-- An object that does nothing but list its items. -/
  | listing (items : List Live)
  /-- A function without arguments, by its result. -/
  | call (result : Live)
  /-- A tokenizer engine that gives its own serialized form. -/
  | engine (serialized : Text)
  deriving Inhabited

mutual

/-- A document as a live value. -/
def Json.live : Json → Live
  | .null => .null
  | .bool value => .bool value
  | .int value => .int value
  | .float value => .float value
  | .str value => .str value
  | .arr elements => .list (Json.liveElements elements)
  | .obj fields => .dict (Json.liveFields fields)

/-- The elements of an array as live values. -/
def Json.liveElements : List Json → List Live
  | [] => []
  | element :: rest => element.live :: Json.liveElements rest

/-- The fields of an object as entries under text keys. -/
def Json.liveFields : List (Text × Json) → List (Live × Live)
  | [] => []
  | (name, value) :: rest => (.str name, value.live) :: Json.liveFields rest

end

namespace Live

/-- A value that counts as true: not null, false, zero or empty. -/
def isTruthy : Live → Bool
  | null => false
  | bool value => value
  | int value => value ≠ 0
  | float value => value.isNonzero
  | str value => !value.isEmpty
  | list elements => !elements.isEmpty
  | dict entries => !entries.isEmpty
  | _ => true

/-- The value is null. -/
def isNull : Live → Bool
  | null => true
  | _ => false

/-- The text of a value that is one. -/
def text? : Live → Option Text
  | str text => some text
  | _ => none

/-- The value can be called. -/
def isCallable : Live → Bool
  | call _ => true
  | _ => false

/-- The value is a mapping. -/
def isMapping : Live → Bool
  | dict _ => true
  | _ => false

/-- The entry of a mapping under a text key. -/
def entry? (name : Text) : List (Live × Live) → Option Live
  | [] => none
  | (str key, value) :: rest => if key = name then some value else entry? name rest
  | _ :: rest => entry? name rest

/-- An attribute of an object. A text has the two trimming functions among its attributes. -/
def attribute? : Live → Text → Option Live
  | record attributes, name => Fields.get? attributes name
  | str _, name => if name = "lstrip" || name = "rstrip" then some (call null) else none
  | listing items, name => if name = "items" then some (call (list items)) else none
  | engine serialized, name => if name = "to_str" then some (call (str serialized)) else none
  | _, _ => none

/-- What a source holds under a name: the entry of a mapping, or else an attribute. -/
def lookup? : Live → Text → Option Live
  | dict entries, name => entry? name entries
  | source, name => source.attribute? name

/-- What a source holds under a name, or null. -/
def get (source : Live) (name : Text) : Live :=
  (source.lookup? name).getD null

end Live

end ConstrainedDecoding
