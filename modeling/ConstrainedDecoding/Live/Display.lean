import ConstrainedDecoding.Live.Basic
import ConstrainedDecoding.Number.Decimal
import ConstrainedDecoding.Text.Quoted

/-! Values as messages show them. -/

namespace ConstrainedDecoding

namespace Live

mutual

/-- A value as it is shown inside others: text in quotation marks. -/
def shown : Live → Text
  | null => "None"
  | bool true => "True"
  | bool false => "False"
  | int value => .ofChars (integerText value)
  | float value => .ofChars (NumberLayout.shown.text value)
  | str value => Text.quoted value
  | list [] => "[]"
  | list (first :: rest) => '[' :: (shown first ++ shownElements rest)
  | dict [] => "\x7b\x7d"
  | dict ((key, value) :: rest) =>
    '\x7b' :: (shown key ++ ": " ++ shown value ++ shownEntries rest)
  | record [] => "namespace()"
  | record ((name, value) :: rest) =>
    "namespace(" ++ name ++ "=" ++ shown value ++ shownAttributes rest
  | listing _ => "<items>"
  | call _ => "<function>"
  | engine _ => "<engine>"

/-- The elements after the first, and the end of the list. -/
def shownElements : List Live → Text
  | [] => [']']
  | element :: rest => ", " ++ shown element ++ shownElements rest

/-- The entries after the first, and the end of the mapping. -/
def shownEntries : List (Live × Live) → Text
  | [] => ['\x7d']
  | (key, value) :: rest => ", " ++ shown key ++ ": " ++ shown value ++ shownEntries rest

/-- The attributes after the first, and the end of the object. -/
def shownAttributes : List (Text × Live) → Text
  | [] => [')']
  | (name, value) :: rest => ", " ++ name ++ "=" ++ shown value ++ shownAttributes rest

end

/-- A value on its own: a text is itself, anything else as it is shown inside others. -/
def display : Live → Text
  | str value => value
  | other => other.shown

/-- The name of the kind of a value. -/
def kindName : Live → Text
  | null => "NoneType"
  | bool _ => "bool"
  | int _ => "int"
  | float _ => "float"
  | str _ => "str"
  | list _ => "list"
  | dict _ => "dict"
  | record _ => "types.SimpleNamespace"
  | listing _ => "object"
  | call _ => "function"
  | engine _ => "object"

/-- The kind of a value as messages name it. -/
def kindText (value : Live) : Text :=
  "<class '" ++ value.kindName ++ "'>"

end Live

/-- A document value on its own in a message. -/
def Json.display (json : Json) : Text :=
  json.live.display

/-- A document value inside a message, text in quotation marks. -/
def Json.shown (json : Json) : Text :=
  json.live.shown

end ConstrainedDecoding
