import ConstrainedDecoding.Fault
import ConstrainedDecoding.Text.Integer

/-! Reading integers, lists and pairs out of live values. -/

namespace ConstrainedDecoding.Live

/-- The integer that a text spells, unless it is too long to be read. -/
def textInteger (text : Text) : Except Fault Int :=
  match Text.excessDigits? text, Text.integer? 10 text with
  | some count, _ => .error (.invalid (.integerDigits count))
  | none, some value => .ok value
  | none, none => .error (.invalid (.integerText text))

/-- The integer a value stands for: numbers toward zero, and text that spells an integer. -/
def toInt : Live → Except Fault Int
  | bool value => .ok (if value then 1 else 0)
  | int value => .ok value
  | float .nan => .error (.invalid .notANumber)
  | float (.infinity _) => .error (.overflow "cannot convert float infinity to integer")
  | float (.finite negative units) => .ok (signed negative (units / twoPow unitExponent))
  | str text => textInteger text
  | other => .error (.operand ("int() argument must be a string or a real number, not '" ++
      other.kindName ++ "'"))

/-- The values that a value gives one after the other: a text its characters, a mapping its keys. -/
def iterate : Live → Except Fault (List Live)
  | list elements => .ok elements
  | str text => .ok (text.map fun letter => str [letter])
  | dict entries => .ok (entries.map (·.1))
  | other => .error (.operand ("'" ++ other.kindName ++ "' object is not iterable"))

/-- The two values that a value gives, if they are exactly two. -/
def pair (value : Live) : Except Fault (Live × Live) := do
  match ← value.iterate with
  | [first, second] => return (first, second)
  | [] => .error (.invalid (.tooFewItems 0))
  | [_] => .error (.invalid (.tooFewItems 1))
  | _ => .error (.invalid .tooManyItems)

/-- The result of calling a value. -/
def invoke : Live → Except Fault Live
  | call result => .ok result
  | other => .error (.operand ("'" ++ other.kindName ++ "' object is not callable"))

/-- The entries of a mapping, or the items that an object lists. -/
def items (source : Live) : Except Fault (List Live) :=
  match source with
  | dict entries => .ok (entries.map fun (key, value) => list [key, value])
  | other =>
    match other.attribute? "items" with
    | some method => do (← method.invoke).iterate
    | none => .error (.noAttribute ("'" ++ other.kindName ++ "' object has no attribute 'items'"))

/-- The flag that a value sets, or the default when it is null. -/
def flag (value : Live) (default : Bool) : Bool :=
  if value.isNull then default else value.isTruthy

end ConstrainedDecoding.Live
