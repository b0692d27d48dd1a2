import ConstrainedDecoding.Fault
import ConstrainedDecoding.Json.Compare
import ConstrainedDecoding.Json.Writer
import ConstrainedDecoding.Text.Basic
import ConstrainedDecoding.Text.Blank

/-! Descriptions of the language that generated text has to follow. -/

namespace ConstrainedDecoding

/-- A grammar description. Patterns, sources and start rules are kept as they were given. -/
inductive Grammar where
  | jsonSchema (schema : Fields Json)
  | regex (pattern : Json)
  | lark (source startRule : Json)
  deriving Inhabited

namespace Grammar

/-- A JSON schema, which has to be an object. -/
def ofSchema : Json → Except Fault Grammar
  | .obj fields => .ok (jsonSchema fields)
  | other => .error (.mistyped (.schema other.live.kindText))

/-- A short label for messages. -/
def describe : Grammar → Text
  | jsonSchema _ => "json_schema"
  | regex pattern => "regex /" ++ pattern.display ++ "/"
  | lark _ startRule => "lark (start=" ++ (startRule.orElse (.str "start")).display ++ ")"

/-- A text begins with a header: blank space, the word "start", blank space and a colon. -/
def beginsHeader (text : Text) : Bool :=
  match Text.after? (Text.ofString "start") (text.dropWhile Text.isBlank) with
  | some rest => (rest.dropWhile Text.isBlank).head? = some (.char ':')
  | none => false

/-- A header begins after one of the line breaks of a text. -/
def headerAfterBreak : Text → Bool
  | [] => false
  | letter :: rest => (letter = '\n' && beginsHeader rest) || headerAfterBreak rest

/-- A header begins at some line of a text. -/
def definesStart (text : Text) : Bool :=
  beginsHeader text || headerAfterBreak text

/-- The source with a header for the start rule, which must not conflict with one it has. -/
def resolveStart (source startRule : Json) : Except Fault Json :=
  if !startRule.isTruthy || startRule.isText "start" then .ok source
  else match source with
    | .str text =>
      if definesStart text then .error (.invalid (.startRule startRule))
      else .ok (.str ("start: " ++ startRule.display ++ "\n" ++ text))
    | other => .error (.operand ("expected string or bytes-like object, got '" ++
        other.live.kindName ++ "'"))

/-- The text that an engine is given: a pattern, a resolved source, or a canonical schema. -/
def engineText : Grammar → Except Fault Json
  | jsonSchema schema => do return .str (← (Json.obj schema).canonicalText)
  | regex pattern => .ok pattern
  | lark source startRule => resolveStart source startRule

end Grammar

end ConstrainedDecoding
