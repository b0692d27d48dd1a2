import ConstrainedDecoding.FilePath
import ConstrainedDecoding.Grammar.Basic
import ConstrainedDecoding.Text.Encoding
import ConstrainedDecoding.Text.Lowercase

/-! Grammar descriptions as tagged documents, as text of a named kind, and as files. -/

namespace ConstrainedDecoding.Grammar

/-- The description as a tagged document, a start rule only when there is one. -/
def toJson : Grammar → Json
  | jsonSchema schema => .obj [("type", .str "json_schema"), ("schema", .obj schema)]
  | regex pattern => .obj [("type", .str "regex"), ("pattern", pattern)]
  | lark source startRule =>
    let start : Fields Json := if startRule.isNull then [] else [("startSymbol", startRule)]
    .obj (("type", .str "lark") :: ("grammar", source) :: start)

/-- A field that a tagged document must have. -/
def requiredField (fields : Fields Json) (name : Text) : Except Fault Json :=
  match fields.get? name with
  | some value => .ok value
  | none => .error (.missingKey name)

/-- The description in a tagged document. -/
def ofJson : Json → Except Fault Grammar
  | .obj fields =>
    let kind := (Fields.get? fields "type").getD .null
    if kind.isText "json_schema" then do ofSchema (← requiredField fields "schema")
    else if kind.isText "regex" then do return regex (← requiredField fields "pattern")
    else if kind.isText "lark" then do
      return lark (← requiredField fields "grammar") ((Fields.get? fields "startSymbol").getD .null)
    else .error (.invalid (.grammarType kind))
  | other =>
    .error (.noAttribute ("'" ++ other.live.kindName ++ "' object has no attribute 'get'"))

/-- The JSON schema that a text holds. -/
def ofSchemaText : Json → Except Fault Grammar
  | .str text => do ofSchema (← (Json.ofText text).mapError .unreadable)
  | other => .error (.operand ("the JSON object must be str, bytes or bytearray, not " ++
      other.live.kindName))

/-- The description that a source of a named kind holds. -/
def ofSource (source kind : Json) : Except Fault Grammar :=
  if kind.isText "json_schema" then ofSchemaText source
  else if kind.isText "regex" then .ok (regex source)
  else if kind.isText "lark" then .ok (lark source .null)
  else .error (.invalid (.grammarKind kind))

/-- The kind of grammar that a file suffix stands for. -/
def kindOfSuffix? (suffix : Text) : Option Text :=
  Fields.get? [(".json", "json_schema"), (".lark", "lark"), (".ebnf", "lark"), (".regex", "regex"),
    (".rx", "regex")] (Text.lower suffix)

/-- The text of a file, with the line ends of every convention as line feeds. -/
def fileText (content : Bytes) : Except Fault Text :=
  match Text.decodeUtf8? false content with
  | some text => .ok (Text.unixLines text)
  | none => .error .undecodable

/-- The description in a file, its kind taken from the suffix. A pattern is trimmed. -/
def ofFile (path : FilePath) (content : Option Bytes) : Except Fault Grammar :=
  match kindOfSuffix? path.suffix with
  | none => .error (.invalid (.fileSuffix path.suffix))
  | some kind => do
    path.checkName
    match content with
    | none => .error .noFile
    | some content =>
      let text ← fileText content
      ofSource (.str (if kind = "regex" then Text.trim text else text)) (.str kind)

end ConstrainedDecoding.Grammar
