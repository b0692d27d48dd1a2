import ConstrainedDecoding.Grammar.Interchange
import ConstrainedDecoding.Live.Convert

/-! Options of mask appliers, and settings looked up in the environment. -/

namespace ConstrainedDecoding

/-- The environment and the files that settings are looked up in. -/
structure Surroundings where
  environment : Fields Text
  files : Fields Bytes

/-- How many candidates are probed before the full mask, and whether each step is reported. -/
structure ApplierOptions where
  depth : Nat
  debug : Json
  depth_pos : 1 ≤ depth

namespace ApplierOptions

/-- The candidates probed when nothing else is asked for. -/
def defaultDepth : Nat := 5

/-- Options from loosely typed values. The depth has to be an integer of at least one. -/
def make (depth debug : Json) : Except Fault ApplierOptions :=
  match depth with
  | .int value =>
    if positive : 1 ≤ value then .ok ⟨value.toNat, debug, by omega⟩
    else .error (.invalid (.depth value))
  | other => .error (.mistyped (.depth other.live.kindText))

/-- The options when none are given. -/
def standard : ApplierOptions := ⟨defaultDepth, .bool false, by decide⟩

/-- Options with single values replaced. Without replacements they stay as they are. -/
def override (options : ApplierOptions) (depth debug : Json) : Except Fault ApplierOptions :=
  if depth.isNull && debug.isNull then .ok options
  else make (if depth.isNull then .int options.depth else depth)
    (if debug.isNull then options.debug else debug)

end ApplierOptions

namespace Surroundings

/-- A variable that is set to something. -/
def setting? (surroundings : Surroundings) (name : Text) : Option Text :=
  (surroundings.environment.get? name).filter (!·.isEmpty)

/-- The content of the file that a path leads to, if there is one. -/
def content? (surroundings : Surroundings) (path : FilePath) : Except Fault (Option Bytes) :=
  if path.isFolder then .error .directory
  else if path.hasLongPart then .error .nameTooLong
  else .ok (path.fileName?.bind surroundings.files.get?)

/-- The hub token in a file of secrets, null if it holds none. -/
def tokenOfSecrets (content : Bytes) : Except Fault Json := do
  match ← (Json.ofText (← Grammar.fileText content)).mapError .unreadable with
  | .obj secrets =>
    let found := (Fields.get? secrets "HF_TOKEN").getD .null
    -- The file's template holds a placeholder.
    return if found.isTruthy && !found.isText "your_token" then found else .null
  | other =>
    .error (.noAttribute ("'" ++ other.live.kindName ++ "' object has no attribute 'get'"))

/-- The hub token in the file that a path leads to, null if there is no such file. -/
def secretToken (surroundings : Surroundings) (path : Json) : Except Fault Json :=
  match path with
  | .str text => do
    match ← surroundings.content? (.ofText text) with
    | none => return .null
    | some content => tokenOfSecrets content
  | other =>
    .error (.operand ("a path must be a text, not '" ++ other.live.kindName ++ "'"))

/-- The hub token: as given, from the environment, or from a file of secrets. -/
def hubToken (surroundings : Surroundings) (token secrets : Json) : Except Fault Json :=
  if token.isTruthy then .ok token
  else match surroundings.setting? "HF_TOKEN" with
    | some found => .ok (.str found)
    | none => surroundings.secretToken secrets

/-- A text without the slashes at its end. -/
def dropSlashes (text : Text) : Text :=
  (text.reverse.dropWhile (· = .char '/')).reverse

/-- The hub's base address: as given, from the environment, or the public one. -/
def hubEndpoint (surroundings : Surroundings) (baseUrl : Json) : Except Fault Text :=
  if baseUrl.isTruthy then
    match baseUrl with
    | .str text => .ok (dropSlashes text)
    | other =>
      .error (.noAttribute ("'" ++ other.live.kindName ++ "' object has no attribute 'rstrip'"))
  else .ok (dropSlashes ((surroundings.setting? "HF_ENDPOINT").getD "https://huggingface.co"))

/-- The address of a model's serialized tokenizer. -/
def tokenizerUrl (surroundings : Surroundings) (model baseUrl : Json) : Except Fault Text := do
  return (← surroundings.hubEndpoint baseUrl) ++ "/" ++ model.display ++
    "/resolve/main/tokenizer.json"

/-- The log level of the grammar engine. -/
def engineLogLevel (surroundings : Surroundings) : Except Fault Int :=
  Live.textInteger ((surroundings.environment.get? "LLGUIDANCE_LOG_LEVEL").getD "1")

/-- The words that switch a setting on. -/
def affirmatives : List Text := ["1", "true", "yes", "on"]

/-- Whether sessions probe a token before they advance, unless told otherwise. -/
def validatesAdvance (surroundings : Surroundings) : Bool :=
  let setting := (surroundings.environment.get? "GUIDEMASK_VALIDATE_ADVANCE").getD []
  affirmatives.contains (Text.lower (Text.trim setting))

end Surroundings

end ConstrainedDecoding
