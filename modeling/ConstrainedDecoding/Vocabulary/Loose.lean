import ConstrainedDecoding.Vocabulary.Interchange

/-! Vocabularies put together by hand, whose keys, ids and flags may be values of any kind. -/

namespace ConstrainedDecoding

/-- An added token as it was put together. Only what it is used for restricts its parts. -/
structure LooseToken where
  id : Json
  content : Json
  singleWord : Json
  lstrip : Json
  rstrip : Json
  normalized : Json
  special : Json

/-- A vocabulary as it was put together. Base tokens have ids, but need not be texts. -/
structure LooseVocabulary where
  tokens : List (Json × Nat)
  merges : List Text
  added : List LooseToken
  modelType : Json
  roles : RoleIds
  explicitSize : Json

namespace LooseToken

/-- The names of a token's parts. -/
def parts : List Text :=
  ["id", "content", "single_word", "lstrip", "rstrip", "normalized", "special"]

/-- The token of named parts, with the default for every flag that is left out. -/
def ofFields (fields : Fields Json) : Except Fault LooseToken :=
  match fields.get? "id", fields.get? "content" with
  | some id, some content =>
    let flag := fun (name : Text) (default : Bool) => (fields.get? name).getD (.bool default)
    if fields.names.all parts.contains then
      .ok {
        id, content
        singleWord := flag "single_word" false
        lstrip := flag "lstrip" false
        rstrip := flag "rstrip" false
        normalized := flag "normalized" true
        special := flag "special" false }
    else .error (.operand "got an unexpected keyword argument")
  | _, _ => .error (.operand "missing a required argument")

/-- The token that a value describes, which has to be an object. -/
def ofJson : Json → Except Fault LooseToken
  | .obj fields => ofFields fields
  | _ => .error (.operand "argument after ** must be a mapping")

/-- The token in the interchange form. -/
def toJson (token : LooseToken) : Json :=
  .obj [("id", token.id), ("content", token.content), ("single_word", token.singleWord),
    ("lstrip", token.lstrip), ("rstrip", token.rstrip), ("normalized", token.normalized),
    ("special", token.special)]

end LooseToken

namespace LooseVocabulary

/-- The elements of a value that holds some: of a text its letters, of an object its names. -/
def elements : Json → Option (List Json)
  | .arr elements => some elements
  | .str text => some (text.map fun letter => .str [letter])
  | .obj fields => some (fields.map fun field => .str field.1)
  | _ => none

/-- The elements of a value, which has to hold some. -/
def iterate (json : Json) : Except Fault (List Json) :=
  match elements json with
  | some elements => .ok elements
  | none => .error (.operand ("'" ++ json.live.kindName ++ "' object is not iterable"))

/-- An entry replaced where its key stands, or added at the end. -/
def putEntry (key value : Json) : List (Json × Json) → List (Json × Json)
  | [] => [(key, value)]
  | (other, old) :: rest =>
    if key.same other then (other, value) :: rest else (other, old) :: putEntry key value rest

/-- The entries of pairs from a position on, each put into those before it. -/
def entriesFrom (position : Nat) (entries : List (Json × Json)) :
    List Json → Except Fault (List (Json × Json))
  | [] => .ok entries
  | given :: rest =>
    match elements given with
    | some [key, value] => do
      key.checkHashable
      entriesFrom (position + 1) (putEntry key value entries) rest
    | some parts => .error (.invalid (.pairLength position parts.length))
    | none => .error (.operand "cannot convert dictionary update sequence element to a sequence")

/-- The entries of an object, or of whatever holds pairs. -/
def entries : Json → Except Fault (List (Json × Json))
  | .obj fields => .ok (fields.map fun (name, value) => (.str name, value))
  | other => do entriesFrom 0 [] (← iterate other)

/-- A key with its id, which has to be one. -/
def tokenId (entry : Json × Json) : Except Fault (Json × Nat) := do
  return (entry.1, ← Vocabulary.checkId entry.1 entry.2)

/-- An id is that of a base token or of an added token. -/
def isKnownId (tokens : List (Json × Nat)) (added : List LooseToken) (id : Json) : Bool :=
  tokens.any (fun token => (Json.int token.2).same id) || added.any fun token => token.id.same id

/-- The vocabulary of the given parts: ids are checked, merges normalized, and roles checked. -/
def make (tokens merges : Json) (added : List LooseToken) (modelType : Json) (roles : RoleIds)
    (explicitSize : Json) : Except Fault LooseVocabulary := do
  let tokens ← (← entries tokens).mapM tokenId
  let merges ← normalizeMerges merges.live
  added.forM fun token => token.id.checkHashable
  roles.resolved.forM (Vocabulary.checkRole (isKnownId tokens added))
  return { tokens, merges, added, modelType, roles, explicitSize }

/-- The names of a vocabulary's parts. -/
def parts : List Text :=
  ["token_to_id", "merges", "added_tokens", "model_type", "eos_token_id", "bos_token_id",
    "pad_token_id", "unk_token_id", "explicit_vocab_size"]

/-- The vocabulary of named parts, with the default for every part that is left out. -/
def ofFields (fields : Fields Json) : Except Fault LooseVocabulary := do
  let part := fun (name : Text) => (fields.get? name).getD .null
  let added ← (← iterate ((fields.get? "added_tokens").getD (.arr []))).mapM LooseToken.ofJson
  match fields.get? "token_to_id", fields.names.all parts.contains with
  | some tokens, true =>
    make tokens (part "merges") added ((fields.get? "model_type").getD (.str "unknown"))
      ⟨part "eos_token_id", part "bos_token_id", part "pad_token_id", part "unk_token_id"⟩
      (part "explicit_vocab_size")
  | _, false => .error (.operand "got an unexpected keyword argument")
  | none, _ => .error (.operand "missing a required argument")

/-- The greatest of some values, the first of equal ones. -/
def greatest (first : Json) (rest : List Json) : Except Fault Json :=
  rest.foldlM Json.greater first

/-- The greatest id of a base token, or minus one. -/
def greatestBase (vocabulary : LooseVocabulary) : Json :=
  .int (vocabulary.tokens.foldl (fun greatest token => max greatest (token.2 : Int)) (-1))

/-- The greatest id of any token, or minus one. -/
def greatestId (vocabulary : LooseVocabulary) : Except Fault Json :=
  match vocabulary.added.map (·.id) with
  | [] => .ok vocabulary.greatestBase
  | first :: rest => do vocabulary.greatestBase.greater (← greatest first rest)

/-- One more than a number. -/
def successor : Json → Except Fault Json
  | .int value => .ok (.int (value + 1))
  | .bool value => .ok (.int (if value then 2 else 1))
  | .float value => .ok (.float value.successor)
  | other => .error (.operand ("unsupported operand type for +: '" ++ other.live.kindName ++ "'"))

/-- The size: one more than the greatest id, or the explicit size when that is greater. -/
def size (vocabulary : LooseVocabulary) : Except Fault Json := do
  (← successor (← vocabulary.greatestId)).greater (vocabulary.explicitSize.orElse (.int 0))

/-- Values without those that equal an earlier one. -/
def distinct : List Json → List Json → List Json
  | kept, [] => kept.reverse
  | kept, value :: rest => distinct (if kept.any value.same then kept else value :: kept) rest

/-- The ids of the special added tokens, each once and in order. -/
def specialIds (vocabulary : LooseVocabulary) : Except Fault (List Json) :=
  let ids := distinct [] ((vocabulary.added.filter (·.special.isTruthy)).map (·.id))
  match Json.sorted? ids with
  | some sorted => .ok sorted
  | none => .error (.operand "ids of different kinds have no order")

/-- The id of a token: of a base token, or else of the first added token. Null if there is none. -/
def lookup (vocabulary : LooseVocabulary) (content : Json) : Except Fault Json := do
  content.checkHashable
  match vocabulary.tokens.find? fun token => token.1.same content with
  | some token => return .int token.2
  | none =>
    return ((vocabulary.added.find? fun token => token.content.equals content).map (·.id)).getD .null

/-- The name of a base token in a document. One that is no text is written as one. -/
def keyText : Json → Except Fault Text
  | .str text => .ok text
  | other => other.text

/-- The text of the interchange form. -/
def text (vocabulary : LooseVocabulary) : Except Fault Text := do
  let tokens ← vocabulary.tokens.mapM fun (token, id) => return (← keyText token, .int id)
  (interchange tokens vocabulary.merges (vocabulary.added.map LooseToken.toJson)
    vocabulary.modelType vocabulary.roles vocabulary.explicitSize).text

end LooseVocabulary

end ConstrainedDecoding
