import ConstrainedDecoding.Json.Payload
import ConstrainedDecoding.Json.Writer
import ConstrainedDecoding.Vocabulary.Basic

/-! The interchange form of vocabularies. -/

namespace ConstrainedDecoding

/-- A payload that holds no document, as a failure. -/
def Json.PayloadError.fault : Json.PayloadError → Fault
  | undecodable => .undecodable
  | unreadable error => .unreadable error

/-- The parts of a vocabulary as a document, its size only when that is explicit. -/
def interchange (tokens : Fields Json) (merges : List Text) (added : List Json) (modelType : Json)
    (roles : RoleIds) (explicitSize : Json) : Json :=
  let size : Fields Json := if explicitSize.isNull then [] else [("vocab_size", explicitSize)]
  .obj (("vocab", .obj tokens) :: ("merges", .arr (merges.map .str)) ::
    ("added_tokens", .arr added) :: ("model_type", modelType) :: ("eos_token_id", roles.eos) ::
    ("bos_token_id", roles.bos) :: ("pad_token_id", roles.pad) :: ("unk_token_id", roles.unk) ::
    size)

namespace Vocabulary

/-- The vocabulary as a document. -/
def toJson (vocabulary : Vocabulary) : Json :=
  interchange (vocabulary.tokens.map fun (token, id) => (token, .int id)) vocabulary.merges
    (vocabulary.added.map AddedToken.toJson) vocabulary.modelType vocabulary.roles
    vocabulary.explicitSize

/-- The text of the interchange form. -/
def text (vocabulary : Vocabulary) : Except Fault Text :=
  vocabulary.toJson.text

/-- A token with the integer that its id stands for. -/
def readId (token : Text × Json) : Except Fault (Text × Json) := do
  return (token.1, .int (← token.2.live.toInt))

/-- The vocabulary of an interchange document, with the defaults for what it leaves open. -/
def ofJson (data : Json) : Except Fault Vocabulary :=
  match data with
  | .obj fields => do
    let field := fun (name : Text) => (Fields.get? fields name).getD .null
    match Fields.get? fields "vocab" with
    | none => .error (.missingKey "vocab")
    | some (.obj tokens) =>
      let tokens ← tokens.mapM readId
      let merges ← normalizeMerges (field "merges").live
      let entries ← if (field "added_tokens").isTruthy then (field "added_tokens").live.iterate
        else .ok []
      let added ← entries.mapM AddedToken.ofLive
      make (Fields.ofList tokens) (.list (merges.map .str)) added
        ((field "model_type").orElse (.str "unknown"))
        ⟨field "eos_token_id", field "bos_token_id", field "pad_token_id", field "unk_token_id"⟩
        (field "vocab_size")
    | some other =>
      .error (.noAttribute ("'" ++ other.live.kindName ++ "' object has no attribute 'items'"))
  | other => .error (.operand ("'" ++ other.live.kindName ++ "' object is not subscriptable"))

/-- The vocabulary of an interchange document that arrives as text or bytes. -/
def ofPayload (payload : Payload) : Except Fault Vocabulary := do
  ofJson (← (Json.ofPayload payload).mapError Json.PayloadError.fault)

end Vocabulary

end ConstrainedDecoding
