import ConstrainedDecoding.Json.Payload
import ConstrainedDecoding.Text.Lowercase
import ConstrainedDecoding.Tokenizer.Draft

/-! Vocabularies of serialized tokenizers. -/

namespace ConstrainedDecoding

/-- The type that a model states, in lower case. -/
def modelType (stated : Json) : Text :=
  match stated with
  | .str name => Text.lower name
  | _ => "unknown"

/-- The draft of the vocabulary in a serialized tokenizer, whose model has to hold one. -/
def draftOfFile (document : Json) : Except Fault Draft :=
  match document with
  | .obj fields =>
    match Fields.get? fields "model" with
    | some (.obj model) =>
      match Fields.get? model "vocab" with
      | some (.obj vocabulary) => do
        let merges ← normalizeMerges ((Fields.get? model "merges").getD .null).live
        let tokens ← tokenMap (Json.obj vocabulary).live
        let added ← addedTokens document.live
        return {
          source := document.live, tokens, merges, added
          modelType := modelType ((Fields.get? model "type").getD .null)
          size := (Fields.get? fields "vocab_size").getD .null }
      | _ => .error (.tokenizerFile .noVocabulary)
    | _ => .error (.tokenizerFile .noVocabulary)
  | _ => .error (.tokenizerFile .notObject)

/-- The vocabulary in a serialized tokenizer, with the records of reading it. -/
def readTokenizer (document : Json) : Turn (List Record) Vocabulary :=
  match draftOfFile document with
  | .error fault => ⟨.error fault, []⟩
  | .ok draft => draft.build

/-- A payload that holds no document, as a fault of a tokenizer file. -/
def payloadProblem : Json.PayloadError → Fault
  | .undecodable => .tokenizerFile .undecodable
  | .unreadable error => .tokenizerFile (.unreadable error)

/-- The vocabulary in a serialized tokenizer that arrives as text or bytes. -/
def readTokenizerPayload (payload : Payload) : Turn (List Record) Vocabulary :=
  match Json.ofPayload payload with
  | .error error => ⟨.error (payloadProblem error), []⟩
  | .ok document => readTokenizer document

end ConstrainedDecoding
