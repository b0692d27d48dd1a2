import ConstrainedDecoding.Tokenizer.Draft

/-! Vocabularies of running tokenizers. -/

namespace ConstrainedDecoding

/-- What gives a tokenizer's vocabulary when it is called. An attribute goes before an entry. -/
def vocabularyGetter (tokenizer : Live) : Live :=
  match tokenizer.attribute? "get_vocab" with
  | some .null | none => if tokenizer.isMapping then tokenizer.get "get_vocab" else .null
  | some getter => getter

/-- Where a tokenizer shows its vocabulary: the first of four places that it has. -/
def rawVocabulary (tokenizer : Live) : Except Fault Live :=
  let model := tokenizer.get "model"
  match vocabularyGetter tokenizer with
  | .call result => .ok result
  | _ =>
    if !(model.get "tokens_to_ids").isNull then .ok (model.get "tokens_to_ids")
    else if !(model.get "vocab").isNull then .ok (model.get "vocab")
    else
      let vocabulary := tokenizer.get "vocab"
      if vocabulary.isNull || vocabulary.isCallable then .error .missingVocabulary
      else .ok vocabulary

/-- A member of a document that has to be an object. -/
def documentField (document : Json) (name : Text) : Except Fault Json :=
  match document with
  | .obj fields => .ok ((Fields.get? fields name).getD .null)
  | other => .error (.noAttribute ("'" ++ other.live.kindName ++ "' object has no attribute 'get'"))

/-- The merges in the serialized form of an engine, if it holds any. -/
def serializedMerges (serialized : Live) : Except Fault Live :=
  match serialized with
  | .str text => do
    let model ← documentField (← (Json.ofText text).mapError .unreadable) "model"
    return (← documentField (model.orElse (.obj [])) "merges").live
  | other => .error (.operand ("the JSON object must be str, bytes or bytearray, not " ++
      other.kindName))

/-- The merges of the engine behind a tokenizer, if it has one that can be serialized. -/
def engineMerges (tokenizer : Live) : Except Fault Live :=
  match tokenizer.attribute? "backend_tokenizer" with
  | none => .ok .null
  | some engine =>
    match engine.attribute? "to_str" with
    | none => .ok .null
    | some method => do serializedMerges (← method.invoke)

/-- The merges of a tokenizer: of its model, or else of the engine behind it. -/
def rawMerges (tokenizer : Live) : Except Fault Live :=
  let merges := (tokenizer.get "model").get "merges"
  if merges.isNull then engineMerges tokenizer else .ok merges

/-- The draft of a running tokenizer's vocabulary. -/
def draftOfRunning (tokenizer : Live) : Except Fault Draft := do
  let tokens ← tokenMap (← rawVocabulary tokenizer)
  let merges ← normalizeMerges (← rawMerges tokenizer)
  let added ← addedTokens tokenizer
  return {
    source := tokenizer, tokens, merges, added
    modelType := if merges.isEmpty then "unknown" else "bpe"
    size := .null }

/-- The record of a vocabulary taken from a running tokenizer. -/
def extractionRecord (draft : Draft) (vocabulary : Vocabulary) : Record :=
  ⟨.debug, "Extracted " ++ draft.modelType ++ " vocabulary: " ++ toString draft.tokens.length ++
    " tokens, " ++ toString draft.merges.length ++ " merges, special=" ++
    (Json.obj vocabulary.roles.resolved).shown⟩

/-- The vocabulary of a running tokenizer, with the records of taking it. -/
def extractVocabulary (tokenizer : Live) : Turn (List Record) Vocabulary :=
  match draftOfRunning tokenizer with
  | .error fault => ⟨.error fault, []⟩
  | .ok draft =>
    match draft.vocabulary with
    | .error fault => ⟨.error fault, draft.warnings⟩
    | .ok vocabulary => ⟨.ok vocabulary, draft.warnings ++ [extractionRecord draft vocabulary]⟩

end ConstrainedDecoding
