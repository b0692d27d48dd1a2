import ConstrainedDecoding.Proofs.Tokenizer.File
import ConstrainedDecoding.Proofs.Tokenizer.Lookup

/-! A serialized tokenizer that is taken for a running one: the same vocabulary comes of it. -/

namespace ConstrainedDecoding

namespace Draft

variable {draft : Draft}

/-- The roles that need a token of their own do not depend on the model type and the size. -/
theorem bareRoles_restated (modelType : Text) (size : Json) (contents : Fields Int)
    (roles : List Text) :
    bareRoles { draft with modelType, size } contents roles = draft.bareRoles contents roles := by
  -- By induction on the roles, each of which is resolved and carried as before.
  induction roles generalizing contents with
  | nil => rfl
  | cons role rest ih =>
    have roleId : Draft.roleId { draft with modelType, size } role = draft.roleId role := rfl
    have carried (id : Int) :
        isCarried { draft with modelType, size } contents id = draft.isCarried contents id := rfl
    simp only [bareRoles, roleId, carried, ih]

/-- A draft that states another model type and another size makes the same vocabulary but for what
it states. -/
theorem vocabulary_restated {modelType : Text} {size : Json} {vocabulary : Vocabulary} :
    Draft.vocabulary { draft with modelType, size } = .ok vocabulary ↔
      ∃ other, draft.vocabulary = .ok other ∧
        vocabulary = { other with
          modelType := .str modelType
          explicitSize := explicitSize { draft with modelType, size } } := by
  have added : allAdded { draft with modelType, size } = draft.allAdded :=
    congrArg (fun bares => draft.added ++
        bares.map fun bare => AddedToken.bare bare.2 (bareContent bare.1 bare.2))
      (bareRoles_restated modelType size draft.contents specialRoles)
  -- Both are refused for the same ids, and otherwise made of the same parts.
  constructor
  · intro made
    obtain ⟨natural, rfl⟩ := vocabulary_eq_ok_iff.mp made
    exact ⟨_, @vocabulary_eq draft natural, by rw [added]; rfl⟩
  · rintro ⟨other, made, rfl⟩
    obtain ⟨natural, rfl⟩ := vocabulary_eq_ok_iff.mp made
    rw [@vocabulary_eq { draft with modelType, size } natural, added]
    rfl

/-- The merges of a draft are those of its vocabulary. -/
theorem merges_vocabulary {vocabulary : Vocabulary} (made : draft.vocabulary = .ok vocabulary) :
    vocabulary.merges = draft.merges := by
  obtain ⟨_, rfl⟩ := vocabulary_eq_ok_iff.mp made
  rfl

end Draft

/-- A vocabulary as it is taken from a running tokenizer, which states neither a type of model nor a
size: the type is told by the merges. -/
def Vocabulary.unstated (vocabulary : Vocabulary) : Vocabulary :=
  { vocabulary with
    modelType := .str (if vocabulary.merges.isEmpty then "unknown" else "bpe")
    explicitSize := .null }

section

variable {document : Json} {model tokens : Fields Json}

/-- A document with a vocabulary, and without other ids that would go before it, shows this. -/
theorem rawVocabulary_live (holds : HasVocabulary document model tokens)
    (unnumbered : ∀ value, model.get? "tokens_to_ids" = some value → value = .null) :
    rawVocabulary document.live = .ok (Json.obj tokens).live := by
  obtain ⟨fields, rfl, hasModel, hasTokens⟩ := holds
  have noIds : (model.get? "tokens_to_ids").getD .null = .null := by
    cases given : model.get? "tokens_to_ids" with
    | none => rfl
    | some value => exact unnumbered value given
  -- A document has no attributes, and none of its fields can be called.
  have getter : vocabularyGetter (Json.obj fields).live =
      ((fields.get? "get_vocab").getD .null).live := Json.get_live fields "get_vocab"
  unfold rawVocabulary
  rw [getter, Json.get_live, hasModel]
  split
  · rename_i result called
    exact absurd called (Json.live_ne_call _ result)
  · simp only [Option.getD_some, Json.get_live, noIds, hasTokens]
    rfl

/-- A document shows the merges of its model, and has no engine that would show others. -/
theorem rawMerges_live (holds : HasVocabulary document model tokens) :
    rawMerges document.live = .ok ((model.get? "merges").getD .null).live := by
  obtain ⟨fields, rfl, hasModel, _⟩ := holds
  rw [rawMerges, Json.get_live, hasModel, Option.getD_some, Json.get_live]
  cases (model.get? "merges").getD .null <;> rfl

/-- What the parts of a document make as those of a running tokenizer is what they make as those of
a file, but for what the file states of the model. -/
theorem fileDraft_unstated {fields : Fields Json} {merges : List Text} {ids : Fields Int}
    {added : List AddedToken} {running : Vocabulary} :
    Draft.vocabulary { fileDraft fields model merges ids added with
      modelType := if merges.isEmpty then "unknown" else "bpe"
      size := .null } = .ok running ↔
      ∃ file, (fileDraft fields model merges ids added).vocabulary = .ok file ∧
        running = file.unstated := by
  rw [Draft.vocabulary_restated]
  refine exists_congr fun file => and_congr_right fun made => ?_
  -- The type is told by the merges of the draft, and those are the merges of the vocabulary.
  have same : file.merges = merges := Draft.merges_vocabulary made
  rw [Vocabulary.unstated, same]
  split <;> rfl

/-- What comes of a document that is taken for a running tokenizer is what is read in it, but for
what it states of the model. -/
theorem extractVocabulary_live (holds : HasVocabulary document model tokens)
    (unnumbered : ∀ value, model.get? "tokens_to_ids" = some value → value = .null)
    {running : Vocabulary} :
    (extractVocabulary document.live).answer = .ok running ↔
      ∃ file, (readTokenizer document).answer = .ok file ∧ running = file.unstated := by
  obtain ⟨fields, rfl, read⟩ := draftOfFile_eq holds
  rw [TokenizerSource.answer_extractVocabulary, TokenizerSource.answer_readTokenizer, read,
    draftOfRunning, rawVocabulary_live holds unnumbered, rawMerges_live holds]
  simp only [bind_eq_ok_iff, Pure.pure, Except.pure, Except.ok.injEq, exists_eq_left']
  -- The ids are read before the merges on one side and after them on the other.
  constructor
  · rintro ⟨_, ⟨ids, mapped, merges, merged, added, listed, rfl⟩, made⟩
    obtain ⟨file, drawn, rfl⟩ := fileDraft_unstated.mp made
    exact ⟨file, ⟨_, ⟨merges, merged, ids, mapped, added, listed, rfl⟩, drawn⟩, rfl⟩
  · rintro ⟨file, ⟨_, ⟨merges, merged, ids, mapped, added, listed, rfl⟩, drawn⟩, rfl⟩
    have made := fileDraft_unstated.mpr ⟨file, drawn, rfl⟩
    exact ⟨_, ⟨ids, mapped, merges, merged, added, listed, rfl⟩, made⟩

end

/-- A document with a vocabulary is accepted as a running tokenizer just if it is accepted as a
serialized one, and then both come to the same tokens in the same order, the same merges, the same
added tokens and the same roles. -/
theorem document_read_alike {document : Json} {model tokens : Fields Json}
    (holds : HasVocabulary document model tokens)
    (unnumbered : ∀ value, model.get? "tokens_to_ids" = some value → value = .null) :
    ((∃ running, (extractVocabulary document.live).answer = .ok running) ↔
      ∃ file, (readTokenizer document).answer = .ok file) ∧
    ∀ running file, (extractVocabulary document.live).answer = .ok running →
      (readTokenizer document).answer = .ok file →
        running.tokens = file.tokens ∧ running.merges = file.merges ∧
          running.added = file.added ∧ running.roles = file.roles := by
  have taken (running : Vocabulary) :
      (extractVocabulary document.live).answer = .ok running ↔
        ∃ file, (readTokenizer document).answer = .ok file ∧ running = file.unstated :=
    extractVocabulary_live holds unnumbered
  -- What one of them comes to is what the other one comes to, restated.
  refine ⟨⟨?_, ?_⟩, ?_⟩
  · rintro ⟨running, extracted⟩
    obtain ⟨file, read, _⟩ := (taken running).mp extracted
    exact ⟨file, read⟩
  · rintro ⟨file, read⟩
    exact ⟨file.unstated, (taken file.unstated).mpr ⟨file, read, rfl⟩⟩
  · intro running file extracted read
    obtain ⟨other, readOther, rfl⟩ := (taken running).mp extracted
    -- There is only one vocabulary in the file.
    obtain rfl := Except.ok.inj (readOther.symm.trans read)
    exact ⟨rfl, rfl, rfl, rfl⟩

/-- A document that states a type and a size, an end that no token carries, and no other ids. -/
def statingDocument : Json :=
  .obj [("model", .obj [("type", .str "WordPiece"), ("tokens_to_ids", .null),
      ("vocab", .obj [("a", .int 0), ("ab", .str "1")]),
      ("merges", .arr [.arr [.str "a", .str "b"]])]),
    ("vocab_size", .int 9), ("eos_token_id", .int 7)]

/-- The document is accepted both ways, with the same parts, but the type and the size that it
states are those of the file alone. -/
theorem document_read_alike_stating :
    ∃ running file, (extractVocabulary statingDocument.live).answer = .ok running ∧
      (readTokenizer statingDocument).answer = .ok file ∧
      (running.tokens = file.tokens ∧ running.merges = file.merges ∧
        running.added = file.added ∧ running.roles = file.roles) ∧
      running.modelType = .str "bpe" ∧ file.modelType = .str "wordpiece" ∧
      running.explicitSize = .null ∧ file.explicitSize = .int 9 := by
  have holds : HasVocabulary statingDocument _ _ := ⟨_, rfl, rfl, rfl⟩
  obtain ⟨_, same⟩ := document_read_alike holds (by rintro value ⟨⟩; rfl)
  exact ⟨_, _, rfl, rfl, same _ _ rfl rfl, rfl, rfl, rfl, rfl⟩

end ConstrainedDecoding
