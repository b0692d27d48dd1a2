import ConstrainedDecoding.Proofs.Tokenizer.Flags

/-! Vocabularies of tokenizers in the interchange form: which are read back as they were taken. -/

namespace ConstrainedDecoding

/-- The lowercase form of a text is empty just if the text is. -/
theorem Text.lower_eq_nil_iff {text : Text} : Text.lower text = [] ↔ text = [] := by
  cases text with
  | nil => simp [lower, lowerFrom]
  | cons letter after =>
    -- Every letter has a lowercase form of one or two letters.
    have form : lowerLetter [] letter after ≠ [] := by
      unfold lowerLetter
      split
      · exact List.cons_ne_nil _ _
      · split
        · exact List.cons_ne_nil _ _
        · exact List.cons_ne_nil _ _
    simp [lower, lowerFrom, form]

/-- The type of a model is empty just if an empty one is stated. -/
theorem modelType_eq_nil_iff {stated : Json} : modelType stated = [] ↔ stated = .str [] := by
  cases stated with
  | str name => simp [modelType, Text.lower_eq_nil_iff]
  | _ => exact ⟨nofun, nofun⟩

/-- The ids in a listing of tokens are those of distinct ones. -/
theorem nodup_tokenMap {listing : Live} {ids : Fields Int} (mapped : tokenMap listing = .ok ids) :
    ids.names.Nodup := by
  obtain ⟨items, _, mapped⟩ := bind_eq_ok_iff.mp mapped
  obtain ⟨given, _, done⟩ := bind_eq_ok_iff.mp mapped
  -- What is put together from entries has each name once.
  cases done
  exact (Fields.ofList_spec given).1

/-- The ids that a lawful object lists are short. -/
theorem short_tokenMap {texts : Text → Prop} {tokens : Fields Json} {ids : Fields Int}
    (lawful : (Json.obj tokens).Lawful texts (Binary64.InRange .double))
    (mapped : tokenMap (Json.obj tokens).live = .ok ids) : ∀ token ∈ ids, IsShort token.2 := by
  rw [tokenMap_obj] at mapped
  obtain ⟨given, read, done⟩ := bind_eq_ok_iff.mp mapped
  cases done
  intro token member
  -- Each id is the integer that a field stands for.
  obtain ⟨field, among, isToken⟩ :=
    exists_of_mem_mapM read ((Fields.ofList_spec given).2 token member)
  obtain ⟨id, isInteger, done⟩ := bind_eq_ok_iff.mp isToken
  cases done
  exact Json.toInt_short (Json.lawfulFields_iff.mp lawful.2 field among).2 isInteger

/-- The ids that a lawful document shows for its added tokens are short. -/
theorem ShowsEntries.short {fields : Fields Json}
    (lawful : (Json.obj fields).Lawful (fun _ => True) (Binary64.InRange .double))
    {entries : List (Live × Live)} (shows : ShowsEntries (Json.obj fields).live entries)
    {entry : Live × Live} (member : entry ∈ entries) {id : Int}
    (isInteger : entry.1.toInt = .ok id) : IsShort id := by
  cases shows with
  | listed given =>
    -- The id is what an element holds under a name, and the elements are lawful.
    rw [Json.get_live] at given
    obtain ⟨element, among, rfl⟩ := List.mem_map.mp member
    obtain ⟨json, lawful, rfl⟩ := (lawful.field "added_tokens").iterate given element among
    exact Json.toInt_get_short lawful isInteger
  | @decoded decoder _ _ given all =>
    rw [Json.get_live] at given
    -- The keys of a live mapping are the names of an object, which are texts.
    obtain ⟨names, same⟩ : ∃ names, (Json.obj names).live = .dict decoder := by
      cases held : (fields.get? "added_tokens_decoder").getD .null with
      | obj names => exact ⟨names, held ▸ given⟩
      | _ => rw [held] at given; cases given
    have listed : Json.liveFields names = decoder := Live.dict.inj same
    rw [Json.liveFields_eq] at listed
    have among := all.mem_iff.mp member
    rw [← listed] at among
    obtain ⟨field, _, rfl⟩ := List.mem_map.mp among
    have text : (Json.str field.1).Lawful (fun _ => True) (Binary64.InRange .double) := trivial
    exact Json.toInt_short text isInteger
  | none => cases member

/-- All integers of a vocabulary are short: the ids of its tokens, and its size if that is one. -/
structure Vocabulary.AllShort (vocabulary : Vocabulary) : Prop where
  tokens : ∀ token ∈ vocabulary.tokens, IsShort token.2
  added : ∀ token ∈ vocabulary.added, IsShort token.id
  size : ∀ size, vocabulary.explicitSize = .int size → IsShort size

namespace Draft

variable {draft : Draft} {vocabulary : Vocabulary}

/-- All integers of a draft are short, and so are those that its source may state for roles. -/
structure AllShort (draft : Draft) : Prop where
  tokens : ∀ token ∈ draft.tokens, IsShort token.2
  added : ∀ token ∈ draft.added, IsShort token.id
  stated : ∀ name id, draft.source.get name = .int id → IsShort id
  size : ∀ size, draft.size = .int size → IsShort size

/-- An id that a role is resolved to is short if all integers are. -/
theorem AllShort.roleId (short : draft.AllShort) {role : Text} {id : Int}
    (resolved : draft.roleId role = some id) : IsShort id := by
  cases resolved_iff.mpr resolved with
  | stated states => exact short.stated _ id states
  | @through content _ through =>
    -- The id is that of a base token, or of an added one.
    rcases Option.or_eq_some_iff.mp through.found with base | ⟨_, last⟩
    · exact short.tokens _ (Fields.mem_of_get? base)
    · obtain ⟨token, member, _, rfl⟩ := exists_of_firstId? last
      exact short.added token (List.mem_reverse.mp member)

/-- The integers of a vocabulary are short if those of its draft are. -/
theorem AllShort.of_made (short : draft.AllShort) (made : draft.vocabulary = .ok vocabulary) :
    vocabulary.AllShort := by
  obtain ⟨natural, rfl⟩ := vocabulary_eq_ok_iff.mp made
  refine ⟨fun token member => ?_, fun token member => ?_, fun size explicit => ?_⟩
  · -- The base tokens have the ids of the draft, none of which is negative.
    have among : (token.1, (token.2 : Int)) ∈ draft.tokens := by
      rw [← map_naturalTokens natural]
      exact List.mem_map_of_mem member
    exact short.tokens _ among
  · -- The tokens of the source come first, and then those for roles.
    rcases List.mem_append.mp member with given | new
    · exact short.added token given
    · obtain ⟨bare, among, rfl⟩ := List.mem_map.mp new
      exact short.roleId (roleId_of_mem_bareRoles among)
  · -- Only an integer counts as a size.
    refine short.size size ?_
    unfold explicitSize at explicit
    split at explicit
    · rename_i stated
      exact stated.trans explicit
    · cases explicit

/-- The loosely typed fields of a vocabulary that a draft makes are read back, if all integers are
short: one is a text, and the others are integers or null. -/
theorem loose_lawful (made : draft.vocabulary = .ok vocabulary) (short : vocabulary.AllShort) :
    ∀ json ∈ vocabulary.loose, json.Lawful (fun _ => True) Binary64.ReadsBack := by
  obtain ⟨natural, rfl⟩ := vocabulary_eq_ok_iff.mp made
  have role {role : Text} (special : role ∈ specialRoles) :
      (draft.roleJson role).Lawful (fun _ => True) Binary64.ReadsBack := by
    unfold roleJson
    split
    · -- The id of a role is that of a token, and those are short.
      rename_i id resolved
      rcases exists_carrier special resolved with ⟨token, member, rfl⟩ | ⟨token, member, rfl⟩
      · have known := short.tokens (token.1, token.2.toNat) (List.mem_map_of_mem member)
        rw [Int.toNat_of_nonneg (natural token member)] at known
        exact known
      · exact short.added token member
    · trivial
  have size : draft.explicitSize.Lawful (fun _ => True) Binary64.ReadsBack := by
    have known := short.size
    simp only at known
    unfold explicitSize at known ⊢
    split
    · rename_i size stated
      rw [stated] at known
      exact known size rfl
    · trivial
  simp only [Vocabulary.loose, List.forall_mem_cons, roleIds]
  exact ⟨trivial, role (by decide), role (by decide), role (by decide), role (by decide), size,
    List.forall_mem_nil _⟩

/-- A vocabulary that a draft makes has a text if all integers are short, and is read back from it
but for an empty model type. -/
theorem ofPayload_text (made : draft.vocabulary = .ok vocabulary)
    (distinct : draft.tokens.names.Nodup) (short : vocabulary.AllShort) :
    ∃ text, vocabulary.text = .ok text ∧ Vocabulary.ofPayload (.text text) =
      .ok { vocabulary with modelType := vocabulary.modelType.orElse (.str "unknown") } := by
  have loose := loose_lawful made short
  obtain ⟨natural, rfl⟩ := vocabulary_eq_ok_iff.mp made
  -- The base tokens keep their names.
  have names : draft.naturalTokens.names.Nodup := by
    rw [Fields.names, naturalTokens, List.map_map]
    exact distinct
  have lawful := Vocabulary.toJson_lawful names short.tokens short.added loose
  obtain ⟨text, written, read, _⟩ := Vocabulary.ofPayload_eq_ofJson lawful
  exact ⟨text, written, read.trans (Vocabulary.ofJson_toJson names (roles_known natural))⟩

end Draft

/-- A document states an empty type for its model. -/
def Json.StatesNoType (document : Json) : Prop :=
  ∃ fields model : Fields Json, document = .obj fields ∧ fields.get? "model" = some (.obj model) ∧
    model.get? "type" = some (.str [])

/-- The model type in the draft of a document is empty just if the document states that. -/
theorem modelType_of_draftOfFile {document : Json} {draft : Draft}
    (drafted : draftOfFile document = .ok draft) :
    draft.modelType = [] ↔ document.StatesNoType := by
  obtain ⟨fields, model, tokens, merges, ids, added, rfl, hasModel, _, _, _, rfl⟩ :=
    exists_of_draftOfFile drafted
  show modelType ((model.get? "type").getD .null) = [] ↔ _
  rw [modelType_eq_nil_iff]
  constructor
  · -- A type that is left out is null, and not empty.
    intro stated
    refine ⟨fields, model, rfl, hasModel, ?_⟩
    cases given : model.get? "type" with
    | none =>
      rw [given] at stated
      cases stated
    | some value =>
      rw [given] at stated
      exact congrArg some stated
  · rintro ⟨_, other, ⟨⟩, hasOther, stated⟩
    -- There is only one model in the document.
    obtain rfl : model = other := Json.obj.inj (Option.some.inj (hasModel.symm.trans hasOther))
    rw [stated]
    rfl

/-- In the draft of a lawful document all integers are short. -/
theorem allShort_of_draftOfFile {document : Json} {draft : Draft}
    (lawful : document.Lawful (fun _ => True) (Binary64.InRange .double))
    (drafted : draftOfFile document = .ok draft) : draft.AllShort := by
  obtain ⟨fields, model, tokens, merges, ids, added, rfl, hasModel, hasTokens, mapped, listed,
    rfl⟩ := exists_of_draftOfFile drafted
  have model_lawful := Json.Lawful.get? lawful.2 hasModel
  refine ⟨short_tokenMap (Json.Lawful.get? model_lawful.2 hasTokens) mapped, ?_, ?_, ?_⟩
  · -- Each added token has the id that some entry shows for it.
    intro token member
    obtain ⟨entries, shows, read⟩ := addedTokens_readFrom listed
    obtain ⟨entry, among, reads⟩ := exists_of_mem_forall₂ read.flip member
    exact shows.short lawful among reads.id
  · -- What the document states is one of its fields, and an integer stands for itself.
    intro name id stated
    have isInteger : ((Json.obj fields).live.get name).toInt = .ok id := congrArg Live.toInt stated
    exact Json.toInt_get_short lawful isInteger
  · intro size stated
    have size_lawful := lawful.field "vocab_size"
    have same : (fields.get? "vocab_size").getD .null = .int size := stated
    rw [same] at size_lawful
    exact size_lawful

namespace TokenizerSource

variable {source : TokenizerSource} {vocabulary : Vocabulary}

/-- A source is a serialized tokenizer with a document. -/
inductive Holds : TokenizerSource → Json → Prop
  | file (document : Json) : Holds (.file document) document
  | payload {given : Payload} {document : Json} (read : Json.ofPayload given = .ok document) :
    Holds (.payload given) document

/-- A source states an empty type for its model. A running tokenizer never does. -/
def StatesNoType (source : TokenizerSource) : Prop :=
  ∃ document, source.Holds document ∧ document.StatesNoType

/-- A source is a serialized tokenizer that a text can spell, as one that came as a text does. -/
inductive Spelled : TokenizerSource → Prop
  | file {document : Json} (lawful : document.Lawful (fun _ => True) (Binary64.InRange .double)) :
    Spelled (.file document)
  | payload (given : Payload) : Spelled (.payload given)

/-- The model type in the draft of a source is empty just if the source states that. -/
theorem modelType_of_draft {draft : Draft} (drafted : source.draft = .ok draft) :
    draft.modelType = [] ↔ source.StatesNoType := by
  cases source with
  | running tokenizer =>
    obtain ⟨listing, ids, merges, added, _, _, rfl⟩ := exists_of_draftOfRunning drafted
    constructor
    · -- The type of a running tokenizer's model is one of two, and neither is empty.
      intro empty
      simp only at empty
      split at empty <;> cases empty
    · rintro ⟨_, ⟨⟩, _⟩
  | file document =>
    rw [modelType_of_draftOfFile drafted]
    constructor
    · exact fun states => ⟨document, .file document, states⟩
    · rintro ⟨_, ⟨⟩, states⟩
      exact states
  | payload given =>
    obtain ⟨document, read, drafted⟩ := bind_eq_ok_iff.mp drafted
    have read : Json.ofPayload given = .ok document := mapError_eq_ok_iff.mp read
    rw [modelType_of_draftOfFile drafted]
    constructor
    · exact fun states => ⟨document, .payload read, states⟩
    · rintro ⟨other, held, states⟩
      cases held with
      | payload again =>
        -- The payload is read in one way only.
        obtain rfl : document = other := Except.ok.inj (read.symm.trans again)
        exact states

/-- In the vocabulary of a source that a text can spell all integers are short. -/
theorem Spelled.allShort (spelled : source.Spelled)
    (accepted : source.vocabulary = .ok vocabulary) : vocabulary.AllShort := by
  rw [vocabulary_eq_draft] at accepted
  obtain ⟨draft, drafted, made⟩ := bind_eq_ok_iff.mp accepted
  suffices short : draft.AllShort from short.of_made made
  cases spelled with
  | file lawful => exact allShort_of_draftOfFile lawful drafted
  | payload given =>
    -- What was read from a text can be spelled by one.
    obtain ⟨document, read, drafted⟩ := bind_eq_ok_iff.mp drafted
    exact allShort_of_draftOfFile (Json.ofPayload_lawful (mapError_eq_ok_iff.mp read)) drafted

/-- The model type of a vocabulary is a text, which is empty just if its source states that. -/
theorem modelType_of_vocabulary (accepted : source.vocabulary = .ok vocabulary) :
    ∃ type, vocabulary.modelType = .str type ∧ (type = [] ↔ source.StatesNoType) := by
  rw [vocabulary_eq_draft] at accepted
  obtain ⟨draft, drafted, made⟩ := bind_eq_ok_iff.mp accepted
  obtain ⟨_, rfl⟩ := Draft.vocabulary_eq_ok_iff.mp made
  exact ⟨draft.modelType, rfl, modelType_of_draft drafted⟩

/-- The vocabulary of a source has a text if all integers are short, and is read back from it but
for an empty model type: the default takes its place. -/
theorem ofPayload_text (accepted : source.vocabulary = .ok vocabulary)
    (short : vocabulary.AllShort) :
    ∃ text, vocabulary.text = .ok text ∧ Vocabulary.ofPayload (.text text) =
      .ok { vocabulary with modelType := vocabulary.modelType.orElse (.str "unknown") } := by
  rw [vocabulary_eq_draft] at accepted
  obtain ⟨draft, drafted, made⟩ := bind_eq_ok_iff.mp accepted
  obtain ⟨_, _, listing, mapped⟩ := parts_of_draft drafted
  exact Draft.ofPayload_text made (nodup_tokenMap mapped) short

end TokenizerSource

/-- A vocabulary that was read from a text or from bytes has short integers and a model type. -/
theorem Vocabulary.allShort_of_ofPayload {payload : Payload} {vocabulary : Vocabulary}
    (accepted : ofPayload payload = .ok vocabulary) :
    vocabulary.AllShort ∧ vocabulary.modelType.isTruthy = true := by
  obtain ⟨data, read, accepted⟩ := bind_eq_ok_iff.mp accepted
  -- A document that was read at all holds no integer that is too long.
  have lawful := Json.ofPayload_lawful (mapError_eq_ok_iff.mp read)
  have settled := settled_of_ofJson lawful accepted
  refine ⟨⟨settled.tokens, settled.added, fun size explicit => ?_⟩, settled.modelType⟩
  have size_lawful := explicitSize_lawful lawful accepted
  rw [explicit] at size_lawful
  exact size_lawful

/-- The vocabulary that comes of another one by writing its text and reading that. -/
def Vocabulary.readBack (vocabulary : Vocabulary) : Except Fault Vocabulary := do
  ofPayload (.text (← vocabulary.text))

/-- What a text is read back as, if there is one. -/
theorem Vocabulary.readBack_of_text {vocabulary : Vocabulary} {outcome : Except Fault Vocabulary}
    (read : ∃ text, vocabulary.text = .ok text ∧ ofPayload (.text text) = outcome) :
    vocabulary.readBack = outcome := by
  obtain ⟨text, written, rfl⟩ := read
  rw [readBack, written]
  rfl

/-- The vocabulary of a tokenizer is read back from its text just if the tokenizer does not state an
empty type for its model, and all integers are short.

An empty type is read back as an unknown one. In a serialized tokenizer that a text can spell, all
integers are short. -/
theorem normalized_read_back_iff {source : TokenizerSource} {vocabulary : Vocabulary}
    (accepted : source.vocabulary = .ok vocabulary) :
    (vocabulary.readBack = .ok vocabulary ↔ ¬source.StatesNoType ∧ vocabulary.AllShort) ∧
    (source.StatesNoType → vocabulary.AllShort →
      vocabulary.readBack = .ok { vocabulary with modelType := .str "unknown" }) ∧
    (source.Spelled → vocabulary.AllShort) := by
  obtain ⟨type, stated, noType⟩ := TokenizerSource.modelType_of_vocabulary accepted
  refine ⟨⟨fun back => ?_, ?_⟩, fun states short => ?_, fun spelled => spelled.allShort accepted⟩
  · -- Whatever is read back has a model type, which an empty one is not.
    obtain ⟨_, _, back⟩ := bind_eq_ok_iff.mp back
    obtain ⟨short, named⟩ := Vocabulary.allShort_of_ofPayload back
    refine ⟨fun states => ?_, short⟩
    rw [stated, noType.mpr states] at named
    cases named
  · rintro ⟨states, short⟩
    -- The type counts as true, so that it is kept.
    have named : vocabulary.modelType.isTruthy = true := by
      rw [stated, Json.isTruthy]
      simpa using mt noType.mp states
    have read := Vocabulary.readBack_of_text (TokenizerSource.ofPayload_text accepted short)
    rw [read, Json.orElse, if_pos named]
  · have read := Vocabulary.readBack_of_text (TokenizerSource.ofPayload_text accepted short)
    rw [read, stated, noType.mpr states]
    rfl

/-- A tokenizer file that states a type for its model, a size, and an end that no token carries. -/
def typedFile (type : Text) : Json :=
  .obj [("model", .obj [("type", .str type), ("vocab", .obj [("a", .int 0), ("b", .int 5)])]),
    ("vocab_size", .int 9), ("eos_token_id", .int 7)]

/-- The file is one that a text can spell. -/
theorem typedFile_spelled (type : Text) : (TokenizerSource.file (typedFile type)).Spelled := by
  -- Each of the integers in the file has a single digit.
  have zero : IsShort 0 := isShort_of_digit (by decide)
  have five : IsShort 5 := isShort_of_digit (by decide)
  have seven : IsShort 7 := isShort_of_digit (by decide)
  have nine : IsShort 9 := isShort_of_digit (by decide)
  refine .file ?_
  simp only [typedFile, Json.Lawful, Json.LawfulFields, Fields.names, List.map_cons, List.map_nil,
    zero, five, seven, nine, and_true, true_and]
  decide

/-- The vocabulary of a file that states a type is read back, with this type in lower case. -/
theorem normalized_read_back_typed :
    ∃ vocabulary, (TokenizerSource.file (typedFile "BPE")).vocabulary = .ok vocabulary ∧
      vocabulary.modelType = .str "bpe" ∧ vocabulary.explicitSize = .int 9 ∧
      vocabulary.added = [.bare 7 "<|eos_7|>"] ∧ vocabulary.readBack = .ok vocabulary := by
  obtain ⟨vocabulary, accepted⟩ :
      ∃ vocabulary, (TokenizerSource.file (typedFile "BPE")).vocabulary = .ok vocabulary := ⟨_, rfl⟩
  obtain ⟨readBack, _, short⟩ := normalized_read_back_iff accepted
  have states : ¬(TokenizerSource.file (typedFile "BPE")).StatesNoType := by
    rintro ⟨_, ⟨⟩, fields, model, ⟨⟩, ⟨⟩, stated⟩
    cases stated
  -- The parts of the vocabulary are computed, and its text is read back by the theorem.
  have back := readBack.mpr ⟨states, short (typedFile_spelled "BPE")⟩
  cases accepted
  exact ⟨_, rfl, rfl, rfl, rfl, back⟩

/-- The vocabulary of a file that states an empty type is read back as that of an unknown type. -/
theorem empty_type_read_back_unknown :
    ∃ vocabulary other, (TokenizerSource.file (typedFile [])).vocabulary = .ok vocabulary ∧
      vocabulary.modelType = .str [] ∧ vocabulary.readBack = .ok other ∧
      other.modelType = .str "unknown" := by
  obtain ⟨vocabulary, accepted⟩ :
      ∃ vocabulary, (TokenizerSource.file (typedFile [])).vocabulary = .ok vocabulary := ⟨_, rfl⟩
  have short := (typedFile_spelled []).allShort accepted
  -- What was accepted has a text, and the text is read as any other one.
  have back := Vocabulary.readBack_of_text (TokenizerSource.ofPayload_text accepted short)
  cases accepted
  exact ⟨_, _, rfl, rfl, back, rfl⟩

end ConstrainedDecoding
