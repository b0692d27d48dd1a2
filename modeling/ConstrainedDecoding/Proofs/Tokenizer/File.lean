import ConstrainedDecoding.Hub.Download
import ConstrainedDecoding.Proofs.Tokenizer.Roles

/-! What becomes of serialized tokenizers: which are accepted, and how the others are refused. -/

namespace ConstrainedDecoding

variable {α β : Type}

/-- A failure of a part of a document, which does not say that a tokenizer file is at fault. -/
inductive Fault.IsBare : Fault → Prop
  | invalid (problem : ValueProblem) : IsBare (.invalid problem)
  | mistyped (problem : TypeProblem) : IsBare (.mistyped problem)
  | missingKey (key : Text) : IsBare (.missingKey key)
  | overflow (text : Text) : IsBare (.overflow text)

/-- A computation that fails in no other way than parts of documents do. -/
def FailsBare (outcome : Except Fault α) : Prop :=
  ∀ fault, outcome = .error fault → fault.IsBare

namespace FailsBare

/-- A result is no failure. -/
theorem ok (value : α) : FailsBare (.ok value) :=
  nofun

/-- A single failure. -/
theorem error {fault : Fault} (bare : fault.IsBare) :
    FailsBare (.error fault : Except Fault α) := by
  rintro _ ⟨⟩
  exact bare

/-- Two steps fail as either of them does. -/
theorem bind {first : Except Fault α} {second : α → Except Fault β} (bare : FailsBare first)
    (later : ∀ value, FailsBare (second value)) : FailsBare (first >>= second) := by
  intro fault failed
  -- The fault is that of the first step, or of the second one after it.
  rcases bind_eq_error_iff.mp failed with failed | ⟨value, _, failed⟩
  · exact bare fault failed
  · exact later value fault failed

/-- A step for each element fails as the steps do. -/
theorem mapM {step : α → Except Fault β} (bare : ∀ element, FailsBare (step element))
    (elements : List α) : FailsBare (elements.mapM step) := by
  intro fault failed
  obtain ⟨element, _, failed⟩ := exists_of_mapM_error failed
  exact bare element fault failed

/-- A value that stands for no integer. -/
theorem of_toInt (value : Live) : FailsBare value.toInt := by
  -- No value is refused with the message of a file, whatever it is.
  cases value with
  | null => exact error (.mistyped _)
  | bool _ => exact ok _
  | int _ => exact ok _
  | float number =>
    cases number with
    | nan => exact error (.invalid _)
    | infinity _ => exact error (.overflow _)
    | finite _ _ => exact ok _
  | str text =>
    show FailsBare (Live.textInteger text)
    unfold Live.textInteger
    split
    · exact error (.invalid _)
    · exact ok _
    · exact error (.invalid _)
  | _ => exact error (.mistyped _)

/-- A value that gives no others one after the other. -/
theorem of_iterate (value : Live) : FailsBare value.iterate := by
  cases value with
  | list _ => exact ok _
  | str _ => exact ok _
  | dict _ => exact ok _
  | _ => exact error (.mistyped _)

/-- Rules that are no merge rules. -/
theorem of_normalizeMerges (merges : Live) : FailsBare (normalizeMerges merges) := by
  unfold normalizeMerges
  split
  · -- Going through the rules fails bare, and so does each rule by itself.
    refine bind (of_iterate merges) fun elements => mapM (fun merge => ?_) elements
    cases merge with
    | str _ => exact ok _
    | list _ => exact ok _
    | _ => exact error (.invalid _)
  · exact ok _

/-- An entry that describes no added token. -/
theorem of_ofLive (entry : Live) : FailsBare (AddedToken.ofLive entry) := by
  -- The two fields that have to be there are the only ones that can be missed.
  have required : ∀ entries name, FailsBare (AddedToken.required entries name) := by
    intro entries name
    unfold AddedToken.required
    split
    · exact ok _
    · exact error (.missingKey name)
  cases entry with
  | dict entries =>
    refine bind (required entries "id") fun id => bind (of_toInt id) fun number => ?_
    exact bind (required entries "content") fun content => ok _
  | _ => exact error (.mistyped _)

/-- A source whose added tokens cannot be read. -/
theorem of_addedTokens (source : Live) : FailsBare (addedTokens source) := by
  refine bind ?_ fun entries => mapM (fun entry => ?_) entries
  · -- Entries are the values of a map, or the elements of a list.
    unfold addedEntries
    split
    · split
      · unfold decoderEntries
        split
        · exact ok _
        · exact error (.mistyped _)
      · exact ok _
    · split
      · exact of_iterate _
      · exact ok _
  · unfold addedToken
    split
    · exact of_ofLive entry
    · exact of_ofLive _

end FailsBare

/-- The integer that a token of a file has for an id. -/
def fileId (token : Text × Json) : Except Fault (Text × Int) := do
  return (token.1, ← token.2.live.toInt)

/-- The tokens of an object are its fields, with the integers that their values stand for. -/
theorem tokenMap_obj (tokens : Fields Json) :
    tokenMap (Json.obj tokens).live = do return Fields.ofList (← tokens.mapM fileId) := by
  -- Its items are the tokens of the object, and each item is taken for the id it holds.
  have items : (Json.obj tokens).live.items =
      .ok (tokens.map fun token => .list [.str token.1, token.2.live]) := by
    show Except.ok (List.map _ (Json.liveFields tokens)) = _
    rw [Json.liveFields_eq, List.map_map]
    rfl
  have entries : (tokens.map fun token => Live.list [.str token.1, token.2.live]).mapM tokenEntry =
      tokens.mapM fileId := by
    rw [List.mapM_map]
    rfl
  rw [tokenMap, items]
  show (do return Fields.ofList (← List.mapM tokenEntry _)) = _
  rw [entries]

/-- A document holds tokens in an object under "vocab", in an object under "model". -/
def HasVocabulary (document : Json) (model tokens : Fields Json) : Prop :=
  ∃ fields : Fields Json, document = .obj fields ∧ fields.get? "model" = some (.obj model) ∧
    model.get? "vocab" = some (.obj tokens)

/-- The parts of a tokenizer file are sound: rules and added tokens can be read, and the ids of
tokens are integers that are not negative. -/
structure PartsSound (document : Json) (model tokens : Fields Json) : Prop where
  merges : ∃ rules, normalizeMerges ((model.get? "merges").getD .null).live = .ok rules
  ids : ∀ token ∈ tokens, ∃ id, token.2.live.toInt = .ok id ∧ 0 ≤ id
  added : ∃ added, addedTokens document.live = .ok added

section

variable {document : Json} {model tokens : Fields Json}

/-- The draft of a file from those of its parts that can fail to be read. -/
def fileDraft (fields model : Fields Json) (merges : List Text) (ids : Fields Int)
    (added : List AddedToken) : Draft where
  source := (Json.obj fields).live
  tokens := ids
  merges := merges
  added := added
  modelType := modelType ((model.get? "type").getD .null)
  size := (fields.get? "vocab_size").getD .null

/-- The draft of a file with a vocabulary, part by part. -/
theorem draftOfFile_eq (holds : HasVocabulary document model tokens) :
    ∃ fields, document = .obj fields ∧ draftOfFile document = do
      let merges ← normalizeMerges ((model.get? "merges").getD .null).live
      let ids ← tokenMap (Json.obj tokens).live
      let added ← addedTokens document.live
      return fileDraft fields model merges ids added := by
  obtain ⟨fields, rfl, hasModel, hasTokens⟩ := holds
  refine ⟨fields, rfl, ?_⟩
  -- The way to the vocabulary is there, so the other parts decide.
  rw [draftOfFile, hasModel]
  simp only [hasTokens]
  rfl

/-- A document that has a draft holds a vocabulary, and the draft is made of what was read there. -/
theorem exists_of_draftOfFile {draft : Draft} (drafted : draftOfFile document = .ok draft) :
    ∃ (fields model tokens : Fields Json) (merges : List Text) (ids : Fields Int)
      (added : List AddedToken), document = .obj fields ∧
      fields.get? "model" = some (.obj model) ∧ model.get? "vocab" = some (.obj tokens) ∧
      tokenMap (Json.obj tokens).live = .ok ids ∧ addedTokens (Json.obj fields).live = .ok added ∧
      draft = fileDraft fields model merges ids added := by
  unfold draftOfFile at drafted
  split at drafted
  · rename_i fields
    split at drafted
    · rename_i model hasModel
      split at drafted
      · rename_i tokens hasTokens
        -- The merges are read first, then the ids, and the added tokens last.
        obtain ⟨merges, _, drafted⟩ := bind_eq_ok_iff.mp drafted
        obtain ⟨ids, mapped, drafted⟩ := bind_eq_ok_iff.mp drafted
        obtain ⟨added, listed, done⟩ := bind_eq_ok_iff.mp drafted
        cases done
        exact ⟨fields, model, tokens, merges, ids, added, rfl, hasModel, hasTokens, mapped, listed,
          rfl⟩
      · cases drafted
    · cases drafted
  · cases drafted

/-- A file with a vocabulary fails bare, if it fails. -/
theorem failsBare_of_hasVocabulary (holds : HasVocabulary document model tokens) :
    FailsBare (readTokenizer document).answer := by
  obtain ⟨fields, _, draft⟩ := draftOfFile_eq holds
  have bare : FailsBare (draftOfFile document) := by
    rw [draft, tokenMap_obj]
    refine .bind (.of_normalizeMerges _) fun merges => .bind (.bind ?_ fun _ => .ok _) fun tokens =>
      .bind (.of_addedTokens _) fun added => .ok _
    exact .mapM (fun token : Text × Json => .bind (.of_toInt token.2.live) fun _ => .ok _) _
  unfold readTokenizer
  split
  · rename_i failed
    exact .error (bare _ failed)
  · -- The vocabulary of a draft is refused for the id of a token, if at all.
    intro fault failed
    obtain ⟨token, _, _, rfl⟩ := Draft.exists_token_of_error failed
    exact .invalid _

/-- A file without a vocabulary is refused as such. -/
theorem readTokenizer_of_not_hasVocabulary
    (lacks : ∀ model tokens, ¬HasVocabulary document model tokens) :
    ∃ problem, (readTokenizer document).answer = .error (.tokenizerFile problem) := by
  -- Wherever a part on the way to the vocabulary is missing, the file is refused.
  have refused : ∃ problem, draftOfFile document = .error (.tokenizerFile problem) := by
    unfold draftOfFile
    split
    · rename_i fields
      split
      · rename_i model hasModel
        split
        · rename_i tokens hasTokens
          exact absurd ⟨fields, rfl, hasModel, hasTokens⟩ (lacks model tokens)
        · exact ⟨_, rfl⟩
      · exact ⟨_, rfl⟩
    · exact ⟨_, rfl⟩
  obtain ⟨problem, failed⟩ := refused
  exact ⟨problem, by rw [readTokenizer, failed]⟩

/-- The tokens of an object with distinct names are its fields, and none is given twice. -/
theorem tokenMap_obj_of_nodup (distinct : tokens.names.Nodup) :
    tokenMap (Json.obj tokens).live = tokens.mapM fileId := by
  -- Reading an id keeps the content, so the contents are distinct afterwards.
  have keeps : ∀ {token : Text × Json} {result : Text × Int}, fileId token = .ok result →
      result.1 = token.1 := by
    intro token result read
    obtain ⟨id, _, done⟩ := bind_eq_ok_iff.mp read
    cases done
    rfl
  rw [tokenMap_obj]
  cases read : tokens.mapM fileId with
  | error fault => rfl
  | ok ids =>
    have names := Fields.names_mapM keeps read
    exact congrArg Except.ok (Fields.ofList_of_nodup (names ▸ distinct))

/-- A file with a vocabulary is accepted just if its parts are sound. -/
theorem readTokenizer_iff (holds : HasVocabulary document model tokens)
    (distinct : tokens.names.Nodup) :
    (∃ vocabulary, (readTokenizer document).answer = .ok vocabulary) ↔
      PartsSound document model tokens := by
  obtain ⟨fields, _, draft⟩ := draftOfFile_eq holds
  constructor
  · rintro ⟨vocabulary, accepted⟩
    unfold readTokenizer at accepted
    split at accepted
    · cases accepted
    · rename_i found made
      rw [draft] at made
      -- Every part was read, and the draft has no negative id.
      obtain ⟨merges, merged, made⟩ := bind_eq_ok_iff.mp made
      obtain ⟨ids, mapped, made⟩ := bind_eq_ok_iff.mp made
      obtain ⟨added, listed, done⟩ := bind_eq_ok_iff.mp made
      cases done
      have natural := Draft.exists_vocabulary_iff.mp ⟨vocabulary, accepted⟩
      refine ⟨⟨merges, merged⟩, fun token member => ?_, ⟨added, listed⟩⟩
      rw [tokenMap_obj_of_nodup distinct] at mapped
      obtain ⟨result, among, read⟩ := exists_of_mapM_ok mapped member
      obtain ⟨id, integer, done⟩ := bind_eq_ok_iff.mp read
      cases done
      exact ⟨id, integer, natural _ among⟩
  · rintro ⟨⟨merges, merged⟩, sound, ⟨added, listed⟩⟩
    obtain ⟨ids, mapped⟩ : ∃ ids, tokens.mapM fileId = .ok ids := by
      refine exists_mapM_ok fun token member => ?_
      obtain ⟨id, integer, _⟩ := sound token member
      exact ⟨(token.1, id), by rw [fileId, integer]; rfl⟩
    have natural : ∀ token ∈ (fileDraft fields model merges ids added).tokens, 0 ≤ token.2 := by
      intro token member
      obtain ⟨given, among, read⟩ := exists_of_mem_mapM mapped member
      obtain ⟨id, integer, positive⟩ := sound given among
      rw [fileId, integer] at read
      cases read
      exact positive
    -- With all parts read there is a draft, and its ids are those of the tokens.
    rw [← tokenMap_obj_of_nodup distinct] at mapped
    rw [merged, mapped, listed] at draft
    obtain ⟨vocabulary, made⟩ := Draft.exists_vocabulary_iff.mpr natural
    refine ⟨vocabulary, ?_⟩
    rw [readTokenizer, draft]
    exact made

end

/-- The document in a payload holds a vocabulary. -/
def Payload.Holds (payload : Payload) (document : Json) (model tokens : Fields Json) : Prop :=
  Json.ofPayload payload = .ok document ∧ HasVocabulary document model tokens

section

variable {payload : Payload} {document : Json} {model tokens : Fields Json}

/-- No name is given twice in a vocabulary that arrived as text or bytes. -/
theorem Payload.Holds.nodup (holds : payload.Holds document model tokens) :
    tokens.names.Nodup := by
  obtain ⟨read, fields, rfl, hasModel, hasTokens⟩ := holds
  have lawful := Json.ofPayload_lawful read
  exact (Json.Lawful.get? (Json.Lawful.get? lawful.2 hasModel).2 hasTokens).1

/-- A payload with a vocabulary is read as its document is. -/
theorem Payload.Holds.answer_eq (holds : payload.Holds document model tokens) :
    readTokenizerPayload payload = readTokenizer document := by
  rw [readTokenizerPayload, holds.1]

/-- A payload is refused as a tokenizer file just if its document holds no vocabulary. -/
theorem refused_iff :
    (∃ problem, (readTokenizerPayload payload).answer = .error (.tokenizerFile problem)) ↔
      ¬∃ document model tokens, payload.Holds document model tokens := by
  constructor
  · rintro ⟨problem, refused⟩ ⟨document, model, tokens, holds⟩
    rw [holds.answer_eq] at refused
    -- What fails after a vocabulary was found fails bare.
    cases failsBare_of_hasVocabulary holds.2 _ refused
  · intro lacks
    unfold readTokenizerPayload
    split
    · rename_i error _
      cases error with
      | undecodable => exact ⟨_, rfl⟩
      | unreadable error => exact ⟨_, rfl⟩
    · rename_i document read
      exact readTokenizer_of_not_hasVocabulary fun model tokens has =>
        lacks ⟨document, model, tokens, read, has⟩

/-- A payload with a vocabulary is accepted just if its parts are sound, and else fails bare. -/
theorem Payload.Holds.outcome (holds : payload.Holds document model tokens) :
    ((∃ vocabulary, (readTokenizerPayload payload).answer = .ok vocabulary) ↔
      PartsSound document model tokens) ∧ FailsBare (readTokenizerPayload payload).answer := by
  rw [holds.answer_eq]
  exact ⟨readTokenizer_iff holds.2 holds.nodup, failsBare_of_hasVocabulary holds.2⟩

/-- What becomes of a request for a tokenizer file, by what came of the request itself. -/
inductive LoadOutcome (url : Text) : HubAnswer → Except Fault Vocabulary → Prop
  | unreached (text : Text) :
    LoadOutcome url (.failure text) (.error (fetchFault url text .null))
  | unsuccessful {status : Nat} {location : Option (List Char)} {body : Bytes} (text : Text)
    (failed : isSuccess status = false) :
    LoadOutcome url (.response status location body) (.error (fetchFault url text (.int status)))
  | refused {status : Nat} {location : Option (List Char)} {body : Bytes} (problem : FileProblem)
    (success : isSuccess status = true)
    (lacks : ¬∃ document model tokens, (Payload.bytes body).Holds document model tokens) :
    LoadOutcome url (.response status location body) (.error (.tokenizerFile problem))
  | loaded {status : Nat} {location : Option (List Char)} {body : Bytes} {document : Json}
    {model tokens : Fields Json} (vocabulary : Vocabulary) (success : isSuccess status = true)
    (holds : (Payload.bytes body).Holds document model tokens)
    (sound : PartsSound document model tokens) :
    LoadOutcome url (.response status location body) (.ok vocabulary)
  /-- A file with a vocabulary fails bare if another part of it is not sound. -/
  | unsound {status : Nat} {location : Option (List Char)} {body : Bytes} {document : Json}
    {model tokens : Fields Json} {fault : Fault} (success : isSuccess status = true)
    (holds : (Payload.bytes body).Holds document model tokens)
    (unsound : ¬PartsSound document model tokens) (bare : fault.IsBare) :
    LoadOutcome url (.response status location body) (.error fault)

/-- What comes of a request that was answered, or that failed on the way. -/
theorem loadOutcome_readAnswer (url : Text) {last : HubAnswer}
    (answered : ∀ fault, last ≠ .collapse fault) :
    LoadOutcome url last (readAnswer url last).answer := by
  cases last with
  | failure text => exact .unreached text
  | collapse fault => exact absurd rfl (answered fault)
  | response status location body =>
    rw [readAnswer]
    by_cases success : isSuccess status = true
    · rw [if_pos success]
      by_cases held : ∃ document model tokens, (Payload.bytes body).Holds document model tokens
      · obtain ⟨document, model, tokens, holds⟩ := held
        obtain ⟨accepted, bare⟩ := holds.outcome
        -- A vocabulary comes out if the parts are sound, and only then.
        cases answer : (readTokenizerPayload (.bytes body)).answer with
        | ok vocabulary => exact .loaded vocabulary success holds (accepted.mp ⟨vocabulary, answer⟩)
        | error fault =>
          refine .unsound success holds (fun sound => ?_) (bare fault answer)
          obtain ⟨vocabulary, read⟩ := accepted.mpr sound
          cases answer.symm.trans read
      · obtain ⟨problem, refused⟩ := refused_iff.mpr held
        rw [refused]
        exact .refused problem success held
    · rw [if_neg success]
      exact .unsuccessful _ (Bool.eq_false_iff.mpr success)

end

/-- A tokenizer file is refused as such just if it holds no vocabulary. One that holds a vocabulary
is accepted just if its parts are sound, and else fails as the part does, with no word of the file.

So what comes of loading it, once the address and the secret are settled and a server has answered
or failed to, is a vocabulary, a failure to fetch it, a refusal of the file, or such a failure. -/
theorem tokenizer_file_outcomes (payload : Payload) (surroundings : Surroundings)
    (model token baseUrl : Json) (follows : Bool) (answers : List HubAnswer) :
    ((∃ problem, (readTokenizerPayload payload).answer = .error (.tokenizerFile problem)) ↔
      ¬∃ document model tokens, payload.Holds document model tokens) ∧
    (∀ document model tokens, payload.Holds document model tokens →
      ((∃ vocabulary, (readTokenizerPayload payload).answer = .ok vocabulary) ↔
        PartsSound document model tokens) ∧ FailsBare (readTokenizerPayload payload).answer) ∧
    ∀ url secret, surroundings.tokenizerUrl model baseUrl = .ok url →
      surroundings.hubToken token (.str "secrets.json") = .ok secret →
      (∀ fault, (fetch url secret follows answers).2 ≠ .collapse fault) →
      LoadOutcome url (fetch url secret follows answers).2
        (loadVocabulary surroundings model token baseUrl follows answers).answer := by
  refine ⟨refused_iff, fun _ _ _ holds => holds.outcome, ?_⟩
  intro url secret addressed settled answered
  -- The address and the secret are settled, so the answer of the hub decides.
  rw [loadVocabulary, addressed, settled]
  exact loadOutcome_readAnswer url answered

/-- A tokenizer file with one token. -/
def smallFile : Json :=
  .obj [("model", .obj [("vocab", .obj [("a", .int 0)])])]

/-- The small file as a text. -/
def smallText : Text :=
  smallFile.write Json.plainLayout

/-- The text of the small file holds its one token, and the file is sound. -/
theorem smallFile_sound :
    (Payload.text smallText).Holds smallFile [("vocab", .obj [("a", .int 0)])] [("a", .int 0)] ∧
      PartsSound smallFile [("vocab", .obj [("a", .int 0)])] [("a", .int 0)] := by
  have zero : IsShort 0 := isShort_of_digit (by decide)
  have lawful : smallFile.Lawful (fun _ => True) Binary64.ReadsBack := by
    simp [smallFile, Json.Lawful, Json.LawfulFields, Fields.names, zero]
  have read : Json.ofText smallText = .ok smallFile :=
    Json.ofText_write Json.plainLayout_reads lawful
  refine ⟨⟨mapError_eq_ok_iff.mpr read, _, rfl, rfl, rfl⟩, ⟨⟨[], rfl⟩, ?_, ⟨[], rfl⟩⟩⟩
  -- There is a single token, and its id is zero.
  intro token member
  obtain rfl := List.mem_singleton.mp member
  exact ⟨0, rfl, le_refl 0⟩

/-- An address of the small file. -/
def smallAddress : Text :=
  "https://hub.test/m/resolve/main/tokenizer.json"

/-- The small file is accepted, and a request for it that times out is a failure to fetch it. -/
theorem tokenizer_file_outcomes_small :
    (∃ vocabulary, (readTokenizerPayload (.text smallText)).answer = .ok vocabulary) ∧
      LoadOutcome smallAddress (.failure "timed out")
        (loadVocabulary ⟨[], []⟩ (.str "m") (.str "t") (.str "https://hub.test") false
          [.failure "timed out"]).answer := by
  -- The file itself, and the request with the server that does not answer.
  obtain ⟨_, outcome, loads⟩ := tokenizer_file_outcomes (.text smallText) ⟨[], []⟩ (.str "m") (.str "t")
    (.str "https://hub.test") false [.failure "timed out"]
  constructor
  · obtain ⟨holds, sound⟩ := smallFile_sound
    exact (outcome _ _ _ holds).1.mpr sound
  · have addressed : Surroundings.tokenizerUrl ⟨[], []⟩ (.str "m") (.str "https://hub.test") =
        .ok smallAddress := rfl
    have settled : Surroundings.hubToken ⟨[], []⟩ (.str "t") (.str "secrets.json") =
        .ok (.str "t") := rfl
    have last : (fetch smallAddress (.str "t") false [.failure "timed out"]).2 =
        .failure "timed out" := rfl
    have loaded := loads _ _ addressed settled (by simp [last])
    rwa [last] at loaded

/-- A tokenizer file with an added token that has no id. -/
def namelessFile : Json :=
  .obj [("model", .obj [("vocab", .obj [])]),
    ("added_tokens", .arr [.obj [("content", .str "x")]])]

/-- An added token without an id makes a file fail for want of that name. -/
theorem nameless_token_fails_bare :
    (readTokenizerPayload (.text ("\x7b\"model\": \x7b\"vocab\": \x7b\x7d\x7d, " ++
      "\"added_tokens\": [\x7b\"content\": \"x\"\x7d]\x7d" : String))).answer =
        .error (.missingKey "id") := by
  -- The text is that of the file, and the file is what it is read as.
  have written : ("\x7b\"model\": \x7b\"vocab\": \x7b\x7d\x7d, " ++
      "\"added_tokens\": [\x7b\"content\": \"x\"\x7d]\x7d" : String) =
      namelessFile.write Json.plainLayout := by
    decide +kernel
  have distinct : ("model" : Text) ≠ "added_tokens" := by decide
  have lawful : namelessFile.Lawful (fun _ => True) Binary64.ReadsBack := by
    simp [namelessFile, Json.Lawful, Json.LawfulFields, Json.LawfulElements, Fields.names, distinct]
  have read : Json.ofText (namelessFile.write Json.plainLayout) = .ok namelessFile :=
    Json.ofText_write Json.plainLayout_reads lawful
  rw [written, readTokenizerPayload, Json.ofPayload, read]
  rfl

end ConstrainedDecoding
