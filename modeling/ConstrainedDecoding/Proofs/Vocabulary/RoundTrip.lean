import ConstrainedDecoding.Proofs.Json.Live
import ConstrainedDecoding.Proofs.Json.Rendered
import ConstrainedDecoding.Vocabulary.Interchange

/-! The interchange form is a fixed point: what was accepted once is read back as it was. -/

namespace ConstrainedDecoding

/-- A step that keeps the names of entries keeps the list of them. -/
theorem Fields.names_mapM {ε α β : Type} {step : Text × α → Except ε (Text × β)}
    (keeps : ∀ {entry result}, step entry = .ok result → result.1 = entry.1)
    {fields : Fields α} {results : Fields β} (done : fields.mapM step = .ok results) :
    results.names = fields.names := by
  -- Each entry gives a result under the same name.
  have pairs := mapM_eq_ok_iff.mp done
  clear done
  induction pairs with
  | nil => rfl
  | cons stepped _ ih => exact congrArg₂ List.cons (keeps stepped) ih

/-- The rules of a list of texts are those texts. -/
theorem normalizeMerges_written (merges : List Text) :
    normalizeMerges (.list (merges.map .str)) = .ok merges := by
  -- The empty list counts as false, and any other one is taken rule by rule.
  cases merges with
  | nil => rfl
  | cons merge rest =>
    show (List.map Live.str (merge :: rest)).mapM normalizeMerge = .ok (merge :: rest)
    rw [mapM_eq_ok_iff, List.forall₂_map_left_iff, List.forall₂_same]
    exact fun _ _ => rfl

namespace AddedToken

/-- An added token is read back from its interchange form. -/
theorem ofLive_toJson (token : AddedToken) : ofLive token.toJson.live = .ok token :=
  rfl

/-- The id of an added token that was read from a lawful document is short. -/
theorem ofLive_short {texts : Text → Prop} {json : Json}
    (lawful : json.Lawful texts (Binary64.InRange .double)) {token : AddedToken}
    (read : ofLive json.live = .ok token) : IsShort token.id := by
  cases json with
  | obj fields =>
    -- The id is the integer that one of the fields stands for.
    obtain ⟨entry, found, read⟩ := bind_eq_ok_iff.mp read
    obtain ⟨id, isInteger, read⟩ := bind_eq_ok_iff.mp read
    obtain ⟨content, _, done⟩ := bind_eq_ok_iff.mp read
    cases done
    unfold required at found
    rw [Json.entry?_liveFields] at found
    split at found
    · rename_i value given
      obtain ⟨field, held, rfl⟩ := Option.map_eq_some_iff.mp given
      cases found
      exact Json.toInt_short (Json.Lawful.get? lawful.2 held) isInteger
    · cases found
  | _ => cases read

end AddedToken

namespace Vocabulary

/-- The fields that hold values of any kind. -/
def loose (vocabulary : Vocabulary) : List Json :=
  [vocabulary.modelType, vocabulary.roles.eos, vocabulary.roles.bos, vocabulary.roles.pad,
    vocabulary.roles.unk, vocabulary.explicitSize]

/-- What reading has settled about a vocabulary, so that reading it again changes nothing. -/
structure Settled (vocabulary : Vocabulary) : Prop where
  distinct : vocabulary.tokens.names.Nodup
  tokens : ∀ token ∈ vocabulary.tokens, IsShort token.2
  added : ∀ token ∈ vocabulary.added, IsShort token.id
  modelType : vocabulary.modelType.isTruthy = true
  roles : vocabulary.roles.resolved.forM
    (checkRole (isKnownId vocabulary.tokens vocabulary.added)) = .ok ()

/-- A vocabulary is made just if its ids, its rules and its roles are in order. -/
theorem make_eq_ok_iff {tokens : Fields Json} {merges : Live} {added : List AddedToken}
    {modelType explicitSize : Json} {roles : RoleIds} {vocabulary : Vocabulary} :
    make tokens merges added modelType roles explicitSize = .ok vocabulary ↔
      ∃ ids rules, tokens.mapM tokenId = .ok ids ∧ normalizeMerges merges = .ok rules ∧
        roles.resolved.forM (checkRole (isKnownId ids added)) = .ok () ∧
        vocabulary = ⟨ids, rules, added, modelType, roles, explicitSize⟩ := by
  unfold make
  constructor
  · -- The three checks are made one after the other.
    intro made
    obtain ⟨ids, idsRead, made⟩ := bind_eq_ok_iff.mp made
    obtain ⟨rules, rulesRead, made⟩ := bind_eq_ok_iff.mp made
    obtain ⟨_, known, done⟩ := bind_eq_ok_iff.mp made
    cases done
    exact ⟨ids, rules, idsRead, rulesRead, known, rfl⟩
  · rintro ⟨ids, rules, idsRead, rulesRead, known, rfl⟩
    rw [idsRead, rulesRead]
    simp only [Bind.bind, Except.bind, known]
    rfl

/-- An id that was checked is the integer that was given, and the token's name is kept. -/
theorem tokenId_spec {entry : Text × Json} {result : Text × Nat}
    (checked : tokenId entry = .ok result) :
    result.1 = entry.1 ∧ entry.2 = .int result.2 := by
  obtain ⟨name, id⟩ := entry
  obtain ⟨number, passed, done⟩ := bind_eq_ok_iff.mp checked
  cases done
  refine ⟨rfl, ?_⟩
  -- Only an integer that is not negative passes.
  unfold checkId at passed
  split at passed
  · rename_i value same
    split at passed
    · cases passed
    · rename_i positive
      cases passed
      rw [Int.toNat_of_nonneg (not_lt.mp positive)]
      exact same
  · cases passed

/-- An id that was read is an integer, and the token's name is kept. -/
theorem readId_spec {entry result : Text × Json} (read : readId entry = .ok result) :
    result.1 = entry.1 ∧ ∃ value, entry.2.live.toInt = .ok value ∧ result.2 = .int value := by
  obtain ⟨value, found, done⟩ := bind_eq_ok_iff.mp read
  cases done
  exact ⟨rfl, value, found, rfl⟩

/-- Tokens whose ids were read from a lawful object and checked are settled. -/
theorem tokens_settled {texts : Text → Prop} {tokens read : Fields Json} {ids : Fields Nat}
    (distinct : tokens.names.Nodup)
    (lawful : Json.LawfulFields texts (Binary64.InRange .double) tokens)
    (idsRead : tokens.mapM readId = .ok read)
    (checked : (Fields.ofList read).mapM tokenId = .ok ids) :
    ids.names.Nodup ∧ ∀ token ∈ ids, IsShort token.2 := by
  -- The names are those of the object, so none of them is given twice.
  have same : read.names = tokens.names :=
    Fields.names_mapM (fun read => (readId_spec read).1) idsRead
  rw [← same] at distinct
  rw [Fields.ofList_of_nodup distinct] at checked
  rw [Fields.names_mapM (fun checked => (tokenId_spec checked).1) checked]
  refine ⟨distinct, fun token member => ?_⟩
  -- Each id is the integer that a value of the object stands for.
  obtain ⟨entry, among, passed⟩ := exists_of_mem_mapM checked member
  obtain ⟨given, held, stands⟩ := exists_of_mem_mapM idsRead among
  obtain ⟨_, value, isInteger, isValue⟩ := readId_spec stands
  obtain rfl : value = token.2 := Json.int.inj (isValue.symm.trans (tokenId_spec passed).2)
  exact Json.toInt_short (Json.lawfulFields_iff.mp lawful given held).2 isInteger

/-- Added tokens that were read from a lawful value are settled. -/
theorem added_settled {json : Json}
    (lawful : json.Lawful (fun _ => True) (Binary64.InRange .double))
    {entries : List Live} (listed : json.live.iterate = .ok entries) {added : List AddedToken}
    (read : entries.mapM AddedToken.ofLive = .ok added) : ∀ token ∈ added, IsShort token.id := by
  intro token member
  obtain ⟨entry, among, described⟩ := exists_of_mem_mapM read member
  -- Each token was described by an element, and what was read from a text is short.
  obtain ⟨element, lawful, rfl⟩ := lawful.iterate listed entry among
  exact AddedToken.ofLive_short lawful described

/-- A value that stands for a falsy one counts as true if that one's default does. -/
theorem isTruthy_orElse {value default : Json} (truthy : default.isTruthy = true) :
    (value.orElse default).isTruthy = true := by
  unfold Json.orElse
  split
  · assumption
  · exact truthy

/-- A vocabulary is read from the fields of a document, part by part. -/
structure ReadsFrom (vocabulary : Vocabulary) (fields : Fields Json) : Prop where
  tokens : ∃ tokens read, fields.get? "vocab" = some (.obj tokens) ∧
    tokens.mapM readId = .ok read ∧ (Fields.ofList read).mapM tokenId = .ok vocabulary.tokens
  added : vocabulary.added = [] ∨ ∃ entries,
    ((fields.get? "added_tokens").getD .null).live.iterate = .ok entries ∧
      entries.mapM AddedToken.ofLive = .ok vocabulary.added
  modelType : vocabulary.modelType =
    ((fields.get? "model_type").getD .null).orElse (.str "unknown")
  roles : vocabulary.roles =
    ⟨(fields.get? "eos_token_id").getD .null, (fields.get? "bos_token_id").getD .null,
      (fields.get? "pad_token_id").getD .null, (fields.get? "unk_token_id").getD .null⟩
  explicitSize : vocabulary.explicitSize = (fields.get? "vocab_size").getD .null
  known : vocabulary.roles.resolved.forM
    (checkRole (isKnownId vocabulary.tokens vocabulary.added)) = .ok ()

/-- A document that is accepted is an object, and the vocabulary is read from its fields. -/
theorem readsFrom_of_ofJson {data : Json} {vocabulary : Vocabulary}
    (accepted : ofJson data = .ok vocabulary) :
    ∃ fields, data = .obj fields ∧ vocabulary.ReadsFrom fields := by
  unfold ofJson at accepted
  split at accepted
  · rename_i fields
    simp only at accepted
    split at accepted
    · cases accepted
    · rename_i tokens held
      obtain ⟨read, idsRead, accepted⟩ := bind_eq_ok_iff.mp accepted
      obtain ⟨merges, _, accepted⟩ := bind_eq_ok_iff.mp accepted
      refine ⟨fields, rfl, ?_⟩
      -- With or without added tokens, the vocabulary is made from its parts in the end.
      split at accepted
      · obtain ⟨entries, listed, accepted⟩ := bind_eq_ok_iff.mp accepted
        obtain ⟨added, described, made⟩ := bind_eq_ok_iff.mp accepted
        obtain ⟨ids, rules, checked, _, known, rfl⟩ := make_eq_ok_iff.mp made
        exact ⟨⟨tokens, read, held, idsRead, checked⟩, .inr ⟨entries, listed, described⟩, rfl, rfl,
          rfl, known⟩
      · obtain ⟨ids, rules, checked, _, known, rfl⟩ := make_eq_ok_iff.mp accepted
        exact ⟨⟨tokens, read, held, idsRead, checked⟩, .inl rfl, rfl, rfl, rfl, known⟩
    · cases accepted
  · cases accepted

/-- Reading settles everything, whatever document a vocabulary was accepted from. -/
theorem settled_of_ofJson {data : Json} {vocabulary : Vocabulary}
    (lawful : data.Lawful (fun _ => True) (Binary64.InRange .double))
    (accepted : ofJson data = .ok vocabulary) : vocabulary.Settled := by
  obtain ⟨fields, rfl, reads⟩ := readsFrom_of_ofJson accepted
  obtain ⟨tokens, read, held, idsRead, checked⟩ := reads.tokens
  have tokens_lawful := Json.Lawful.get? lawful.2 held
  obtain ⟨distinct, tokens_short⟩ := tokens_settled tokens_lawful.1 tokens_lawful.2 idsRead checked
  -- The added tokens are missing or well described, and an empty kind of model has been replaced.
  refine ⟨distinct, tokens_short, ?_, ?_, reads.known⟩
  · rcases reads.added with none | ⟨entries, listed, described⟩
    · rw [none]
      exact nofun
    · exact added_settled (lawful.field "added_tokens") listed described
  · rw [reads.modelType]
    exact isTruthy_orElse rfl

/-- The explicit size that is read from a lawful document is lawful. -/
theorem explicitSize_lawful {data : Json} {vocabulary : Vocabulary} {texts : Text → Prop}
    {floats : Binary64 → Prop} (lawful : data.Lawful texts floats)
    (accepted : ofJson data = .ok vocabulary) : vocabulary.explicitSize.Lawful texts floats := by
  obtain ⟨fields, rfl, reads⟩ := readsFrom_of_ofJson accepted
  rw [reads.explicitSize]
  exact lawful.field "vocab_size"

/-- A token with its id as the interchange form has it. -/
def written (token : Text × Nat) : Text × Json :=
  (token.1, .int token.2)

/-- The id of a token in the interchange form is checked and kept. -/
theorem tokenId_written (token : Text × Nat) : tokenId (written token) = .ok token := by
  have natural : ¬(token.2 : Int) < 0 := by omega
  simp only [written, tokenId, checkId, if_neg natural]
  rfl

/-- The tokens in the interchange form keep their names. -/
theorem names_written (tokens : Fields Nat) : Fields.names (tokens.map written) = tokens.names := by
  simp [Fields.names, written, Function.comp_def]

/-- The added tokens in the interchange form are listed and read back, also if there are none. -/
theorem added_written (added : List AddedToken) :
    (∀ next : List Live → Except Fault Vocabulary,
      (if (Json.arr (added.map AddedToken.toJson)).isTruthy then
        (Json.arr (added.map AddedToken.toJson)).live.iterate >>= next else .ok [] >>= next) =
        next (added.map fun token => token.toJson.live)) ∧
      (added.map fun token => token.toJson.live).mapM AddedToken.ofLive = .ok added := by
  constructor
  · -- An empty array counts as false, and nothing is read from it either way.
    intro next
    rw [Json.live, Json.liveElements_eq, List.map_map]
    cases added <;> rfl
  · rw [mapM_eq_ok_iff, List.forall₂_map_left_iff, List.forall₂_same]
    exact fun token _ => token.ofLive_toJson

/-- A vocabulary whose tokens have distinct names, and whose roles are known, is what is read from
its document, but for the model type: one that counts as false gives way to the default. -/
theorem ofJson_toJson {vocabulary : Vocabulary} (distinct : vocabulary.tokens.names.Nodup)
    (known : vocabulary.roles.resolved.forM
      (checkRole (isKnownId vocabulary.tokens vocabulary.added)) = .ok ()) :
    ofJson vocabulary.toJson =
      .ok { vocabulary with modelType := vocabulary.modelType.orElse (.str "unknown") } := by
  obtain ⟨tokens, merges, added, modelType, roles, explicitSize⟩ := vocabulary
  -- Every part is read as what it was written from.
  have idsRead : (tokens.map written).mapM readId = .ok (tokens.map written) := by
    rw [mapM_eq_ok_iff, List.forall₂_same]
    intro entry member
    obtain ⟨token, _, rfl⟩ := List.mem_map.mp member
    rfl
  have checked : (tokens.map written).mapM tokenId = .ok tokens := by
    rw [mapM_eq_ok_iff, List.forall₂_map_left_iff, List.forall₂_same]
    exact fun token _ => tokenId_written token
  have kept : Fields.ofList (tokens.map written) = tokens.map written :=
    Fields.ofList_of_nodup (names_written tokens ▸ distinct)
  have rules : normalizeMerges (Json.arr (merges.map .str)).live = .ok merges := by
    rw [Json.live, Json.liveElements_eq, List.map_map]
    exact normalizeMerges_written merges
  obtain ⟨listed, described⟩ := added_written added
  -- The size is left out just if it is null, which is what a field that is left out is read as.
  have size : (Fields.get? (if explicitSize.isNull then [] else [("vocab_size", explicitSize)])
      "vocab_size").getD .null = explicitSize := by
    cases explicitSize <;> rfl
  show (do
    let read ← (tokens.map written).mapM readId
    let rules ← normalizeMerges (Json.arr (merges.map .str)).live
    let next := fun entries : List Live => do
      let added ← entries.mapM AddedToken.ofLive
      make (Fields.ofList read) (.list (rules.map .str)) added (modelType.orElse (.str "unknown"))
        roles ((Fields.get? (if explicitSize.isNull then [] else [("vocab_size", explicitSize)])
          "vocab_size").getD .null)
    if (Json.arr (added.map AddedToken.toJson)).isTruthy then
      (Json.arr (added.map AddedToken.toJson)).live.iterate >>= next
    else .ok [] >>= next) = _
  rw [idsRead, rules, size]
  simp only [Bind.bind, Except.bind] at listed ⊢
  rw [listed, described, kept]
  exact make_eq_ok_iff.mpr ⟨tokens, merges, checked, normalizeMerges_written merges, known, rfl⟩

/-- The document of a vocabulary is lawful if its tokens have distinct names and all ids are short,
as long as the loosely typed fields are lawful. -/
theorem toJson_lawful {floats : Binary64 → Prop} {vocabulary : Vocabulary}
    (distinct : vocabulary.tokens.names.Nodup)
    (tokens_short : ∀ token ∈ vocabulary.tokens, IsShort token.2)
    (added_short : ∀ token ∈ vocabulary.added, IsShort token.id)
    (loose : ∀ json ∈ vocabulary.loose, json.Lawful (fun _ => True) floats) :
    vocabulary.toJson.Lawful (fun _ => True) floats := by
  have tokens : (Json.obj (vocabulary.tokens.map written)).Lawful (fun _ => True) floats := by
    refine ⟨names_written vocabulary.tokens ▸ distinct, Json.lawfulFields_iff.mpr ?_⟩
    intro field member
    obtain ⟨token, among, rfl⟩ := List.mem_map.mp member
    exact ⟨trivial, tokens_short token among⟩
  have merges : (Json.arr (vocabulary.merges.map .str)).Lawful (fun _ => True) floats := by
    refine Json.lawfulElements_iff.mpr fun element member => ?_
    obtain ⟨merge, _, rfl⟩ := List.mem_map.mp member
    trivial
  have added :
      (Json.arr (vocabulary.added.map AddedToken.toJson)).Lawful (fun _ => True) floats := by
    refine Json.lawfulElements_iff.mpr fun element member => ?_
    obtain ⟨token, among, rfl⟩ := List.mem_map.mp member
    have names : List.Nodup (["id", "content", "single_word", "lstrip", "rstrip", "normalized",
      "special"] : List Text) := by decide
    -- The id is the only part that could be too long.
    have short : IsShort token.id := added_short token among
    exact ⟨names, Json.lawfulFields_iff.mpr (by simp [Json.Lawful, short])⟩
  simp only [Vocabulary.loose, List.forall_mem_cons] at loose
  obtain ⟨modelType, eos, bos, pad, unk, size, _⟩ := loose
  have names : List.Nodup ((["vocab", "merges", "added_tokens", "model_type", "eos_token_id",
    "bos_token_id", "pad_token_id", "unk_token_id"] : List Text) ++
      [("vocab_size" : Text)]) := by decide
  unfold toJson interchange
  -- The size stands at the end, and only if there is one.
  split
  · exact ⟨(List.nodup_append.mp names).1, trivial, tokens, trivial, merges, trivial, added,
      trivial, modelType, trivial, eos, trivial, bos, trivial, pad, trivial, unk, trivial⟩
  · exact ⟨names, trivial, tokens, trivial, merges, trivial, added, trivial, modelType, trivial,
      eos, trivial, bos, trivial, pad, trivial, unk, trivial, size, trivial⟩

/-- A vocabulary has a text just if all integers of its document are short. -/
theorem text_eq_ok_iff {vocabulary : Vocabulary} {text : Text} : vocabulary.text = .ok text ↔
    vocabulary.toJson.AllShort ∧ vocabulary.toJson.write Json.plainLayout = text :=
  Json.render_eq_ok_iff

/-- What comes of the text of a vocabulary, and of its bytes in UTF-8, is what comes of its
document, as long as this is lawful. Then there is a text. -/
theorem ofPayload_eq_ofJson {vocabulary : Vocabulary}
    (lawful : vocabulary.toJson.Lawful (fun _ => True) Binary64.ReadsBack) :
    ∃ text, vocabulary.text = .ok text ∧ ofPayload (.text text) = ofJson vocabulary.toJson ∧
      ∀ bytes, Text.utf8 text = .ok bytes → ofPayload (.bytes bytes) = ofJson vocabulary.toJson := by
  refine ⟨_, lawful.text, ?_, fun bytes encoded => ?_⟩
  · have read : Json.ofPayload (.text (vocabulary.toJson.write Json.plainLayout)) =
        .ok vocabulary.toJson := by
      rw [Json.ofPayload, Json.ofText_write Json.plainLayout_reads lawful]
      rfl
    rw [ofPayload, read]
    rfl
  · -- The document is an object, and it has fields whatever the vocabulary holds.
    have read : Json.ofPayload (.bytes bytes) = .ok vocabulary.toJson :=
      Json.ofPayload_utf8 Json.plainLayout_reads lawful encoded
    rw [ofPayload, read]
    rfl

/-- A settled vocabulary is read back from its text, and from the bytes of the text in UTF-8. -/
theorem ofPayload_text {vocabulary : Vocabulary} (settled : vocabulary.Settled)
    (floats : ∀ json ∈ vocabulary.loose, json.Lawful (fun _ => True) Binary64.ReadsBack) :
    ∃ text, vocabulary.text = .ok text ∧ ofPayload (.text text) = .ok vocabulary ∧
      ∀ bytes, Text.utf8 text = .ok bytes → ofPayload (.bytes bytes) = .ok vocabulary := by
  have lawful := toJson_lawful settled.distinct settled.tokens settled.added floats
  -- The model type counts as true, so the default is not taken for it.
  have named : vocabulary.modelType.orElse (.str "unknown") = vocabulary.modelType :=
    if_pos settled.modelType
  have document : ofJson vocabulary.toJson = .ok vocabulary := by
    rw [ofJson_toJson settled.distinct settled.roles, named]
  rw [← document]
  exact ofPayload_eq_ofJson lawful

/-- Whatever document a vocabulary was accepted from, its own text gives it back in every part.

The document is one that a text can spell: no integer of it has more than 4300 digits, the limit for
reading and for writing one, and names are distinct in each object. Then the vocabulary has a text.
Numbers in loosely typed fields are assumed to read back. -/
theorem interchange_fixed_point (data : Json) (vocabulary : Vocabulary)
    (document : data.Lawful (fun _ => True) (Binary64.InRange .double))
    (accepted : ofJson data = .ok vocabulary)
    (floats : ∀ json ∈ vocabulary.loose, json.Lawful (fun _ => True) Binary64.ReadsBack) :
    ∃ text, vocabulary.text = .ok text ∧ ofPayload (.text text) = .ok vocabulary ∧
      ∀ bytes, Text.utf8 text = .ok bytes → ofPayload (.bytes bytes) = .ok vocabulary :=
  ofPayload_text (settled_of_ofJson document accepted) floats

/-- A half, counted in the least positive number. -/
def half : Binary64 :=
  .finite false (twoPow (unitExponent - 1))

/-- A half is written as it is read. -/
theorem half_readsBack : half.ReadsBack := by
  have spelled : NumberLayout.written.text half = ['0', '.', '5'] := by decide +kernel
  have value : Binary64.ofDecimal false ⟨5, -1⟩ = half := by decide +kernel
  -- Both printing the number and reading its digits are evaluated.
  unfold Binary64.ReadsBack
  rw [spelled, ← value]
  rfl

/-- A document with ids of several kinds, both forms of rules, and letters to escape. -/
def sampleDocument : Json :=
  .obj [("vocab", .obj [("\"\\\n", .str " 1_0"), ([.ofNumber 1], .bool true), ("é", .int 7)]),
    ("merges", .arr [.arr [.str "a", .null, .str "b"], .str "c d"]),
    ("added_tokens", .arr [.obj [("content", .null), ("id", .bool false), ("special", .int 3)]]),
    ("model_type", .str ""), ("eos_token_id", .bool true), ("vocab_size", .float half)]

/-- The vocabulary of the document, in which everything is settled. -/
def sample : Vocabulary where
  tokens := [("\"\\\n", 10), ([.ofNumber 1], 1), ("é", 7)]
  merges := ["a b", "c d"]
  added := [⟨0, "None", false, false, false, true, true⟩]
  modelType := .str "unknown"
  roles := ⟨.bool true, .null, .null, .null⟩
  explicitSize := .float half

/-- The document is one that a text can spell. -/
theorem sampleDocument_lawful :
    sampleDocument.Lawful (fun _ => True) (Binary64.InRange .double) := by
  have range : half.InRange .double := Binary64.inRange_twoPow (by decide) false
  have seven : IsShort 7 := isShort_of_digit (by decide)
  have three : IsShort 3 := isShort_of_digit (by decide)
  -- Apart from its three numbers, the document is seen to be lawful by evaluation.
  simp only [sampleDocument, Json.Lawful, Json.LawfulFields, Json.LawfulElements, range, seven,
    three, and_true, true_and]
  decide

/-- The document is accepted, and the vocabulary's text and its bytes give the vocabulary back. -/
theorem interchange_fixed_point_sample :
    sampleDocument.Lawful (fun _ => True) (Binary64.InRange .double) ∧
      ofJson sampleDocument = .ok sample ∧
      (∀ json ∈ sample.loose, json.Lawful (fun _ => True) Binary64.ReadsBack) ∧
      ∃ text bytes, sample.text = .ok text ∧ Text.utf8 text = .ok bytes ∧
        ofPayload (.text text) = .ok sample ∧ ofPayload (.bytes bytes) = .ok sample := by
  have accepted : ofJson sampleDocument = .ok sample := rfl
  have floats : ∀ json ∈ sample.loose, json.Lawful (fun _ => True) Binary64.ReadsBack := by
    simp [loose, sample, Json.Lawful, half_readsBack]
  obtain ⟨text, written, read, bytes⟩ :=
    interchange_fixed_point sampleDocument sample sampleDocument_lawful accepted floats
  refine ⟨sampleDocument_lawful, accepted, floats, ?_⟩
  -- No token of the sample holds a surrogate, so there are bytes to read.
  have encodable : (Text.utf8 (sample.toJson.write Json.plainLayout)).toBool = true := by
    decide +kernel
  obtain ⟨_, rfl⟩ := text_eq_ok_iff.mp written
  cases encoded : Text.utf8 (sample.toJson.write Json.plainLayout) with
  | error surrogates =>
    rw [encoded] at encodable
    cases encodable
  | ok found => exact ⟨_, found, written, encoded, read, bytes found encoded⟩

/-- Reading, writing and reading again is reading, whatever form the document arrived in. -/
theorem ofPayload_ofPayload {payload : Payload} {vocabulary : Vocabulary}
    (accepted : ofPayload payload = .ok vocabulary)
    (floats : ∀ json ∈ vocabulary.loose, json.Lawful (fun _ => True) Binary64.ReadsBack) :
    ∃ text, vocabulary.text = .ok text ∧ ofPayload (.text text) = .ok vocabulary := by
  obtain ⟨data, read, accepted⟩ := bind_eq_ok_iff.mp accepted
  -- A document that was read at all is one that a text can spell.
  have arrived : Json.ofPayload payload = .ok data := mapError_eq_ok_iff.mp read
  obtain ⟨text, written, back, _⟩ :=
    ofPayload_text (settled_of_ofJson (Json.ofPayload_lawful arrived) accepted) floats
  exact ⟨text, written, back⟩

end Vocabulary

end ConstrainedDecoding
