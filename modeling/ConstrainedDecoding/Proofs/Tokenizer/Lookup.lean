import ConstrainedDecoding.Proofs.Tokenizer.File
import ConstrainedDecoding.Proofs.Tokenizer.Resolution
import ConstrainedDecoding.Tokenizer.Running

/-! The token strings of roles, looked up in the vocabulary that a tokenizer is normalized to. -/

namespace ConstrainedDecoding

/-- What vocabularies are taken from: a running tokenizer, a serialized one, or the text or the
bytes of a serialized one. -/
inductive TokenizerSource
  | running (tokenizer : Live)
  | file (document : Json)
  | payload (given : Payload)

namespace TokenizerSource

/-- The draft of the vocabulary in a source. -/
def draft : TokenizerSource → Except Fault Draft
  | running tokenizer => draftOfRunning tokenizer
  | file document => draftOfFile document
  | payload given => do draftOfFile (← (Json.ofPayload given).mapError payloadProblem)

/-- The vocabulary in a source, as it is taken from it. -/
def vocabulary : TokenizerSource → Except Fault Vocabulary
  | running tokenizer => (extractVocabulary tokenizer).answer
  | file document => (readTokenizer document).answer
  | payload given => (readTokenizerPayload given).answer

/-- The value in which a source shows what it holds. -/
def shown : TokenizerSource → Except Fault Live
  | running tokenizer => .ok tokenizer
  | file document => .ok document.live
  | payload given => do return (← (Json.ofPayload given).mapError payloadProblem).live

/-- The draft of a running tokenizer is made of what it shows. -/
theorem exists_of_draftOfRunning {tokenizer : Live} {draft : Draft}
    (drafted : draftOfRunning tokenizer = .ok draft) :
    ∃ (listing : Live) (ids : Fields Int) (merges : List Text) (added : List AddedToken),
      tokenMap listing = .ok ids ∧ addedTokens tokenizer = .ok added ∧
      draft =
        ⟨tokenizer, ids, merges, added, if merges.isEmpty then "unknown" else "bpe", .null⟩ := by
  -- Each part is read after the one before it, and none of them may fail.
  obtain ⟨listing, _, drafted⟩ := bind_eq_ok_iff.mp drafted
  obtain ⟨ids, mapped, drafted⟩ := bind_eq_ok_iff.mp drafted
  obtain ⟨_, _, drafted⟩ := bind_eq_ok_iff.mp drafted
  obtain ⟨merges, _, drafted⟩ := bind_eq_ok_iff.mp drafted
  obtain ⟨added, listed, done⟩ := bind_eq_ok_iff.mp drafted
  cases done
  exact ⟨listing, ids, merges, added, mapped, listed, rfl⟩

/-- The draft of a source looks its roles up in what the source shows, has its added tokens, and has
its base tokens from some listing of them. -/
theorem parts_of_draft {source : TokenizerSource} {draft : Draft}
    (drafted : source.draft = .ok draft) :
    source.shown = .ok draft.source ∧ addedTokens draft.source = .ok draft.added ∧
      ∃ listing, tokenMap listing = .ok draft.tokens := by
  -- A payload is a file once it is read, and otherwise the parts are those of the source.
  cases source with
  | running tokenizer =>
    obtain ⟨listing, ids, merges, added, mapped, listed, rfl⟩ := exists_of_draftOfRunning drafted
    exact ⟨rfl, listed, listing, mapped⟩
  | file document =>
    obtain ⟨fields, model, tokens, merges, ids, added, rfl, _, _, mapped, listed, rfl⟩ :=
      exists_of_draftOfFile drafted
    exact ⟨rfl, listed, _, mapped⟩
  | payload given =>
    obtain ⟨document, read, drafted⟩ := bind_eq_ok_iff.mp drafted
    obtain ⟨fields, model, tokens, merges, ids, added, rfl, _, _, mapped, listed, rfl⟩ :=
      exists_of_draftOfFile drafted
    refine ⟨?_, listed, _, mapped⟩
    rw [shown, read]
    rfl

/-- The vocabulary in a document is that of its draft. -/
theorem answer_readTokenizer (document : Json) :
    (readTokenizer document).answer = draftOfFile document >>= Draft.vocabulary := by
  rw [readTokenizer]
  cases draftOfFile document <;> rfl

/-- The vocabulary in a running tokenizer is that of its draft. -/
theorem answer_extractVocabulary (tokenizer : Live) :
    (extractVocabulary tokenizer).answer = draftOfRunning tokenizer >>= Draft.vocabulary := by
  rw [extractVocabulary]
  -- Records are written meanwhile, and they do not show in the answer.
  cases draftOfRunning tokenizer with
  | error fault => rfl
  | ok draft =>
    cases made : draft.vocabulary with
    | error fault => simp [made, Bind.bind, Except.bind]
    | ok vocabulary => simp [made, Bind.bind, Except.bind]

/-- The vocabulary in a source is that of its draft, whatever the source. -/
theorem vocabulary_eq_draft (source : TokenizerSource) :
    source.vocabulary = source.draft >>= Draft.vocabulary := by
  -- A payload is read as the document that it holds.
  cases source with
  | file document => exact answer_readTokenizer document
  | running tokenizer => exact answer_extractVocabulary tokenizer
  | payload given =>
    show (readTokenizerPayload given).answer = _
    rw [draft, readTokenizerPayload]
    cases Json.ofPayload given with
    | error error => rfl
    | ok document => exact answer_readTokenizer document

end TokenizerSource

/-- In each order of added tokens that has one with a content, there is a first one. -/
theorem firstId?_reverse_isSome (added : List AddedToken) (content : Text) :
    (firstId? added.reverse content).isSome = (firstId? added content).isSome := by
  rw [Bool.eq_iff_iff, firstId?, firstId?, Option.isSome_map, Option.isSome_map,
    List.find?_isSome, List.find?_isSome]
  simp only [List.mem_reverse]

namespace Draft

variable {draft : Draft} {vocabulary : Vocabulary} {content : Text} {id : Int}

/-- The base token of a vocabulary with a content is that of its draft. -/
theorem get?_naturalTokens (natural : ∀ token ∈ draft.tokens, 0 ≤ token.2) (content : Text) :
    (draft.naturalTokens.get? content).map Int.ofNat = draft.tokens.get? content := by
  conv_rhs => rw [← map_naturalTokens natural, Fields.get?, List.find?_map, Option.map_map]
  rw [Fields.get?, Option.map_map]
  rfl

/-- In the vocabulary of a draft, a token string that the source has an id for is that of the base
token, or else of the first added token with this content. -/
theorem lookup?_of_found (made : draft.vocabulary = .ok vocabulary)
    (found : draft.found? content = some id) :
    vocabulary.lookup? content =
      (draft.tokens.get? content).or (firstId? draft.added content) := by
  obtain ⟨natural, rfl⟩ := vocabulary_eq_ok_iff.mp made
  have base := get?_naturalTokens natural content
  rw [Vocabulary.lookup?]
  cases held : draft.naturalTokens.get? content with
  | some id =>
    rw [held] at base
    rw [← base]
    rfl
  | none =>
    rw [held] at base
    rw [found?, ← base] at found
    -- An added token of the source has this content, so those appended to them do not matter.
    have added : (firstId? draft.added content).isSome := by
      rw [← firstId?_reverse_isSome]
      exact Option.isSome_of_mem found
    obtain ⟨first, located⟩ := Option.isSome_iff_exists.mp added
    obtain ⟨token, met, carries⟩ := Option.map_eq_some_iff.mp located
    rw [← base, located, allAdded, List.find?_append, met, ← carries]
    rfl

/-- A token string that the source has an id for has this id in the vocabulary of the draft too, if
it is that of a base token, or if the first and the last added token with it have the same id. -/
theorem lookup?_eq_found_iff (made : draft.vocabulary = .ok vocabulary)
    (found : draft.found? content = some id) :
    vocabulary.lookup? content = some id ↔
      (draft.tokens.get? content).isSome ∨
        firstId? draft.added content = firstId? draft.added.reverse content := by
  rw [lookup?_of_found made found, ← found, found?]
  cases draft.tokens.get? content <;> simp

/-- A token string that a role is resolved through is one that the source has an id for. -/
theorem ResolvedThrough.found {role : Text} (through : draft.ResolvedThrough role content id) :
    draft.found? content = some id := by
  cases through with
  | named _ _ found => exact found
  | spelled _ _ _ _ found => exact found

end Draft

/-- A role that is resolved through a token string has the id that the vocabulary gives for this
string, unless there is no such base token and the added tokens repeat it with different ids.

Then the role has the id of the last of them, and the vocabulary gives that of the first. -/
theorem resolved_role_looked_up_iff {source : TokenizerSource} {vocabulary : Vocabulary}
    (accepted : source.vocabulary = .ok vocabulary) :
    ∃ draft, source.draft = .ok draft ∧ ∀ role ∈ specialRoles, ∀ content id,
      draft.ResolvedThrough role content id →
        vocabulary.roles.named.get? role = some (.int id) ∧
        vocabulary.lookup? content =
          (draft.tokens.get? content).or (firstId? draft.added content) ∧
        (vocabulary.lookup? content = some id ↔ (draft.tokens.get? content).isSome ∨
          firstId? draft.added content = firstId? draft.added.reverse content) := by
  rw [TokenizerSource.vocabulary_eq_draft] at accepted
  obtain ⟨draft, drafted, made⟩ := bind_eq_ok_iff.mp accepted
  refine ⟨draft, drafted, fun role special content id through => ?_⟩
  -- The vocabulary is the one that the draft is built into, with the roles of the draft.
  have natural := Draft.exists_vocabulary_iff.mp ⟨_, made⟩
  have recorded : vocabulary.roles = draft.roleIds := by
    obtain rfl := Except.ok.inj ((Draft.vocabulary_eq natural).symm.trans made)
    rfl
  refine ⟨?_, Draft.lookup?_of_found made through.found,
    Draft.lookup?_eq_found_iff made through.found⟩
  rw [recorded, Draft.named_roleIds special, Draft.resolved_iff.mp (.through through)]
  rfl

/-- A running tokenizer with the token "a", and with added tokens that all end a text. -/
def endingTokenizer (ids : List Int) : Live :=
  .dict [(.str "vocab", .dict [(.str "a", .int 0)]),
    (.str "added_tokens",
      .list (ids.map fun id => .dict [(.str "id", .int id), (.str "content", .str "</s>")]))]

/-- The draft of the tokenizer with added tokens that all end a text. -/
def endingDraft (ids : List Int) : Draft where
  source := endingTokenizer ids
  tokens := [("a", 0)]
  merges := []
  added := ids.map fun id => ⟨id, "</s>", false, false, false, true, false⟩
  modelType := "unknown"
  size := .null

/-- The end of a text is resolved through its first usual spelling. -/
theorem endingDraft_eos {ids : List Int} {id : Int}
    (found : (endingDraft ids).found? "</s>" = some id) :
    (endingDraft ids).ResolvedThrough "eos" "</s>" id := by
  -- The spelling is the first one that is tried.
  obtain ⟨others, usual⟩ :
      ∃ others, (conventionalSpellings.get? "eos").getD [] = [] ++ ("</s>" : Text) :: others :=
    ⟨_, rfl⟩
  exact .spelled (Draft.unstated_iff.mpr rfl) (Draft.unnamed_iff.mpr rfl) usual nofun found

/-- A single token that ends a text is the end, and the vocabulary gives its id. -/
theorem resolved_role_looked_up_single :
    ∃ vocabulary, (TokenizerSource.running (endingTokenizer [1])).vocabulary = .ok vocabulary ∧
      vocabulary.roles.named.get? "eos" = some (.int 1) ∧
      vocabulary.lookup? "</s>" = some 1 := by
  obtain ⟨vocabulary, accepted⟩ :
      ∃ vocabulary, (TokenizerSource.running (endingTokenizer [1])).vocabulary = .ok vocabulary :=
    ⟨_, rfl⟩
  obtain ⟨draft, drafted, agrees⟩ := resolved_role_looked_up_iff accepted
  -- There is one added token only, so the first one and the last one are the same.
  have drawn : draft = endingDraft [1] := Except.ok.inj (drafted.symm.trans rfl)
  subst drawn
  obtain ⟨recorded, _, same⟩ := agrees "eos" (by decide) "</s>" 1 (endingDraft_eos rfl)
  exact ⟨vocabulary, accepted, recorded, same.mpr (.inr rfl)⟩

/-- Of two tokens that end a text the last one is the end, and the vocabulary gives the first. -/
theorem doubled_end_looked_up_apart :
    ∃ draft vocabulary, (TokenizerSource.running (endingTokenizer [1, 2])).draft = .ok draft ∧
      (TokenizerSource.running (endingTokenizer [1, 2])).vocabulary = .ok vocabulary ∧
      draft.ResolvedThrough "eos" "</s>" 2 ∧
      vocabulary.roles.named.get? "eos" = some (.int 2) ∧
      vocabulary.lookup? "</s>" = some 1 :=
  ⟨endingDraft [1, 2], _, rfl, rfl, endingDraft_eos rfl, rfl, rfl⟩

end ConstrainedDecoding
