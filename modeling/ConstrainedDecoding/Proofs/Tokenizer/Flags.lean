import ConstrainedDecoding.Proofs.Tokenizer.Bare

/-! The flags of added tokens: what a source says of them, and what they are otherwise. -/

namespace ConstrainedDecoding

/-- The flags of an added token. -/
inductive TokenFlag
  | singleWord
  | lstrip
  | rstrip
  | normalized
  | special

namespace TokenFlag

/-- The name under which an entry gives a flag. -/
def name : TokenFlag → Text
  | singleWord => "single_word"
  | lstrip => "lstrip"
  | rstrip => "rstrip"
  | normalized => "normalized"
  | special => "special"

/-- What a flag is if nothing is said of it: only the one of normalized tokens is set. -/
def default : TokenFlag → Bool
  | normalized => true
  | _ => false

/-- The flag of a token. -/
def value (token : AddedToken) : TokenFlag → Bool
  | singleWord => token.singleWord
  | lstrip => token.lstrip
  | rstrip => token.rstrip
  | normalized => token.normalized
  | special => token.special

/-- The flag is about blanks around a token. -/
def Trims (flag : TokenFlag) : Prop :=
  flag = lstrip ∨ flag = rstrip

end TokenFlag

namespace Live

/-- What an entry gives under a name: a mapping has entries, an object has attributes, and no other
value gives anything. -/
def given? : Live → Text → Option Live
  | dict entries, name => entry? name entries
  | record attributes, name => Fields.get? attributes name
  | _, _ => none

/-- An entry leaves a flag open: it does not give it, or gives it as null. -/
def LeavesOpen (entry : Live) (flag : TokenFlag) : Prop :=
  ∀ value, entry.given? flag.name = some value → value = .null

/-- An entry is no more than a text. -/
def IsBare (entry : Live) : Prop :=
  ∃ text, entry = .str text

/-- What an entry holds under the name of a flag is what it gives, unless it is a bare text and the
flag is about blanks: these are the names of functions that every text has. -/
theorem get_flag (entry : Live) (flag : TokenFlag) :
    entry.get flag.name = (entry.given? flag.name).getD .null ∨
      entry.IsBare ∧ flag.Trims ∧ entry.get flag.name = .call .null := by
  -- Only a text has anything under these names that it was not given, and that for two flags.
  cases entry with
  | dict entries => exact .inl rfl
  | record attributes => exact .inl rfl
  | str text =>
    cases flag with
    | lstrip => exact .inr ⟨⟨text, rfl⟩, .inl rfl, rfl⟩
    | rstrip => exact .inr ⟨⟨text, rfl⟩, .inr rfl, rfl⟩
    | singleWord => exact .inl rfl
    | normalized => exact .inl rfl
    | special => exact .inl rfl
  | _ => cases flag <;> exact .inl rfl

/-- A bare text holds a function under the name of a flag about blanks. -/
theorem IsBare.get_flag {entry : Live} (bare : entry.IsBare) {flag : TokenFlag}
    (trims : flag.Trims) : entry.get flag.name = .call .null := by
  obtain ⟨text, rfl⟩ := bare
  rcases trims with rfl | rfl <;> rfl

/-- A bare text gives nothing. -/
theorem IsBare.leavesOpen {entry : Live} (bare : entry.IsBare) (flag : TokenFlag) :
    entry.LeavesOpen flag := by
  obtain ⟨text, rfl⟩ := bare
  exact nofun

/-- A flag that an entry leaves open is the default, just if the entry is not a bare text or the
flag is not about blanks. -/
theorem flag_of_leavesOpen {entry : Live} {flag : TokenFlag} (leaves : entry.LeavesOpen flag) :
    (entry.get flag.name).flag flag.default = flag.default ↔ ¬(entry.IsBare ∧ flag.Trims) := by
  constructor
  · -- For a bare text both flags about blanks are set.
    rintro same ⟨bare, trims⟩
    rw [bare.get_flag trims] at same
    rcases trims with rfl | rfl <;> cases same
  · intro plain
    rcases entry.get_flag flag with held | ⟨bare, trims, _⟩
    · rw [held]
      cases given : entry.given? flag.name with
      | none => rfl
      | some value =>
        obtain rfl := leaves value given
        rfl
    · exact absurd ⟨bare, trims⟩ plain

/-- A flag that an entry gives is what the value counts as. -/
theorem flag_of_given {entry : Live} {flag : TokenFlag} {value : Live}
    (given : entry.given? flag.name = some value) (some : value ≠ .null) :
    (entry.get flag.name).flag flag.default = value.isTruthy := by
  -- A bare text is given nothing, so the value is looked up as it stands.
  rcases entry.get_flag flag with held | ⟨bare, _, _⟩
  · rw [held, given, Option.getD_some, Live.flag]
    cases value with
    | null => exact absurd rfl some
    | _ => rfl
  · exact absurd (bare.leavesOpen flag value given) some

end Live

/-- The entries for added tokens that a source shows, each with the value that stands for its id.

A list shows mappings and objects, which give their ids themselves. Otherwise there may be a mapping
from ids, which shows mappings, objects and bare texts. -/
inductive ShowsEntries (source : Live) : List (Live × Live) → Prop
  | listed {entries : List Live} (given : (source.get "added_tokens").iterate = .ok entries) :
    ShowsEntries source (entries.map fun entry => (entry.get "id", entry))
  | decoded {decoder entries : List (Live × Live)} (unlisted : source.get "added_tokens" = .null)
    (given : source.get "added_tokens_decoder" = .dict decoder) (all : entries.Perm decoder) :
    ShowsEntries source entries
  | none (unlisted : (source.get "added_tokens").isTruthy = false)
    (undecoded : source.get "added_tokens" = .null →
      (source.get "added_tokens_decoder").isMapping = false) : ShowsEntries source []

/-- An added token is read from an entry: its id is what the value for it stands for, and its flags
are those that are held under their names, or else the defaults. -/
structure AddedToken.ReadsFrom (token : AddedToken) (entry : Live × Live) : Prop where
  id : entry.1.toInt = .ok token.id
  flags : ∀ flag : TokenFlag, flag.value token = (entry.2.get flag.name).flag flag.default

namespace AddedToken

/-- The token that a mapping describes has the id and the flags that stand in the mapping. -/
theorem ofLive_dict {entries : List (Live × Live)} {token : AddedToken}
    (read : ofLive (.dict entries) = .ok token) :
    (∃ id, Live.entry? "id" entries = some id ∧ id.toInt = .ok token.id) ∧
      ∀ flag : TokenFlag, flag.value token =
        ((Live.entry? flag.name entries).getD .null).flag flag.default := by
  obtain ⟨entry, found, read⟩ := bind_eq_ok_iff.mp read
  obtain ⟨id, isInteger, read⟩ := bind_eq_ok_iff.mp read
  obtain ⟨content, _, done⟩ := bind_eq_ok_iff.mp read
  cases done
  -- The id was required, so it stands among the entries.
  refine ⟨⟨entry, ?_, isInteger⟩, fun flag => by cases flag <;> rfl⟩
  unfold required at found
  split at found
  · rename_i given
    cases found
    exact given
  · cases found

/-- A token of a list is read from its entry, whether that is a mapping or an object. -/
theorem readsFrom_of_listed {entry : Live} {token : AddedToken}
    (read : addedToken entry = .ok token) : token.ReadsFrom (entry.get "id", entry) := by
  unfold addedToken at read
  split at read
  · rename_i mapping
    cases entry with
    | dict entries =>
      obtain ⟨⟨id, given, isInteger⟩, flags⟩ := ofLive_dict read
      refine ⟨?_, flags⟩
      show ((Live.entry? "id" entries).getD .null).toInt = _
      rw [given]
      exact isInteger
    | _ => cases mapping
  · -- An object is read as a mapping of its attributes.
    obtain ⟨⟨id, given, isInteger⟩, flags⟩ := ofLive_dict read
    obtain rfl : entry.get "id" = id := Option.some.inj given
    exact ⟨isInteger, fun flag => (flags flag).trans (by cases flag <;> rfl)⟩

/-- A token of a mapping from ids is read from its entry there. -/
theorem readsFrom_of_decoded {entry : Live × Live} {token : AddedToken}
    (read : addedToken (decoderEntry entry.1 entry.2) = .ok token) : token.ReadsFrom entry := by
  obtain ⟨⟨id, given, isInteger⟩, flags⟩ := ofLive_dict read
  obtain rfl : entry.1 = id := Option.some.inj given
  exact ⟨isInteger, fun flag => (flags flag).trans (by cases flag <;> rfl)⟩

end AddedToken

/-- The added tokens of a source are read from the entries that it shows, one by one. -/
theorem addedTokens_readFrom {source : Live} {added : List AddedToken}
    (listed : addedTokens source = .ok added) :
    ∃ entries, ShowsEntries source entries ∧
      List.Forall₂ (fun entry token => AddedToken.ReadsFrom token entry) entries added := by
  obtain ⟨shown, found, read⟩ := bind_eq_ok_iff.mp listed
  have pairs := mapM_eq_ok_iff.mp read
  unfold addedEntries at found
  split at found
  · rename_i unlisted
    split at found
    · rename_i decoder given
      -- The tokens of a mapping are taken in the order of their ids.
      unfold decoderEntries at found
      split at found
      · cases found
        rw [List.forall₂_map_left_iff] at pairs
        exact ⟨_, .decoded unlisted given (List.mergeSort_perm _ _),
          pairs.imp fun _ _ => AddedToken.readsFrom_of_decoded⟩
      · cases found
    · rename_i undecoded
      cases found
      rw [List.forall₂_nil_left_iff] at pairs
      subst pairs
      have noMapping : (source.get "added_tokens_decoder").isMapping = false := by
        cases held : source.get "added_tokens_decoder" with
        | dict decoder => exact absurd held (undecoded decoder)
        | _ => rfl
      exact ⟨[], .none (by rw [unlisted]; rfl) fun _ => noMapping, .nil⟩
  · rename_i given
    split at found
    · refine ⟨_, .listed found, ?_⟩
      rw [List.forall₂_map_left_iff]
      exact pairs.imp fun _ _ => AddedToken.readsFrom_of_listed
    · rename_i falsy
      cases found
      rw [List.forall₂_nil_left_iff] at pairs
      subst pairs
      exact ⟨[], .none (Bool.eq_false_iff.mpr falsy) fun none => absurd none given, .nil⟩

/-- The added tokens of a source are those of the entries that it shows. A flag that an entry gives
is what it is given as. A flag that the entry leaves open is the default, just if the entry is not a
bare text or the flag is not about blanks.

A vocabulary that is taken from the source has these tokens, and then tokens for roles. -/
theorem flags_of_entries {shown : Live} {tokens : List AddedToken}
    (listed : addedTokens shown = .ok tokens) :
    (∃ entries, ShowsEntries shown entries ∧ List.Forall₂ (fun entry token =>
      entry.1.toInt = .ok token.id ∧ ∀ flag : TokenFlag,
        (entry.2.LeavesOpen flag →
          (flag.value token = flag.default ↔ ¬(entry.2.IsBare ∧ flag.Trims))) ∧
        ∀ value, entry.2.given? flag.name = some value → value ≠ .null →
          flag.value token = value.isTruthy) entries tokens) ∧
    ∀ (source : TokenizerSource) (vocabulary : Vocabulary), source.shown = .ok shown →
      source.vocabulary = .ok vocabulary →
        ∃ bares : Fields Int, vocabulary.added = tokens ++ bares.map Draft.bareToken := by
  constructor
  · obtain ⟨entries, shows, read⟩ := addedTokens_readFrom listed
    refine ⟨entries, shows, read.imp fun entry token reads => ?_⟩
    refine ⟨reads.id, fun flag => ⟨fun leaves => ?_, fun value given some => ?_⟩⟩
    · rw [reads.flags flag]
      exact Live.flag_of_leavesOpen leaves
    · rw [reads.flags flag]
      exact Live.flag_of_given given some
  · intro source vocabulary shows accepted
    rw [TokenizerSource.vocabulary_eq_draft] at accepted
    obtain ⟨draft, drafted, made⟩ := bind_eq_ok_iff.mp accepted
    obtain ⟨same, again, _⟩ := TokenizerSource.parts_of_draft drafted
    obtain ⟨_, rfl⟩ := Draft.vocabulary_eq_ok_iff.mp made
    -- The draft has the tokens of what the source shows, and those for roles are put behind them.
    obtain rfl : shown = draft.source := Except.ok.inj (shows.symm.trans same)
    obtain rfl : tokens = draft.added := Except.ok.inj (listed.symm.trans again)
    exact ⟨draft.uncarried, rfl⟩

/-- An entry that is an object, special and with a null flag. -/
def openEntry : Live :=
  .record [("id", .int 1), ("content", .str "<x>"), ("special", .int 1), ("normalized", .null)]

/-- A running tokenizer with the entry for its added token. -/
def openTokenizer : Live :=
  .dict [(.str "vocab", .dict [(.str "a", .int 0)]), (.str "added_tokens", .list [openEntry])]

/-- The token is special, as its entry says, and its other flags are the defaults. -/
theorem flags_of_entries_open :
    ∃ vocabulary token, addedTokens openTokenizer = .ok [token] ∧
      (TokenizerSource.running openTokenizer).vocabulary = .ok vocabulary ∧
      token ∈ vocabulary.added ∧ token.id = 1 ∧ token.special = true ∧
      token.normalized = true ∧ token.singleWord = false ∧ token.lstrip = false ∧
      token.rstrip = false := by
  obtain ⟨vocabulary, accepted⟩ :
      ∃ vocabulary, (TokenizerSource.running openTokenizer).vocabulary = .ok vocabulary := ⟨_, rfl⟩
  obtain ⟨token, listed⟩ : ∃ token, addedTokens openTokenizer = .ok [token] := ⟨_, rfl⟩
  obtain ⟨⟨entries, shows, read⟩, taken⟩ := flags_of_entries listed
  obtain ⟨bares, added⟩ := taken (.running openTokenizer) vocabulary rfl accepted
  have among : token ∈ vocabulary.added := by
    rw [added]
    exact List.mem_cons_self
  cases shows with
  | decoded unlisted => cases unlisted
  | none unlisted => cases unlisted
  | listed given =>
    -- The list has a single entry, which gives one flag and leaves the others open.
    cases given
    obtain ⟨isInteger, flags⟩ := (List.forall₂_cons.mp read).1
    have plain (flag : TokenFlag) : ¬(openEntry.IsBare ∧ flag.Trims) := by
      rintro ⟨⟨text, same⟩, _⟩
      cases same
    have isOpen (flag : TokenFlag) (leaves : openEntry.LeavesOpen flag) :
        flag.value token = flag.default := ((flags flag).1 leaves).mpr (plain flag)
    have special : token.special = true := (flags .special).2 (.int 1) rfl nofun
    have normalized : token.normalized = true := isOpen .normalized (by rintro _ ⟨⟩; rfl)
    exact ⟨vocabulary, token, listed, accepted, among, (Except.ok.inj isInteger).symm, special,
      normalized, isOpen .singleWord nofun, isOpen .lstrip nofun, isOpen .rstrip nofun⟩

/-- A running tokenizer that shows an added token by its id and its text alone. -/
def bareTextTokenizer : Live :=
  .dict [(.str "vocab", .dict [(.str "a", .int 0)]),
    (.str "added_tokens_decoder", .dict [(.int 1, .str "</s>")])]

/-- The added token of the bare text has both flags about blanks. -/
theorem addedTokens_bareText :
    addedTokens bareTextTokenizer = .ok [⟨1, "</s>", false, true, true, true, false⟩] := by
  -- There is one entry, so there is nothing to put in order.
  have entries : addedEntries bareTextTokenizer = .ok [decoderEntry (.int 1) (.str "</s>")] := by
    show decoderEntries [(.int 1, .str "</s>")] = _
    simp [decoderEntries, show Live.areOrdered [Live.int 1] = true from rfl]
  rw [addedTokens, entries]
  rfl

/-- The draft of the tokenizer that shows an added token by its id and its text alone. -/
def bareTextDraft : Draft where
  source := bareTextTokenizer
  tokens := [("a", 0)]
  merges := []
  added := [⟨1, "</s>", false, true, true, true, false⟩]
  modelType := "unknown"
  size := .null

/-- The tokenizer has this draft. -/
theorem draftOfRunning_bareText : draftOfRunning bareTextTokenizer = .ok bareTextDraft := by
  simp only [draftOfRunning, addedTokens_bareText]
  rfl

/-- A bare text leaves both flags about blanks open, and the token has them set. -/
theorem bare_text_trimmed :
    ∃ vocabulary token, (TokenizerSource.running bareTextTokenizer).vocabulary = .ok vocabulary ∧
      ShowsEntries bareTextTokenizer [(.int 1, .str "</s>")] ∧
      Live.LeavesOpen (.str "</s>") .lstrip ∧ Live.LeavesOpen (.str "</s>") .rstrip ∧
      vocabulary.added = [token] ∧ token.id = 1 ∧ token.lstrip = true ∧ token.rstrip = true := by
  obtain ⟨vocabulary, made⟩ : ∃ vocabulary, bareTextDraft.vocabulary = .ok vocabulary := ⟨_, rfl⟩
  have accepted : (TokenizerSource.running bareTextTokenizer).vocabulary = .ok vocabulary := by
    rw [TokenizerSource.vocabulary_eq_draft, TokenizerSource.draft, draftOfRunning_bareText]
    exact made
  have bare : (Live.str "</s>").IsBare := ⟨"</s>", rfl⟩
  -- The vocabulary is known by now, and its only added token can be read off.
  cases made
  exact ⟨_, ⟨1, "</s>", false, true, true, true, false⟩, accepted, .decoded rfl rfl (.refl _),
    bare.leavesOpen .lstrip, bare.leavesOpen .rstrip, rfl, rfl, rfl, rfl⟩

end ConstrainedDecoding
