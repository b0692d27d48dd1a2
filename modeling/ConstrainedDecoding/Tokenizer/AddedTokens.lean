import ConstrainedDecoding.Live.Compare
import ConstrainedDecoding.Vocabulary.AddedToken
import ConstrainedDecoding.Vocabulary.Interchange

/-! The added tokens of a tokenizer, in any of the shapes in which it may show them. -/

namespace ConstrainedDecoding

/-- The flags of an added token by name. -/
def tokenFlags : List Text := ["single_word", "lstrip", "rstrip", "normalized", "special"]

/-- What an entry holds under names, null where it holds nothing. -/
def fieldsOfEntry (entry : Live) (names : List Text) : List (Live × Live) :=
  names.map fun name => (.str name, entry.get name)

/-- A token known by its id, as a mapping. A token without content is its own content. -/
def decoderEntry (id token : Live) : Live :=
  let content := (token.lookup? "content").getD (.str token.display)
  .dict ((.str "id", id) :: (.str "content", content) :: fieldsOfEntry token tokenFlags)

/-- The tokens of a mapping from ids, in the order of the ids. -/
def decoderEntries (decoder : List (Live × Live)) : Except Fault (List Live) :=
  if Live.areOrdered (decoder.map (·.1)) then
    .ok ((decoder.mergeSort fun left right => Live.keyLe left.1 right.1).map fun entry =>
      decoderEntry entry.1 entry.2)
  else .error (.operand "ids of different kinds have no order")

/-- The entries that a source shows for its added tokens. -/
def addedEntries (source : Live) : Except Fault (List Live) :=
  match source.get "added_tokens" with
  | .null =>
    match source.get "added_tokens_decoder" with
    | .dict decoder => decoderEntries decoder
    | _ => .ok []
  | entries => if entries.isTruthy then entries.iterate else .ok []

/-- The added token of an entry. One that is not a mapping is read by its attributes. -/
def addedToken (entry : Live) : Except Fault AddedToken :=
  if entry.isMapping then AddedToken.ofLive entry
  else AddedToken.ofLive (.dict (fieldsOfEntry entry ("id" :: "content" :: tokenFlags)))

/-- The added tokens of a source. -/
def addedTokens (source : Live) : Except Fault (List AddedToken) := do
  (← addedEntries source).mapM addedToken

end ConstrainedDecoding
