import ConstrainedDecoding.Json.Reader
import ConstrainedDecoding.Live.Display

/-! What can go wrong, by cause and in words, and what operations leave behind. -/

namespace ConstrainedDecoding

/-- Why a serialized tokenizer is not accepted. -/
inductive FileProblem where
  | unreadable (error : Json.ReadError)
  | undecodable
  | notObject
  | noVocabulary

/-- Why a value is refused although its kind is right. -/
inductive ValueProblem where
  | tokenId (token id : Json)
  | roleId (role : Text) (id : Json)
  | merge (given : Live)
  | integerText (given : Text)
  | integerDigits (count : Nat)
  /-- An integer has more digits than one is written with. -/
  | longInteger
  | pairLength (position found : Nat)
  | addressKind (address : Text)
  | nullByte
  | notANumber
  | tooManyItems
  | tooFewItems (count : Nat)
  | startRule (rule : Json)
  | grammarKind (kind : Json)
  | grammarType (kind : Json)
  | fileSuffix (suffix : Text)
  | depth (given : Int)
  | maskShape (found expected : Nat)
  | scoreShape (shape : List Nat)
  | reported (text : Text)

/-- Why a value of the wrong kind is refused. -/
inductive TypeProblem where
  | schema (kind : Text)
  | description (kind : Text)
  | depth (kind : Text)
  | session (kind : Text)
  | copying
  | serializing
  | operand (text : Text)

/-- A failure of any part of the library, or of the machinery it drives. -/
inductive Fault where
  /-- A tokenizer shows no vocabulary. -/
  | missingVocabulary
  /-- A serialized tokenizer is not accepted. -/
  | tokenizerFile (problem : FileProblem)
  /-- A grammar is malformed. -/
  | compilation (text : Text)
  /-- A vocabulary does not fit the grammar engine. -/
  | incompatible (text : Text)
  /-- A tokenizer could not be retrieved. -/
  | fetch (text : Text) (status url : Json)
  /-- A token was reported that the grammar does not admit. -/
  | inadmissible (token : Json) (detail : Option Text)
  /-- A session failed earlier and was not reset since. -/
  | poisoned (cause : Text)
  /-- A session is bound to another owner. -/
  | owned
  /-- Two calls overlap in one session. -/
  | concurrent
  | invalid (problem : ValueProblem)
  | unreadable (error : Json.ReadError)
  | undecodable
  | unencodable (surrogates : Text.Unencodable)
  | missingKey (key : Text)
  | mistyped (problem : TypeProblem)
  | noAttribute (text : Text)
  | overflow (text : Text)
  | outOfRange (text : Text)
  | broken (text : Text)
  | asserted (text : Text)
  | noFile
  | directory
  | nameTooLong
  /-- A text that shall be an address is none. -/
  | address (text : Text)
  /-- A failure that only the machinery around the library knows, by the name it goes by there. -/
  | foreign (name text : Text)

/-- The kinds of grammar that can be named. -/
def grammarKinds : List Text := ["json_schema", "regex", "lark"]

/-- A list of names in a message. -/
def commaSeparated (names : List Text) : Text :=
  Text.joinWith ", " names

/-- The extents of a score array as messages show them. -/
def shapeText (shape : List Nat) : Text :=
  match shape with
  | [extent] => "(" ++ toString extent ++ ",)"
  | extents => "(" ++ commaSeparated (extents.map fun extent => (toString extent : Text)) ++ ")"

/-- The wording of a reason to refuse a tokenizer file. -/
def FileProblem.message : FileProblem → Text
  | unreadable error => "Invalid tokenizer.json: " ++ error.message
  | undecodable => "Invalid tokenizer.json: not text"
  | notObject => "Invalid tokenizer.json: expected a JSON object"
  | noVocabulary => "Invalid tokenizer.json: missing model.vocab"

/-- The wording of a reason to refuse a value. -/
def ValueProblem.message : ValueProblem → Text
  | tokenId token id =>
    "Token " ++ token.shown ++ " has invalid id " ++ id.shown
  | roleId role id =>
    role ++ " token id " ++ id.display ++ " is neither in the vocabulary nor an added token"
  | merge given => "merge must be a string or a list of strings, got " ++ given.shown
  | integerText given =>
    -- Only so much of the text is shown, even if that leaves its closing mark out.
    "invalid literal for int() with base 10: " ++ (Text.quoted given).take 200
  | integerDigits count => Text.tooManyDigits (some count)
  | longInteger => Text.tooManyDigits none
  | pairLength position found =>
    "dictionary update sequence element #" ++ toString position ++ " has length " ++
      toString found ++ "; 2 is required"
  | addressKind address => "unknown url type: " ++ Text.quoted address
  | nullByte => "embedded null byte"
  | notANumber => "cannot convert float NaN to integer"
  | tooManyItems => "too many values to unpack (expected 2)"
  | tooFewItems count => "not enough values to unpack (expected 2, got " ++ toString count ++ ")"
  | startRule rule =>
    "Grammar already defines 'start'; cannot use start rule '" ++ rule.display ++ "'"
  | grammarKind kind =>
    "Invalid grammar kind '" ++ kind.display ++ "'. Must be one of " ++
      commaSeparated grammarKinds ++ "."
  | grammarType kind =>
    "Invalid grammar type " ++ kind.shown ++ ". Must be one of " ++ commaSeparated grammarKinds ++ "."
  | fileSuffix suffix => "Cannot infer grammar kind from file suffix '" ++ suffix ++ "'"
  | depth given => "speculation_depth must be >= 1, got " ++ toString given
  | maskShape found expected =>
    "Oracle returned a mask of shape (" ++ toString found ++ ",), expected (" ++
      toString expected ++ ",)"
  | scoreShape shape => "scores must be one-dimensional, got shape " ++ shapeText shape
  | reported text => text

/-- The wording of a reason to refuse a kind of value. -/
def TypeProblem.message : TypeProblem → Text
  | schema kind => "schema must be a mapping, got " ++ kind
  | description kind => "Unsupported grammar description: " ++ kind
  | depth kind => "speculation_depth must be an int, got " ++ kind
  | session kind => "session must be a GrammarSession instance, got " ++ kind
  | copying => "GrammarSession cannot be copied; create one session per stream"
  | serializing => "GrammarSession cannot be pickled"
  | operand text => text

/-- The wording for a token that is not admitted, unless the engine gave its own. -/
def inadmissibleMessage (token : Json) (detail : Option Text) : Text :=
  match detail.filter (!·.isEmpty) with
  | some text => text
  | none => "Token " ++ token.display ++ " is not admissible at the current grammar state"

/-- The wording for surrogates that no bytes stand for. -/
def unencodableMessage (surrogates : Text.Unencodable) : Text :=
  let first := surrogates.start
  if surrogates.count = 1 then
    "'utf-8' codec can't encode character '" ++
      Text.ofChars (Text.numberedEscape surrogates.first.number) ++ "' in position " ++
      toString first ++ ": surrogates not allowed"
  else
    "'utf-8' codec can't encode characters in position " ++ toString first ++ "-" ++
      toString (first + surrogates.count - 1) ++ ": surrogates not allowed"

/-- The wording of a failure. -/
def Fault.message : Fault → Text
  | missingVocabulary =>
    "Unable to extract vocabulary from tokenizer. " ++
      "Expected get_vocab(), model.tokens_to_ids, model.vocab or vocab."
  | tokenizerFile problem => problem.message
  | compilation text => text
  | incompatible text => text
  | fetch text _ _ => text
  | inadmissible token detail => inadmissibleMessage token detail
  | poisoned cause => "Session must be reset before reuse: " ++ cause
  | owned => "GrammarSession is already bound to another processor; create one session per stream"
  | concurrent => "GrammarSession.advance called concurrently; use one session per stream"
  | invalid problem => problem.message
  | unreadable error => error.message
  | undecodable => "not text"
  | unencodable surrogates => unencodableMessage surrogates
  | missingKey key => Text.quoted key
  | mistyped problem => problem.message
  | noAttribute text => text
  | overflow text => text
  | outOfRange text => text
  | broken text => text
  | asserted text => text
  | noFile => "No such file or directory"
  | directory => "Is a directory"
  | nameTooLong => "File name too long"
  | address text => text
  | foreign _ text => text

/-- A failure to find a position in a list. -/
def Fault.badIndex : Fault :=
  .outOfRange "list index out of range"

/-- A failure of an operation on a kind of value that it does not apply to. -/
def Fault.operand (text : Text) : Fault :=
  .mistyped (.operand text)

/-- An answer, or why there is none, and the state left behind either way. -/
structure Turn (σ α : Type) where
  answer : Except Fault α
  state : σ

/-- How serious a record is. -/
inductive Level where
  | debug
  | info
  | warning
  deriving DecidableEq

/-- A remark for whoever runs the program. -/
structure Record where
  level : Level
  text : Text
  deriving DecidableEq

end ConstrainedDecoding
