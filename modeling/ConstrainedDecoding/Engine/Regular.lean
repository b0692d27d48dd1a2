import ConstrainedDecoding.Engine.Basic
import ConstrainedDecoding.Json.Reader
import ConstrainedDecoding.Regular.Rules
import ConstrainedDecoding.Regular.Values

/-! An engine for grammars whose languages are regular. -/

namespace ConstrainedDecoding

/-- A matcher that follows a language. -/
structure RegularMatcher where
  table : ByteTable
  start : Regular
  /-- What may still follow. -/
  rest : Regular
  /-- Nothing was taken yet. -/
  fresh : Bool
  /-- The end of text was taken before the matcher was finished. -/
  stopped : Bool
  error : Text

namespace RegularMatcher

/-- A text may end here. -/
def accepting (matcher : RegularMatcher) : Bool :=
  matcher.error.isEmpty && matcher.rest.isNullable

/-- The bytes of a token that spells something. -/
def tokenText? (matcher : RegularMatcher) (token : Int) : Option Bytes :=
  if token < 0 || matcher.table.special.contains token then none
  else matcher.table.tokens[token.toNat]?.filter fun bytes => !bytes.isEmpty

/-- What may follow a token, if the token itself may follow. -/
def next? (matcher : RegularMatcher) (token : Int) : Option Regular :=
  if matcher.stopped then none
  else ((matcher.tokenText? token).map matcher.rest.after).filter Regular.isInhabited

/-- A token was taken, and then only the end may follow. -/
def isFinished (matcher : RegularMatcher) : Bool :=
  !matcher.fresh && matcher.rest.isNullable && !matcher.rest.isExtendable

/-- Why the matcher has stopped. -/
def stopReason (matcher : RegularMatcher) : Text :=
  if !matcher.error.isEmpty then "InternalError"
  else if matcher.stopped then "EndOfSentence"
  else if matcher.isFinished then "NoExtension"
  else "NotStopped"

/-- The matcher after a token that it does not take. -/
def reject (matcher : RegularMatcher) : RegularMatcher :=
  { matcher with error := "token not admitted" }

/-- Whether the matcher takes a token, and the matcher after that. -/
def consume (token : Int) (matcher : RegularMatcher) : Bool × RegularMatcher :=
  if !matcher.error.isEmpty then (false, matcher)
  else if token = matcher.table.eos then
    if !matcher.accepting then (false, matcher.reject)
    else if matcher.isFinished then (false, matcher)
    else (true, { matcher with stopped := true })
  else match matcher.next? token with
    | some rest => (true, { matcher with rest, fresh := false })
    | none => (false, matcher.reject)

/-- The words of the matcher's bitmask. -/
def words (matcher : RegularMatcher) : List Int :=
  packWords (wordCount matcher.table) fun token =>
    if matcher.table.eos == token then matcher.accepting else (matcher.next? token).isSome

/-- The matcher back at its start. -/
def rewind (matcher : RegularMatcher) : RegularMatcher :=
  { matcher with rest := matcher.start, fresh := true, stopped := false }

end RegularMatcher

namespace Regular

/-- The beginning of the engine text of a grammar of a kind. -/
def kindMark (kind : Text) : Text :=
  kind ++ ":"

/-- The language of an engine text: a kind, a colon and the text of the grammar. -/
def ofEngineText? (text : Text) : Option Regular :=
  match Text.after? (kindMark "regex") text with
  | some pattern => (Text.chars? pattern).bind ofPattern?
  | none =>
    match Text.after? (kindMark "lark") text with
    | some rules => (Text.chars? rules).bind ofRules?
    | none =>
      match Text.after? (kindMark "json_schema") text with
      | some schema => (Json.ofText schema).toOption.bind ofSchema?
      | none => none

/-- A matcher at the start of an engine text. -/
def matcher (table : ByteTable) (text : Text) : RegularMatcher :=
  let language := (ofEngineText? text).getD nothing
  ⟨table, language, language, true, false, []⟩

/-- What is wrong with an engine text. -/
def problem (text : Text) : Text :=
  if (ofEngineText? text).isSome then [] else "not a grammar of this engine"

/-- The engine for regular languages. -/
def engine : Engine RegularMatcher where
  accepts _ := .ok ()
  convert kind text := .ok (kindMark kind ++ text)
  validate _ := problem
  matcher table text _ := matcher table text
  error := RegularMatcher.error
  accepting := RegularMatcher.accepting
  stopReason := RegularMatcher.stopReason
  consume := RegularMatcher.consume
  rewind := RegularMatcher.rewind
  words := RegularMatcher.words

end Regular

end ConstrainedDecoding
