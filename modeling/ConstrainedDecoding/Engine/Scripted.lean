import ConstrainedDecoding.Engine.Basic

/-! An engine that follows a script: the states and edges of each grammar are written down. -/

namespace ConstrainedDecoding

/-- A grammar of the script, or what the engine shall find wrong with it at each stage. -/
structure ScriptedGrammar where
  convertError : Option Text
  invalid : Text
  broken : Text
  edges : List (List (Int × Nat))
  accept : List Nat
  /-- The engine takes the end of text itself where a text may end. -/
  takesEnd : Bool
  /-- The bits beyond the vocabulary are set. -/
  dirty : Bool

/-- A script: grammars by engine text, and a failure for every vocabulary. -/
structure Script where
  refusal : Option Fault
  grammars : Fields ScriptedGrammar

/-- A matcher that follows a grammar of a script. -/
structure ScriptedMatcher where
  table : ByteTable
  grammar : ScriptedGrammar
  state : Nat
  stopped : Bool
  error : Text

/-- A grammar that admits nothing. -/
def ScriptedGrammar.barren : ScriptedGrammar := ⟨none, [], [], [], [], false, false⟩

namespace ScriptedMatcher

/-- The edges out of the matcher's state. -/
def edges (matcher : ScriptedMatcher) : List (Int × Nat) :=
  matcher.grammar.edges.getD matcher.state []

/-- Where a token leads. -/
def target? (matcher : ScriptedMatcher) (token : Int) : Option Nat :=
  (matcher.edges.find? fun edge => edge.1 == token).map (·.2)

/-- A text may end here. -/
def accepting (matcher : ScriptedMatcher) : Bool :=
  matcher.error.isEmpty && matcher.grammar.accept.contains matcher.state

/-- Why the matcher has stopped. -/
def stopReason (matcher : ScriptedMatcher) : Text :=
  if !matcher.error.isEmpty then "InternalError"
  else if matcher.stopped then "EndOfSentence"
  else if matcher.edges.isEmpty then "NoExtension"
  else "NotStopped"

/-- The edge that a token can still take. -/
def openTarget? (matcher : ScriptedMatcher) (token : Int) : Option Nat :=
  if matcher.stopped then none else matcher.target? token

/-- Whether the matcher takes a token, and the matcher after that. -/
def consume (token : Int) (matcher : ScriptedMatcher) : Bool × ScriptedMatcher :=
  if !matcher.error.isEmpty then (false, matcher)
  else match matcher.openTarget? token with
    | some state => (true, { matcher with state })
    | none =>
      if token = matcher.table.eos && matcher.accepting then
        if matcher.grammar.takesEnd then (true, { matcher with stopped := true })
        else (false, matcher)
      else
        let error : Text := "token " ++ toString token ++ " rejected in state " ++ toString matcher.state
        (false, { matcher with error })

/-- The words of the matcher's bitmask. -/
def words (matcher : ScriptedMatcher) : List Int :=
  packWords (wordCount matcher.table) fun token =>
    (matcher.target? token).isSome || (matcher.accepting && matcher.table.eos == token) ||
      (matcher.grammar.dirty && matcher.table.tokens.length ≤ token)

end ScriptedMatcher

namespace Script

/-- What is wrong with an engine text. -/
def validate (script : Script) (text : Text) : Text :=
  match script.grammars.get? text with
  | some grammar => grammar.invalid
  | none => "unknown grammar " ++ text

/-- The engine text of a grammar: its kind and its text. -/
def convert (script : Script) (kind text : Text) : Except Text Text :=
  let converted := kind ++ ":" ++ text
  match (script.grammars.get? converted).bind (·.convertError) with
  | some error => .error error
  | none => .ok converted

/-- A matcher at the start of a grammar of the script. -/
def matcher (script : Script) (table : ByteTable) (text : Text) : ScriptedMatcher :=
  let grammar := (script.grammars.get? text).getD .barren
  ⟨table, grammar, 0, false, grammar.broken⟩

/-- The engine that follows the script. -/
def engine (script : Script) : Engine ScriptedMatcher where
  accepts _ := match script.refusal with
    | some fault => .error fault
    | none => .ok ()
  convert := script.convert
  validate _ := script.validate
  matcher table text _ := script.matcher table text
  error := ScriptedMatcher.error
  accepting := ScriptedMatcher.accepting
  stopReason := ScriptedMatcher.stopReason
  consume := ScriptedMatcher.consume
  rewind matcher := { matcher with state := 0, stopped := false }
  words := ScriptedMatcher.words

end Script

end ConstrainedDecoding
