import ConstrainedDecoding.Engine.Basic
import ConstrainedDecoding.Fault
import ConstrainedDecoding.Grammar.Compare

/-! The oracle over an engine. Its cursors are matchers that change in place. -/

namespace ConstrainedDecoding

/-- The state of an oracle over an engine. A cursor is the position of its matcher.

All matchers fill the same words, and the mask of one cursor at a time is remembered. -/
structure Matchers (μ : Type) where
  table : ByteTable
  size : Nat
  logLevel : Except Fault Int
  remembered : Option Grammar
  cached : Option (Nat × Mask)
  words : List Int
  matchers : List μ
  asked : List EngineCall

namespace Matchers

variable {μ : Type}

/-- A failure counts as a refusal of the vocabulary, whoever finds it. -/
def isRejection : Fault → Bool
  | .invalid _ | .mistyped _ | .unencodable _ | .broken _ => true
  | _ => false

/-- A failure of the engine to work with a vocabulary, for the reasons that count as such. -/
def rejection (fault : Fault) : Fault :=
  if isRejection fault then
    .incompatible ("llguidance rejected the vocabulary: " ++ fault.message)
  else fault

/-- The end of text of a vocabulary, or else the first id beyond it. -/
def endId (vocabulary : Vocabulary) (size : Nat) : Except Fault Int :=
  if vocabulary.roles.eos.isNull then .ok size else vocabulary.roles.eos.live.toInt

/-- The number of tokens that the engine sees: one more than there are if the end is added. -/
def engineSize (vocabulary : Vocabulary) (size : Nat) : Nat :=
  if vocabulary.roles.eos.isNull then size + 1 else size

/-- Nothing in the vocabulary could ever be generated. -/
def isEmptyVocabulary (vocabulary : Vocabulary) : Bool :=
  vocabulary.tokens.isEmpty && vocabulary.added.isEmpty

/-- What is recorded about a vocabulary before an engine gets to see it. -/
def openingRecords (vocabulary : Vocabulary) : List Record :=
  match vocabulary.size.bind fun size => size.live.toInt with
  | .ok size =>
    if !isEmptyVocabulary vocabulary && vocabulary.roles.eos.isNull then
      [⟨.warning, "Vocabulary has no eos token; using synthetic id " ++ toString size⟩]
    else []
  | .error _ => []

/-- The number of tokens of a vocabulary. A size that is no integer is refused by the engine. -/
def tokenCount (vocabulary : Vocabulary) : Except Fault Nat := do
  match ← vocabulary.size with
  | .float _ => .error (rejection (.operand "can't multiply sequence by non-int of type 'float'"))
  | _ => vocabulary.count

/-- The table of a vocabulary, if the engine accepts it. -/
def acceptedTable (engine : Engine μ) (vocabulary : Vocabulary) (size : Nat) :
    Except Fault ByteTable := do
  let eos ← endId vocabulary size
  let table ← ByteTable.make vocabulary eos (engineSize vocabulary size)
  engine.accepts table
  return table

/-- The oracle of a vocabulary, without matchers yet. -/
def make (engine : Engine μ) (logLevel : Except Fault Int) (vocabulary : Vocabulary) :
    Except Fault (Matchers μ) := do
  if isEmptyVocabulary vocabulary then .error (.incompatible "Tokenizer vocabulary is empty")
  else
    let size ← tokenCount vocabulary
    let table ← (acceptedTable engine vocabulary size).mapError rejection
    return {
      table, size, logLevel, remembered := none, cached := none
      words := List.replicate (wordCount table) 0, matchers := [], asked := [] }

/-- A use of the engine, noted. -/
def note (state : Matchers μ) (call : EngineCall) : Matchers μ :=
  { state with asked := state.asked ++ [call] }

/-- A grammar that the engine refuses. -/
def grammarError (text : Text) : Fault :=
  .compilation ("Grammar error: " ++ text)

/-- The kind of a grammar as the engine names it. -/
def kindOf : Grammar → Text
  | .jsonSchema _ => "json_schema"
  | .regex _ => "regex"
  | .lark .. => "lark"

/-- The engine's own text of a grammar. -/
def serialize (engine : Engine μ) (grammar : Grammar) (state : Matchers μ) :
    Turn (Matchers μ) Text :=
  match grammar.engineText with
  | .error (.invalid problem) => ⟨.error (grammarError problem.message), state⟩
  | .error fault => ⟨.error fault, state⟩
  | .ok (.str text) =>
    ⟨(engine.convert (kindOf grammar) text).mapError grammarError, state.note .convert⟩
  | .ok _ => ⟨.error (.operand "the text of a grammar must be a string"), state.note .convert⟩

/-- A new matcher for an engine text, unless the engine finds fault with it. -/
def build (engine : Engine μ) (text : Text) (state : Matchers μ) : Turn (Matchers μ) μ :=
  let state := state.note .validate
  let problem := engine.validate state.table text
  if !problem.isEmpty then ⟨.error (grammarError problem), state⟩
  else match state.logLevel with
    | .error fault => ⟨.error fault, state⟩
    | .ok level =>
      let state := state.note (.matcher level)
      let matcher := engine.matcher state.table text level
      if !(engine.error matcher).isEmpty then ⟨.error (grammarError (engine.error matcher)), state⟩
      else ⟨.ok matcher, state⟩

/-- A new cursor at the start of a grammar. Only success changes what the oracle remembers. -/
def compile (engine : Engine μ) (grammar : Grammar) (state : Matchers μ) :
    Turn (Matchers μ) Nat :=
  let turn := state.serialize engine grammar
  match turn.answer with
  | .error fault => ⟨.error fault, turn.state⟩
  | .ok text =>
    let turn := turn.state.build engine text
    match turn.answer with
    | .error fault => ⟨.error fault, turn.state⟩
    | .ok matcher =>
      ⟨.ok turn.state.matchers.length, { turn.state with
        matchers := turn.state.matchers ++ [matcher], cached := none, remembered := some grammar }⟩

/-- The matcher of a cursor. -/
def matcher (state : Matchers μ) (cursor : Nat) : Except Fault μ :=
  match state.matchers[cursor]? with
  | some matcher => .ok matcher
  | none => .error (.broken "no such matcher")

/-- The mask that is remembered for a cursor. -/
def cachedMask? (state : Matchers μ) (cursor : Nat) : Option Mask :=
  (state.cached.filter fun entry => entry.1 == cursor).map (·.2)

/-- The state without a remembered mask. -/
def forget (state : Matchers μ) : Matchers μ :=
  { state with cached := none }

/-- The mask of a cursor, filled anew unless it is remembered. -/
def currentMask (engine : Engine μ) (cursor : Nat) (state : Matchers μ) :
    Turn (Matchers μ) Mask :=
  match state.cachedMask? cursor with
  | some mask => ⟨.ok mask, state⟩
  | none =>
    match state.matcher cursor with
    | .error fault => ⟨.error fault, state⟩
    | .ok matcher =>
      let words := engine.words matcher
      let mask := unpackWords state.size words
      ⟨.ok mask, { state.note .fill with words, cached := some (cursor, mask) }⟩

/-- Whether a token is in the mask of a cursor. A negative id counts from the end. -/
def probe (engine : Engine μ) (cursor : Nat) (token : Int) (state : Matchers μ) :
    Turn (Matchers μ) Bool :=
  let turn := state.currentMask engine cursor
  ⟨turn.answer.bind fun mask => elementAt mask token, turn.state⟩

/-- The cursor's matcher goes on by a token. The end of text is tolerated where a text may end. -/
def transition (engine : Engine μ) (cursor : Nat) (token : Int) (state : Matchers μ) :
    Turn (Matchers μ) Nat :=
  match state.matcher cursor with
  | .error fault => ⟨.error fault, state.forget⟩
  | .ok matcher =>
    let (taken, after) := engine.consume token matcher
    let state := { state.forget.note .consume with matchers := state.matchers.set cursor after }
    if taken || (token = state.table.eos && engine.accepting after) then ⟨.ok cursor, state⟩
    else
      let detail : Text := "llguidance rejected token " ++ toString token ++ ": " ++ engine.error after
      ⟨.error (.inadmissible (.int token) (some detail)), state⟩

/-- A fact about the matcher of a cursor. -/
def observe {α : Type} (read : μ → α) (cursor : Nat) (state : Matchers μ) : Turn (Matchers μ) α :=
  ⟨(state.matcher cursor).map read, state⟩

/-- The matcher of a cursor, if it can be rewound to the start of a grammar. -/
def reusable? (engine : Engine μ) (cursor : Option Nat) (grammar : Grammar) (state : Matchers μ) :
    Option (Nat × μ) := do
  let cursor ← cursor
  let remembered ← state.remembered
  let matcher ← state.matchers[cursor]?
  if grammar.same remembered && (engine.error matcher).isEmpty then some (cursor, matcher) else none

/-- The cursor at its start if the grammar is the one compiled last, or else a new cursor. -/
def restart (engine : Engine μ) (cursor : Option Nat) (grammar : Grammar) (state : Matchers μ) :
    Turn (Matchers μ) Nat :=
  let state := state.forget
  match state.reusable? engine cursor grammar with
  | some (cursor, matcher) =>
    ⟨.ok cursor,
      { state.note .rewind with matchers := state.matchers.set cursor (engine.rewind matcher) }⟩
  | none => state.compile engine grammar

/-- The oracle over an engine. -/
def oracle (engine : Engine μ) : Oracle (Matchers μ) Nat where
  compile := compile engine
  probe _ := probe engine
  mask := currentMask engine
  transition _ := transition engine
  accepting := observe engine.accepting
  stopReason := observe engine.stopReason
  restart cursor := restart engine (some cursor)

end Matchers

end ConstrainedDecoding
