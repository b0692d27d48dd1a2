import ConstrainedDecoding.Masking.Applier
import ConstrainedDecoding.Position

/-! Processors: appliers that find the generated tokens themselves behind a prompt. -/

namespace ConstrainedDecoding

/-- Token ids laid out in any number of dimensions, the last one running fastest. -/
structure TokenArray where
  extents : List Nat
  tokens : List Int

/-- A processor. With a prompt length it reports the tokens after the prompt to its session.

Its index counts the tokens reported so far. -/
structure Processor where
  applier : Applier
  promptLength : Json
  index : Nat

namespace Processor

variable {σ κ : Type}

/-- A new processor with an applier of its own. -/
def make (number : Nat) (arguments : ApplierArguments) (promptLength : Json)
    (session : Session σ κ) : Turn (Session σ κ) Processor :=
  let turn := Applier.make number arguments session
  ⟨turn.answer.map fun applier => ⟨applier, promptLength, 0⟩, turn.state⟩

/-- The prompt length as a cut, which may count from the end. -/
def cut? : Json → Option Int
  | .int length => some length
  | .bool value => some (if value then 1 else 0)
  | _ => none

/-- The part of a stream that was generated after the prompt. -/
def generated (promptLength : Json) (ids : TokenArray) : Except Fault (List Live) :=
  match ids.extents with
  | [] => .error (.outOfRange "tuple index out of range")
  -- Only a batch of one stream has a stream to cut.
  | 1 :: inner =>
    match inner, cut? promptLength with
    | [], _ => .error (.outOfRange "too many indices for tensor of dimension 1")
    | _ :: _, none => .error (.operand "slice indices must be integers")
    | [length], some cut => .ok ((ids.tokens.drop (cutPosition length cut)).map .int)
    -- Rows instead of tokens are no tokens, however long they are.
    | length :: _, some cut => .ok (List.replicate (length - cutPosition length cut) (.list []))
  | _ => .error (.asserted "Batch size must be 1 when tracking generated tokens")

/-- Tokens reported one after the other, and the index moved past each. -/
def report (oracle : Oracle σ κ) :
    List Live → Session σ κ × Processor → Turn (Session σ κ × Processor) Unit
  | [], state => ⟨.ok (), state⟩
  | token :: rest, (session, processor) =>
    let turn := Applier.onToken oracle token (session, processor.applier)
    let (session, applier) := turn.state
    match turn.answer with
    -- The index stays at the token that failed, so it is reported again next time.
    | .error fault => ⟨.error fault, (session, { processor with applier })⟩
    | .ok () =>
      report oracle rest (session, { processor with applier, index := processor.index + 1 })

/-- The tokens that are new since the last time reported, if the processor tracks tokens. -/
def sync (oracle : Oracle σ κ) (ids : TokenArray) (state : Session σ κ × Processor) :
    Turn (Session σ κ × Processor) Unit :=
  let processor := state.2
  if processor.promptLength.isNull then ⟨.ok (), state⟩
  else match generated processor.promptLength ids with
    | .error fault => ⟨.error fault, state⟩
    | .ok tokens => report oracle (tokens.drop processor.index) state

/-- An action of the applier within its processor. -/
def within {α : Type} (action : Session σ κ × Applier → Turn (Session σ κ × Applier) α)
    (state : Session σ κ × Processor) : Turn (Session σ κ × Processor) α :=
  let turn := action (state.1, state.2.applier)
  ⟨turn.answer, (turn.state.1, { state.2 with applier := turn.state.2 })⟩

/-- Rows masked one after the other. -/
def applyRows (oracle : Oracle σ κ) :
    List ScoreArray → Session σ κ × Processor → Turn (Session σ κ × Processor) (List ScoreArray)
  | [], state => ⟨.ok [], state⟩
  | row :: rest, state =>
    let turn := within (Applier.apply oracle row) state
    match turn.answer with
    | .error fault => ⟨.error fault, turn.state⟩
    | .ok first =>
      let later := applyRows oracle rest turn.state
      ⟨later.answer.map (first :: ·), later.state⟩

/-- A batch masked row by row, or a single row. -/
def applyBatch (oracle : Oracle σ κ) (array : ScoreArray) (state : Session σ κ × Processor) :
    Turn (Session σ κ × Processor) ScoreArray :=
  match array.extents with
  | [_] => within (Applier.apply oracle array) state
  -- A lone score has no rows to go through.
  | [] => ⟨.error (.operand "iteration over a 0-d tensor"), state⟩
  | _ =>
    let turn := applyRows oracle array.rows state
    ⟨turn.answer.bind ScoreArray.stack, turn.state⟩

/-- New tokens reported, and then the scores of the next step masked. -/
def call (oracle : Oracle σ κ) (ids : TokenArray) (array : ScoreArray)
    (state : Session σ κ × Processor) : Turn (Session σ κ × Processor) ScoreArray :=
  let turn := sync oracle ids state
  match turn.answer with
  -- Without its tokens the session is behind, and no scores are masked.
  | .error fault => ⟨.error fault, turn.state⟩
  | .ok () => applyBatch oracle array turn.state

/-- The session reset and, if that succeeds, no tokens reported yet. -/
def reset (oracle : Oracle σ κ) (grammar : Option Grammar) (state : Session σ κ × Processor) :
    Turn (Session σ κ × Processor) Unit :=
  let turn := within (Applier.reset oracle grammar) state
  match turn.answer with
  | .error fault => ⟨.error fault, turn.state⟩
  | .ok () => ⟨.ok (), (turn.state.1, { turn.state.2 with index := 0 })⟩

end Processor

end ConstrainedDecoding
