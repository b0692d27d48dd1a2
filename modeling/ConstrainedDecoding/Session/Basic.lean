import ConstrainedDecoding.Fault
import ConstrainedDecoding.Oracle.Basic
import ConstrainedDecoding.Vocabulary.Interchange

/-! Sessions: one compiled grammar and one vocabulary for one stream of tokens. -/

namespace ConstrainedDecoding

/-- Who a session is bound to: an applier by its number, or another party by name. -/
inductive Owner where
  | applier (number : Nat)
  | party (name : Text)
  deriving DecidableEq

/-- A session. Its mask, if there is one, is that of the cursor.

A poisoned session has lost its cursor, and says why. -/
structure Session (σ κ : Type) where
  world : σ
  cursor : κ
  grammar : Grammar
  vocabulary : Vocabulary
  size : Nat
  validates : Bool
  mask : Option Mask
  poison : Option Text
  owner : Option Owner
  steps : Nat
  locked : Bool
  asked : List OracleCall
  records : List Record

namespace Session

variable {σ κ α : Type}

/-- The record of a compiled grammar. -/
def compiledRecord (grammar : Grammar) (size : Nat) : Record :=
  ⟨.info, "Compiled " ++ grammar.describe ++ " grammar over " ++ toString size ++ " tokens"⟩

/-- A session at the start of a grammar. -/
def start (world : σ) (cursor : κ) (grammar : Grammar) (vocabulary : Vocabulary) (size : Nat)
    (validates : Bool) (records : List Record) : Session σ κ where
  world
  cursor
  grammar
  vocabulary
  size
  validates
  mask := none
  poison := none
  owner := none
  steps := 0
  locked := false
  asked := [.compile]
  records := records ++ [compiledRecord grammar size]

/-- A grammar compiled against a vocabulary, after the records written so far. -/
def create (oracle : Oracle σ κ) (world : σ) (grammar : Grammar) (vocabulary : Vocabulary)
    (validates : Bool) (records : List Record) : Except Fault (Session σ κ) := do
  let turn := oracle.compile grammar world
  -- The grammar is compiled before the vocabulary is counted, so its fault comes first.
  let cursor ← turn.answer
  let size ← vocabulary.count
  return start turn.state cursor grammar vocabulary size validates records

/-- Why the session takes no advance at all: it is poisoned, or in the middle of one. -/
def refusal? (session : Session σ κ) : Option Fault :=
  -- A poisoned session says so even in the middle of an advance.
  match session.poison with
  | some cause => some (.poisoned cause)
  | none => if session.locked then some .concurrent else none

/-- What the oracle is told when it asks for an advance in the middle of an operation. -/
def reentry (session : Session σ κ) : Reentry := fun _ =>
  -- The advance under way holds the lock, whichever operation asks for another one.
  match ({ session with locked := true } : Session σ κ).refusal? with
  | some fault => .error fault
  | none => .ok ()

/-- An operation of the oracle, noted among those asked for. -/
def consult (session : Session σ κ) (call : OracleCall) (operation : σ → Turn σ α) :
    Turn (Session σ κ) α :=
  let turn := operation session.world
  ⟨turn.answer, { session with world := turn.state, asked := session.asked ++ [call] }⟩

/-- An action of a session that is not poisoned. -/
def whenUsable (session : Session σ κ) (action : Session σ κ → Turn (Session σ κ) α) :
    Turn (Session σ κ) α :=
  match session.poison with
  | some cause => ⟨.error (.poisoned cause), session⟩
  | none => action session

/-- Whether a token is admitted, read off the mask or else asked of the oracle.

Ids outside the vocabulary never are. -/
def admits (oracle : Oracle σ κ) (token : Int) (session : Session σ κ) : Turn (Session σ κ) Bool :=
  session.whenUsable fun session =>
    if token < 0 || session.size ≤ token then ⟨.ok false, session⟩
    else match session.mask with
      | some mask => ⟨.ok (mask.getD token.toNat false), session⟩
      | none =>
        -- A probe answers for one token, and the mask is not made for it.
        session.consult (.probe token) (oracle.probe session.reentry session.cursor token)

/-- The mask of the cursor, asked of the oracle once and then kept. -/
def fullMask (oracle : Oracle σ κ) (session : Session σ κ) : Turn (Session σ κ) Mask :=
  session.whenUsable fun session =>
    match session.mask with
    | some mask => ⟨.ok mask, session⟩
    | none =>
      let turn := session.consult .mask (oracle.mask session.cursor)
      match turn.answer with
      | .error fault => ⟨.error fault, turn.state⟩
      | .ok mask =>
        -- A mask of another length is not kept, so the next request asks for it again.
        if mask.length = session.size then ⟨.ok mask, { turn.state with mask := some mask }⟩
        else ⟨.error (.invalid (.maskShape mask.length session.size)), turn.state⟩

/-- The session after a failed transition. -/
def poisonBy (session : Session σ κ) (fault : Fault) : Session σ κ :=
  let record : Record := ⟨.warning,
    "Session poisoned after step " ++ toString session.steps ++ ": " ++ fault.message⟩
  -- The cursor stays, but no request but a reset uses it from now on.
  { session with
    mask := none, poison := some fault.message, records := session.records ++ [record] }

/-- A transition of the oracle. Whether it succeeds or not, the mask is dropped. -/
def transit (oracle : Oracle σ κ) (token : Int) (session : Session σ κ) :
    Turn (Session σ κ) Unit :=
  let turn := session.consult (.transition token)
    (oracle.transition session.reentry session.cursor token)
  -- The cursor may have been moved in place, so even a failure outdates the mask.
  match turn.answer with
  | .error fault => ⟨.error fault, turn.state.poisonBy fault⟩
  | .ok cursor =>
    ⟨.ok (), { turn.state with cursor, mask := none, steps := session.steps + 1 }⟩

/-- A transition, if need be after the check that the token is admitted. -/
def checkedTransit (oracle : Oracle σ κ) (token : Int) (session : Session σ κ) :
    Turn (Session σ κ) Unit :=
  if session.validates then
    let turn := session.admits oracle token
    match turn.answer with
    | .error fault => ⟨.error fault, turn.state⟩
    -- A rejected token is not poison: neither the cursor nor the mask has changed.
    | .ok false => ⟨.error (.inadmissible (.int token) none), turn.state⟩
    | .ok true => turn.state.transit oracle token
  else session.transit oracle token

/-- The session goes on by a token, and is locked while it does. -/
def advance (oracle : Oracle σ κ) (token : Int) (session : Session σ κ) :
    Turn (Session σ κ) Unit :=
  match session.refusal? with
  | some fault => ⟨.error fault, session⟩
  | none =>
    let turn := ({ session with locked := true } : Session σ κ).checkedTransit oracle token
    -- The lock is given back on every path.
    ⟨turn.answer, { turn.state with locked := false }⟩

/-- Whether the stream may end here. -/
def isComplete (oracle : Oracle σ κ) (session : Session σ κ) : Turn (Session σ κ) Bool :=
  session.whenUsable fun session =>
    session.consult .accepting (oracle.accepting session.cursor)

/-- Why the grammar has stopped, in the oracle's words. -/
def stopReason (oracle : Oracle σ κ) (session : Session σ κ) : Turn (Session σ κ) Text :=
  session.whenUsable fun session =>
    session.consult .stopReason (oracle.stopReason session.cursor)

/-- The session at the start of its grammar, or of another one, even if it was poisoned. -/
def reset (oracle : Oracle σ κ) (grammar : Option Grammar) (session : Session σ κ) :
    Turn (Session σ κ) Unit :=
  let next := grammar.getD session.grammar
  let turn := session.consult .restart (oracle.restart session.cursor next)
  -- Only a reset that succeeds takes over the grammar and heals the session.
  match turn.answer with
  | .error fault =>
    ⟨.error fault,
      { turn.state with mask := none, poison := some ("reset failed: " ++ fault.message) }⟩
  | .ok cursor =>
    ⟨.ok (),
      { turn.state with cursor, grammar := next, mask := none, poison := none, steps := 0 }⟩

/-- The session bound to an owner, unless it is bound to another one. -/
def claim (session : Session σ κ) (owner : Owner) : Turn (Session σ κ) Unit :=
  -- An owner may claim what it already owns.
  if session.owner.isSome && session.owner ≠ some owner then ⟨.error .owned, session⟩
  else ⟨.ok (), { session with owner := some owner }⟩

/-- The session bound to nobody, if it was bound to that owner. -/
def release (session : Session σ κ) (owner : Owner) : Session σ κ :=
  if session.owner = some owner then { session with owner := none } else session

/-- A short text that identifies the session. -/
def summary (session : Session σ κ) : Text :=
  "GrammarSession(" ++ session.grammar.describe ++ ", vocab_size=" ++ toString session.size ++
    ", steps=" ++ toString session.steps ++ ")"

end Session

end ConstrainedDecoding
