import ConstrainedDecoding.Scores.Candidates
import ConstrainedDecoding.Session.Basic
import ConstrainedDecoding.Settings

/-! Appliers: the scores of what a session does not admit are masked.

The best candidates are probed first, and the full mask is needed only when none is admitted. -/

namespace ConstrainedDecoding

/-- How many score arrays were masked, on which path, and at the price of how many probes. -/
structure MaskStats where
  steps : Nat
  fastPath : Nat
  fullMask : Nat
  probes : Nat
  deriving DecidableEq

/-- Nothing masked yet. -/
def MaskStats.zero : MaskStats := ⟨0, 0, 0, 0⟩

/-- An applier of a session, known by its number. -/
structure Applier where
  number : Nat
  depth : Nat
  debug : Json
  stats : MaskStats

/-- The options that an applier is made with: given as a whole, and single ones replaced. -/
structure ApplierArguments where
  options : Option ApplierOptions
  depth : Json
  debug : Json

namespace Applier

variable {σ κ : Type}

/-- A new applier, bound to a session if nobody else is and the options are valid. -/
def make (number : Nat) (arguments : ApplierArguments) (session : Session σ κ) :
    Turn (Session σ κ) Applier :=
  match (arguments.options.getD .standard).override arguments.depth arguments.debug with
  | .error fault => ⟨.error fault, session⟩
  | .ok options =>
    -- The options are checked first, so faulty ones do not bind the session.
    let turn := session.claim (.applier number)
    ⟨turn.answer.map fun _ => ⟨number, min options.depth session.size, options.debug, .zero⟩,
      turn.state⟩

/-- One more array to mask. -/
def countStep (applier : Applier) : Applier :=
  { applier with stats := { applier.stats with steps := applier.stats.steps + 1 } }

/-- One more candidate to probe. -/
def countProbe (applier : Applier) : Applier :=
  { applier with stats := { applier.stats with probes := applier.stats.probes + 1 } }

/-- One more array settled by its candidates. -/
def countFast (applier : Applier) : Applier :=
  { applier with stats := { applier.stats with fastPath := applier.stats.fastPath + 1 } }

/-- One more array that takes the full mask. -/
def countFull (applier : Applier) : Applier :=
  { applier with stats := { applier.stats with fullMask := applier.stats.fullMask + 1 } }

/-- The candidates that the session admits, each asked for in turn. -/
def admitted (oracle : Oracle σ κ) :
    List Candidate → Session σ κ × Applier → Turn (Session σ κ × Applier) (List Nat)
  | [], state => ⟨.ok [], state⟩
  | candidate :: rest, (session, applier) =>
    let turn := session.admits oracle candidate.id
    match turn.answer with
    -- A probe that fails was made, and counts.
    | .error fault => ⟨.error fault, (turn.state, applier.countProbe)⟩
    | .ok admits =>
      -- The order of the candidates is kept among those admitted.
      let later := admitted oracle rest (turn.state, applier.countProbe)
      ⟨later.answer.map fun ids => if admits then candidate.id :: ids else ids, later.state⟩

/-- A record of a step, if the applier is to report its steps. -/
def report (applier : Applier) (text : String) (session : Session σ κ) : Session σ κ :=
  -- Any value given for debugging counts by its truth.
  if applier.debug.isTruthy then
    let record : Record := ⟨.debug, "step " ++ toString applier.stats.steps ++ ": " ++ text⟩
    { session with records := session.records ++ [record] }
  else session

/-- The scores of the admitted candidates, all others masked. -/
def keepCandidates (scores : Scores) (ids : List Nat) (state : Session σ κ × Applier) :
    Turn (Session σ κ × Applier) Scores :=
  let (session, applier) := (state.1, state.2.countFast)
  match scores.keepWhere fun index _ => ids.contains index with
  | .error fault => ⟨.error fault, (session, applier)⟩
  | .ok kept =>
    let text := "fast path, " ++ toString ids.length ++ " admissible candidate(s)"
    ⟨.ok kept, (applier.report text session, applier)⟩

/-- The scores of all admitted tokens. Positions beyond the vocabulary and NaNs are masked. -/
def keepMasked (oracle : Oracle σ κ) (scores : Scores) (state : Session σ κ × Applier) :
    Turn (Session σ κ × Applier) Scores :=
  let applier := state.2.countFull
  let turn := state.1.fullMask oracle
  match turn.answer with
  | .error fault => ⟨.error fault, (turn.state, applier)⟩
  | .ok mask =>
    -- The mask has no entries beyond the vocabulary, and a NaN is not kept on this path.
    match scores.keepWhere fun index value => mask.getD index false && value ≠ .nan with
    | .error fault => ⟨.error fault, (turn.state, applier)⟩
    | .ok kept =>
      ⟨.ok kept,
        (applier.report "no candidate admissible, applied full mask" turn.state, applier)⟩

/-- The scores of one step masked, by the best candidates if any of them is admitted. -/
def applyRun (oracle : Oracle σ κ) (scores : Scores) (state : Session σ κ × Applier) :
    Turn (Session σ κ × Applier) Scores :=
  let (session, applier) := (state.1, state.2.countStep)
  let turn := admitted oracle (topCandidates applier.depth scores) (session, applier)
  match turn.answer with
  | .error fault => ⟨.error fault, turn.state⟩
  -- None of the best candidates is admitted, which tells nothing of the others.
  | .ok [] => keepMasked oracle scores turn.state
  | .ok ids => keepCandidates scores ids turn.state

/-- An array of one step masked. It has to be one-dimensional, and an empty one stays as it is. -/
def apply (oracle : Oracle σ κ) (array : ScoreArray) (state : Session σ κ × Applier) :
    Turn (Session σ κ × Applier) ScoreArray :=
  match array.extents with
  -- Nothing to mask is no step, and is not counted.
  | [0] => ⟨.ok array, state⟩
  | [_] =>
    let turn := applyRun oracle array.scores state
    ⟨turn.answer.map fun kept => ⟨array.extents, kept⟩, turn.state⟩
  | extents => ⟨.error (.invalid (.scoreShape extents)), state⟩

/-- The session goes on by a token that is given loosely. -/
def onToken (oracle : Oracle σ κ) (token : Live) (state : Session σ κ × Applier) :
    Turn (Session σ κ × Applier) Unit :=
  match token.toInt with
  | .error fault => ⟨.error fault, state⟩
  | .ok token =>
    -- The counts are about masking, and no token changes them.
    let turn := state.1.advance oracle token
    ⟨turn.answer, (turn.state, state.2)⟩

/-- Whether the stream may end here. -/
def canStop (oracle : Oracle σ κ) (state : Session σ κ × Applier) :
    Turn (Session σ κ × Applier) Bool :=
  let turn := state.1.isComplete oracle
  ⟨turn.answer, (turn.state, state.2)⟩

/-- The session is reset and, if that succeeds, the counts begin anew. -/
def reset (oracle : Oracle σ κ) (grammar : Option Grammar) (state : Session σ κ × Applier) :
    Turn (Session σ κ × Applier) Unit :=
  let turn := state.1.reset oracle grammar
  match turn.answer with
  | .error fault => ⟨.error fault, (turn.state, state.2)⟩
  | .ok () => ⟨.ok (), (turn.state, { state.2 with stats := .zero })⟩

/-- The session without its bond to the applier. -/
def close (applier : Applier) (session : Session σ κ) : Session σ κ :=
  session.release (.applier applier.number)

end Applier

end ConstrainedDecoding
