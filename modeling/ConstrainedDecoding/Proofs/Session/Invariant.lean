import ConstrainedDecoding.Proofs.Session.Reachable

/-! What an oracle keeps true of a grammar and its cursor holds of every session that comes up. -/

namespace ConstrainedDecoding

variable {σ κ : Type}

/-- Whatever an oracle is used for, something stays true of the grammar, the cursor and the world.

A failed restart leaves both the grammar and the cursor as they were. -/
structure Oracle.Keeps (oracle : Oracle σ κ) (holds : Grammar → κ → σ → Prop) : Prop where
  compile : ∀ {grammar : Grammar} {world : σ} {cursor : κ},
    (oracle.compile grammar world).answer = .ok cursor →
    holds grammar cursor (oracle.compile grammar world).state
  probe : ∀ {grammar : Grammar} {cursor : κ} {world : σ} (reentry : Reentry) (token : Int),
    holds grammar cursor world →
    holds grammar cursor (oracle.probe reentry cursor token world).state
  mask : ∀ {grammar : Grammar} {cursor : κ} {world : σ}, holds grammar cursor world →
    holds grammar cursor (oracle.mask cursor world).state
  transition : ∀ {grammar : Grammar} {cursor : κ} {world : σ} (reentry : Reentry) (token : Int),
    holds grammar cursor world →
    holds grammar ((oracle.transition reentry cursor token world).held cursor)
      (oracle.transition reentry cursor token world).state
  accepting : ∀ {grammar : Grammar} {cursor : κ} {world : σ}, holds grammar cursor world →
    holds grammar cursor (oracle.accepting cursor world).state
  stopReason : ∀ {grammar : Grammar} {cursor : κ} {world : σ}, holds grammar cursor world →
    holds grammar cursor (oracle.stopReason cursor world).state
  restart : ∀ {grammar next : Grammar} {cursor after : κ} {world : σ},
    holds grammar cursor world → (oracle.restart cursor next world).answer = .ok after →
    holds next after (oracle.restart cursor next world).state
  failedRestart : ∀ {grammar next : Grammar} {cursor : κ} {world : σ} {fault : Fault},
    holds grammar cursor world → (oracle.restart cursor next world).answer = .error fault →
    holds grammar cursor (oracle.restart cursor next world).state

namespace Session

/-- Something is true of the grammar, the cursor and the world of a session. -/
def Upholds (holds : Grammar → κ → σ → Prop) (session : Session σ κ) : Prop :=
  holds session.grammar session.cursor session.world

variable {oracle : Oracle σ κ} {holds : Grammar → κ → σ → Prop} {session : Session σ κ}

/-- A query asks the oracle once at most, which keeps what it keeps. -/
theorem Upholds.query (upholds : session.Upholds holds) (keeps : oracle.Keeps holds)
    {request : Request} (query : request.isQuery = true) :
    (session.perform oracle request).state.Upholds holds := by
  -- A query leaves the session, or it asks the oracle one thing about the cursor.
  obtain same | ⟨_, call, world, mask, asked, same⟩ := query_asks oracle session query
  · rwa [same]
  · rw [same]
    cases asked with
    | probe token => exact keeps.probe _ token upholds
    | mask => exact keeps.mask upholds
    | accepting => exact keeps.accepting upholds
    | stopReason => exact keeps.stopReason upholds

/-- The cursor after a transition is the new one, or the old one if the transition failed. -/
theorem Upholds.transit (upholds : session.Upholds holds) (keeps : oracle.Keeps holds)
    (token : Int) : (session.transit oracle token).state.Upholds holds := by
  have moved := keeps.transition session.reentry token upholds
  simp only [Session.transit, consult]
  -- The invariant holds of the cursor that is held, the new one or else the old one.
  cases ended : (oracle.transition session.reentry session.cursor token session.world).answer with
  | error fault =>
    simp only [Turn.held, ended] at moved
    exact moved
  | ok cursor =>
    simp only [Turn.held, ended] at moved
    exact moved

/-- An advance makes a query at most, and then a transition. -/
theorem Upholds.advance (upholds : session.Upholds holds) (keeps : oracle.Keeps holds)
    (token : Int) : (session.advance oracle token).state.Upholds holds := by
  simp only [Session.advance]
  split
  · exact upholds
  · -- The lock is no part of what is upheld.
    generalize locked : ({ session with locked := true } : Session σ κ) = busy
    have start : busy.Upholds holds := locked ▸ upholds
    have query : (Request.admits token).isQuery = true := rfl
    have checked : (busy.admits oracle token).state.Upholds holds := start.query keeps query
    have ended : (busy.checkedTransit oracle token).state.Upholds holds := by
      obtain ⟨fault, refused, _⟩ | ⟨ready, rfl | rfl, moves⟩ :=
        busy.checkedTransit_cases oracle token
      · rwa [refused]
      · exact moves ▸ start.transit keeps token
      · exact moves ▸ checked.transit keeps token
    exact ended

/-- A reset takes over the grammar together with the cursor, or neither. -/
theorem Upholds.reset (upholds : session.Upholds holds) (keeps : oracle.Keeps holds)
    (grammar : Option Grammar) : (session.reset oracle grammar).state.Upholds holds := by
  simp only [Session.reset, consult]
  -- A restart that fails keeps the old cursor, and the invariant with it.
  cases ended : (oracle.restart session.cursor (grammar.getD session.grammar)
      session.world).answer with
  | error fault => exact keeps.failedRestart upholds ended
  | ok cursor => exact keeps.restart upholds ended

/-- What the oracle keeps holds of every session that comes up. -/
theorem Reachable.upholds (keeps : oracle.Keeps holds) (reachable : Reachable oracle session) :
    session.Upholds holds := by
  -- By induction on how the session came up, where a request is a query or a move.
  induction reachable using Reachable.requestInduction with
  | created created =>
    obtain ⟨cursor, size, compiled, _, rfl⟩ := create_eq_ok_iff.mp created
    exact keeps.compile compiled
  | performed request _ upholds =>
    obtain query | ⟨token, rfl⟩ | ⟨grammar, rfl⟩ := request.query_or_move
    · exact upholds.query keeps query
    · exact upholds.advance keeps token
    · exact upholds.reset keeps grammar
  | unseen _ _ _ _ _ upholds => exact upholds

end Session

end ConstrainedDecoding
