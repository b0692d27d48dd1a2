import ConstrainedDecoding.Proofs.Oracle.Watched
import ConstrainedDecoding.Proofs.Session.Reachable

/-! A session answers alike whether or not its oracle keeps a log. -/

namespace ConstrainedDecoding

variable {σ κ α : Type}

namespace Session

/-- The session without the log of its oracle. -/
def unwatched (session : Session (Watched σ) κ) : Session σ κ :=
  { session with world := session.world.world }

end Session

/-- A turn of a session without the log of its oracle. -/
def Turn.unwatched (turn : Turn (Session (Watched σ) κ) α) : Turn (Session σ κ) α :=
  ⟨turn.answer, turn.state.unwatched⟩

namespace Session

/-- The uses that a session made of its oracle. -/
def log (session : Session (Watched σ) κ) : List Consultation :=
  session.world.log

/-- The session after one more use of its oracle. -/
def noting (session : Session (Watched σ) κ) (world : σ) (entry : Consultation) :
    Session (Watched σ) κ :=
  { session with
    world := ⟨world, session.log ++ [entry]⟩, asked := session.asked ++ [entry.call] }

variable {oracle : Oracle σ κ} {session : Session (Watched σ) κ}

/-- What the oracle answers is written down as it is answered. -/
theorem consult_record (session : Session (Watched σ) κ) (call : OracleCall)
    (operation : σ → Turn σ α) :
    session.consult call (Watched.record call operation) =
      ⟨(operation session.world.world).answer, session.noting (operation session.world.world).state
        ⟨call, (operation session.world.world).failure?⟩⟩ := rfl

/-- A use of the oracle is answered alike with a log and without one. -/
theorem consult_unwatched (session : Session (Watched σ) κ) (call : OracleCall)
    (operation : σ → Turn σ α) :
    session.unwatched.consult call operation =
      (session.consult call (Watched.record call operation)).unwatched := rfl

/-- An action is unwatched if it is where the session is not poisoned. -/
theorem whenUsable_unwatched {action : Session σ κ → Turn (Session σ κ) α}
    {other : Session (Watched σ) κ → Turn (Session (Watched σ) κ) α}
    (same : action session.unwatched = (other session).unwatched) :
    session.unwatched.whenUsable action = (session.whenUsable other).unwatched := by
  -- The log does not touch the poison.
  have poison : session.unwatched.poison = session.poison := rfl
  simp only [whenUsable, poison]
  split
  · rfl
  · exact same

/-- Admission does not depend on the log. -/
theorem admits_unwatched (oracle : Oracle σ κ) (token : Int) (session : Session (Watched σ) κ) :
    session.unwatched.admits oracle token = (session.admits oracle.watched token).unwatched := by
  apply whenUsable_unwatched
  -- Both take the same path, and only the last one uses the oracle.
  have size : session.unwatched.size = session.size := rfl
  have mask : session.unwatched.mask = session.mask := rfl
  simp only [size, mask]
  split
  · rfl
  · split
    · rfl
    · exact consult_unwatched session _ _

/-- The full mask does not depend on the log. -/
theorem fullMask_unwatched (oracle : Oracle σ κ) (session : Session (Watched σ) κ) :
    session.unwatched.fullMask oracle = (session.fullMask oracle.watched).unwatched := by
  apply whenUsable_unwatched
  have mask : session.unwatched.mask = session.mask := rfl
  simp only [mask]
  split
  · rfl
  · -- The mask that the oracle makes is of the right length for both, or for neither.
    simp only [consult, Oracle.watched, Watched.record, unwatched]
    cases (oracle.mask session.cursor session.world.world).answer with
    | error fault => rfl
    | ok mask =>
      dsimp only
      rw [apply_ite Turn.unwatched]
      rfl

/-- A transition does not depend on the log. -/
theorem transit_unwatched (oracle : Oracle σ κ) (token : Int) (session : Session (Watched σ) κ) :
    session.unwatched.transit oracle token = (session.transit oracle.watched token).unwatched := by
  -- What the oracle is told when it asks back is made of the poison alone.
  have reentry : session.unwatched.reentry = session.reentry := rfl
  simp only [transit, reentry]
  simp only [consult, Oracle.watched, Watched.record, unwatched]
  cases (oracle.transition session.reentry session.cursor token session.world.world).answer <;> rfl

/-- An advance does not depend on the log. -/
theorem advance_unwatched (oracle : Oracle σ κ) (token : Int) (session : Session (Watched σ) κ) :
    session.unwatched.advance oracle token = (session.advance oracle.watched token).unwatched := by
  have refusal : session.unwatched.refusal? = session.refusal? := rfl
  simp only [advance, refusal]
  split
  · rfl
  · -- The check and the transition are those of the locked session.
    generalize locked : ({ session with locked := true } : Session (Watched σ) κ) = busy
    have same : ({ session.unwatched with locked := true } : Session σ κ) = busy.unwatched := by
      rw [← locked]
      rfl
    have validates : busy.unwatched.validates = busy.validates := rfl
    rw [same]
    simp only [checkedTransit, validates, admits_unwatched, Turn.unwatched]
    split
    · cases (busy.admits oracle.watched token).answer with
      | error fault => rfl
      | ok admits =>
        cases admits with
        | false => rfl
        | true =>
          dsimp only
          rw [transit_unwatched]
          rfl
    · rw [transit_unwatched]
      rfl

/-- A reset does not depend on the log. -/
theorem reset_unwatched (oracle : Oracle σ κ) (grammar : Option Grammar)
    (session : Session (Watched σ) κ) :
    session.unwatched.reset oracle grammar = (session.reset oracle.watched grammar).unwatched := by
  simp only [reset, consult, Oracle.watched, Watched.record, unwatched]
  cases (oracle.restart session.cursor (grammar.getD session.grammar)
    session.world.world).answer <;> rfl

/-- No answer to a request depends on the log. -/
theorem perform_unwatched (oracle : Oracle σ κ) (session : Session (Watched σ) κ)
    (request : Request) :
    session.unwatched.perform oracle request =
      (session.perform oracle.watched request).unwatched := by
  -- Each request uses the oracle the same way, and the watched oracle notes it.
  cases request with
  | admits token => simp only [perform, Turn.reply, admits_unwatched]; rfl
  | mask => simp only [perform, Turn.reply, fullMask_unwatched]; rfl
  | advance token => simp only [perform, Turn.reply, advance_unwatched]; rfl
  | isComplete =>
    have same : session.unwatched.isComplete oracle =
      (session.isComplete oracle.watched).unwatched := whenUsable_unwatched rfl
    simp only [perform, Turn.reply, same]
    rfl
  | stopReason =>
    have same : session.unwatched.stopReason oracle =
      (session.stopReason oracle.watched).unwatched := whenUsable_unwatched rfl
    simp only [perform, Turn.reply, same]
    rfl
  | reset grammar => simp only [perform, Turn.reply, reset_unwatched]; rfl

/-- A claim does not depend on the log. -/
theorem claim_unwatched (session : Session (Watched σ) κ) (owner : Owner) :
    session.unwatched.claim owner = (session.claim owner).unwatched := by
  have held : session.unwatched.owner = session.owner := rfl
  simp only [claim, held]
  split <;> rfl

/-- A session that is created could as well be created with an oracle that keeps a log. -/
theorem exists_create_watched {world : σ} {grammar : Grammar} {vocabulary : Vocabulary}
    {validates : Bool} {records : List Record} {plain : Session σ κ}
    (created : create oracle world grammar vocabulary validates records = .ok plain) :
    ∃ session : Session (Watched σ) κ,
      create oracle.watched ⟨world, []⟩ grammar vocabulary validates records = .ok session ∧
        session.unwatched = plain := by
  obtain ⟨cursor, size, compiled, counted, rfl⟩ := create_eq_ok_iff.mp created
  -- The log opens with the compiling, and the session is otherwise the same.
  exact ⟨start (oracle.watched.compile grammar ⟨world, []⟩).state cursor grammar vocabulary size
    validates records, create_eq_ok_iff.mpr ⟨cursor, size, compiled, counted, rfl⟩, rfl⟩

/-- A session is another one that was watched from its creation on. -/
structure Watches (oracle : Oracle σ κ) (session : Session (Watched σ) κ) (plain : Session σ κ) :
    Prop where
  reachable : Reachable oracle.watched session
  same : session.unwatched = plain

/-- Every session that comes up can be watched from its creation on. -/
theorem Reachable.exists_watches {plain : Session σ κ} (reachable : Reachable oracle plain) :
    ∃ session, Watches oracle session plain := by
  -- Whatever is done to the session is done to the watched one, too.
  induction reachable with
  | created created =>
    obtain ⟨session, created, same⟩ := exists_create_watched created
    exact ⟨session, .created created, same⟩
  | performed request _ ih =>
    obtain ⟨session, reachable, rfl⟩ := ih
    exact ⟨_, .performed request reachable, by rw [perform_unwatched]; rfl⟩
  | claimed owner _ ih =>
    obtain ⟨session, reachable, rfl⟩ := ih
    exact ⟨_, .claimed owner reachable, by rw [claim_unwatched]; rfl⟩
  | released owner _ ih =>
    obtain ⟨session, reachable, rfl⟩ := ih
    refine ⟨_, .released owner reachable, ?_⟩
    have held : session.unwatched.owner = session.owner := rfl
    simp only [release, held]
    split <;> rfl
  | validating validates _ ih =>
    obtain ⟨session, reachable, rfl⟩ := ih
    exact ⟨_, .validating validates reachable, rfl⟩
  | noted records _ ih =>
    obtain ⟨session, reachable, rfl⟩ := ih
    exact ⟨_, .noted records reachable, rfl⟩

end Session

end ConstrainedDecoding
