import ConstrainedDecoding.Masking.Processor
import ConstrainedDecoding.Proofs.Session.Cache

/-! Appliers and processors know their session by its answers alone. -/

namespace ConstrainedDecoding

variable {σ κ τ ν α β : Type}

/--
Sessions that stay alike under some of the requests, and answer those alike.

All queries are among these requests, and what is written into the records is never seen.
-/
structure Simulation (oracle : Oracle σ κ) (other : Oracle τ ν) (asks : Request → Prop)
    (alike : Session σ κ → Session τ ν → Prop) : Prop where
  queries : ∀ request : Request, request.isQuery = true → asks request
  perform : ∀ {session : Session σ κ} {twin : Session τ ν} (request : Request),
    alike session twin → asks request →
    (session.perform oracle request).answer = (twin.perform other request).answer ∧
      alike (session.perform oracle request).state (twin.perform other request).state
  noted : ∀ {session : Session σ κ} {twin : Session τ ν} (records : List Record),
    alike session twin →
    alike { session with records := session.records ++ records }
      { twin with records := twin.records ++ records }

/-- What queries and records leave true of a session is a likeness of the session to itself. -/
theorem Simulation.of_kept {oracle : Oracle σ κ} {kept : Session σ κ → Prop}
    (query : ∀ {session : Session σ κ} (request : Request), kept session →
      request.isQuery = true → kept (session.perform oracle request).state)
    (noted : ∀ {session : Session σ κ} (records : List Record), kept session →
      kept { session with records := session.records ++ records }) :
    Simulation oracle oracle (·.isQuery = true) fun session twin =>
      session = twin ∧ kept session where
  queries _ query := query
  perform := by
    -- The two sessions are one, so they answer alike.
    rintro session _ request ⟨rfl, holds⟩ asked
    exact ⟨rfl, rfl, query request holds asked⟩
  noted := by
    rintro session _ records ⟨rfl, holds⟩
    exact ⟨rfl, noted records holds⟩

/-- Sessions that are alike, with the same thing beside them. -/
structure Beside (alike : Session σ κ → Session τ ν → Prop) (state : Session σ κ × β)
    (twin : Session τ ν × β) : Prop where
  session : alike state.1 twin.1
  same : state.2 = twin.2

/-- Turns that answer alike and leave sessions that are alike, with the same thing beside them. -/
structure Turn.Matches (alike : Session σ κ → Session τ ν → Prop)
    (turn : Turn (Session σ κ × β) α) (twin : Turn (Session τ ν × β) α) : Prop where
  answer : turn.answer = twin.answer
  state : Beside alike turn.state twin.state

section

variable {oracle : Oracle σ κ} {other : Oracle τ ν} {asks : Request → Prop}
  {alike : Session σ κ → Session τ ν → Prop} {session : Session σ κ} {twin : Session τ ν}

namespace Simulation

/-- Sessions that are alike admit the same tokens. -/
theorem admits (simulation : Simulation oracle other asks alike) (same : alike session twin)
    (token : Int) :
    (session.admits oracle token).answer = (twin.admits other token).answer ∧
      alike (session.admits oracle token).state (twin.admits other token).state := by
  -- A reply tells its answer, and leaves the session where the answer does.
  obtain ⟨answer, after⟩ := simulation.perform (.admits token) same (simulation.queries _ rfl)
  exact ⟨Session.answer_of_reply (fun equal => Reply.flag.inj equal) answer, after⟩

/-- They have the same mask. -/
theorem fullMask (simulation : Simulation oracle other asks alike) (same : alike session twin) :
    (session.fullMask oracle).answer = (twin.fullMask other).answer ∧
      alike (session.fullMask oracle).state (twin.fullMask other).state := by
  obtain ⟨answer, after⟩ := simulation.perform .mask same (simulation.queries _ rfl)
  exact ⟨Session.answer_of_reply (fun equal => Reply.mask.inj equal) answer, after⟩

/-- They go on alike, if they do so at all. -/
theorem advance (simulation : Simulation oracle other asks alike) (same : alike session twin)
    {token : Int} (asked : asks (.advance token)) :
    (session.advance oracle token).answer = (twin.advance other token).answer ∧
      alike (session.advance oracle token).state (twin.advance other token).state := by
  obtain ⟨answer, after⟩ := simulation.perform _ same asked
  exact ⟨Session.answer_of_reply (fun _ => rfl) answer, after⟩

/-- They may end alike. -/
theorem isComplete (simulation : Simulation oracle other asks alike) (same : alike session twin) :
    (session.isComplete oracle).answer = (twin.isComplete other).answer ∧
      alike (session.isComplete oracle).state (twin.isComplete other).state := by
  obtain ⟨answer, after⟩ := simulation.perform .isComplete same (simulation.queries _ rfl)
  exact ⟨Session.answer_of_reply (fun equal => Reply.flag.inj equal) answer, after⟩

/-- They are reset alike. -/
theorem reset (simulation : Simulation oracle other asks alike) (same : alike session twin)
    {grammar : Option Grammar} (asked : asks (.reset grammar)) :
    (session.reset oracle grammar).answer = (twin.reset other grammar).answer ∧
      alike (session.reset oracle grammar).state (twin.reset other grammar).state := by
  obtain ⟨answer, after⟩ := simulation.perform _ same asked
  exact ⟨Session.answer_of_reply (fun _ => rfl) answer, after⟩

end Simulation

namespace Applier

variable {state : Session σ κ × Applier} {twinState : Session τ ν × Applier}

/-- A report is the same for both. -/
theorem report_alike (simulation : Simulation oracle other asks alike) (same : alike session twin)
    (applier : Applier) (text : String) :
    alike (applier.report text session) (applier.report text twin) := by
  -- What is reported depends on the applier only.
  unfold report
  split
  · exact simulation.noted _ same
  · exact same

/-- The same candidates are admitted. -/
theorem admitted_matches (simulation : Simulation oracle other asks alike)
    (same : Beside alike state twinState) (candidates : List Candidate) :
    (admitted oracle candidates state).Matches alike (admitted other candidates twinState) := by
  induction candidates generalizing state twinState with
  | nil => exact ⟨rfl, same⟩
  | cons candidate rest ih =>
    obtain ⟨session, applier⟩ := state
    obtain ⟨twin, _⟩ := twinState
    obtain ⟨same, rfl⟩ := same
    obtain ⟨answer, after⟩ := simulation.admits same candidate.id
    simp only [admitted, answer]
    -- A probe that fails ends the probing for both.
    split
    · exact ⟨rfl, after, rfl⟩
    · have same : Beside alike ((session.admits oracle candidate.id).state, applier.countProbe)
        ((twin.admits other candidate.id).state, applier.countProbe) := ⟨after, rfl⟩
      obtain ⟨answer, later⟩ := ih same
      exact ⟨by rw [answer], later⟩

/-- The path of the best candidates leads to the same scores. -/
theorem keepCandidates_matches (simulation : Simulation oracle other asks alike)
    (same : Beside alike state twinState) (scores : Scores) (ids : List Nat) :
    (keepCandidates scores ids state).Matches alike (keepCandidates scores ids twinState) := by
  obtain ⟨session, applier⟩ := state
  obtain ⟨twin, _⟩ := twinState
  obtain ⟨same, rfl⟩ := same
  simp only [keepCandidates]
  -- The scores are the same for both, and so is whether they can be kept.
  split
  · exact ⟨rfl, same, rfl⟩
  · exact ⟨rfl, report_alike simulation same _ _, rfl⟩

/-- So does the path of the full mask. -/
theorem keepMasked_matches (simulation : Simulation oracle other asks alike)
    (same : Beside alike state twinState) (scores : Scores) :
    (keepMasked oracle scores state).Matches alike (keepMasked other scores twinState) := by
  obtain ⟨session, applier⟩ := state
  obtain ⟨twin, _⟩ := twinState
  obtain ⟨same, rfl⟩ := same
  -- The mask is the same, and so is what it leaves of the scores.
  obtain ⟨mask, asked⟩ := simulation.fullMask same
  simp only [keepMasked, mask]
  split
  · exact ⟨rfl, asked, rfl⟩
  · split
    · exact ⟨rfl, asked, rfl⟩
    · exact ⟨rfl, report_alike simulation asked _ _, rfl⟩

/-- Scores are masked on the same path. -/
theorem applyRun_matches (simulation : Simulation oracle other asks alike)
    (same : Beside alike state twinState) (scores : Scores) :
    (applyRun oracle scores state).Matches alike (applyRun other scores twinState) := by
  obtain ⟨session, applier⟩ := state
  obtain ⟨twin, _⟩ := twinState
  obtain ⟨same, rfl⟩ := same
  have counted : Beside alike (session, applier.countStep) (twin, applier.countStep) := ⟨same, rfl⟩
  obtain ⟨answer, probed⟩ := admitted_matches simulation counted
    (topCandidates applier.countStep.depth scores)
  simp only [applyRun, answer]
  -- Whether any candidate is admitted decides on the path.
  split
  · exact ⟨rfl, probed⟩
  · exact keepMasked_matches simulation probed scores
  · exact keepCandidates_matches simulation probed scores _

/-- So are arrays, of whatever extents. -/
theorem apply_matches (simulation : Simulation oracle other asks alike)
    (same : Beside alike state twinState) (array : ScoreArray) :
    (apply oracle array state).Matches alike (apply other array twinState) := by
  -- Only arrays of one dimension reach the session at all.
  simp only [apply]
  split
  · exact ⟨rfl, same⟩
  · obtain ⟨answer, masked⟩ := applyRun_matches simulation same array.scores
    exact ⟨by rw [answer], masked⟩
  · exact ⟨rfl, same⟩

/-- A token is reported to both alike. -/
theorem onToken_matches (simulation : Simulation oracle other asks alike)
    (advances : ∀ token, asks (.advance token)) (same : Beside alike state twinState)
    (token : Live) :
    (onToken oracle token state).Matches alike (onToken other token twinState) := by
  simp only [onToken]
  -- The token is converted without the session, and then both advance by it.
  split
  · exact ⟨rfl, same⟩
  · obtain ⟨answer, after⟩ := simulation.advance same.session (advances _)
    exact ⟨answer, after, same.same⟩

/-- Both streams may end alike. -/
theorem canStop_matches (simulation : Simulation oracle other asks alike)
    (same : Beside alike state twinState) :
    (canStop oracle state).Matches alike (canStop other twinState) := by
  obtain ⟨answer, after⟩ := simulation.isComplete same.session
  exact ⟨answer, after, same.same⟩

/-- The counts begin anew for both, or for neither. -/
theorem reset_matches (simulation : Simulation oracle other asks alike)
    {grammar : Option Grammar} (asked : asks (.reset grammar))
    (same : Beside alike state twinState) :
    (reset oracle grammar state).Matches alike (reset other grammar twinState) := by
  obtain ⟨answer, after⟩ := simulation.reset same.session asked
  simp only [reset, answer]
  split
  · exact ⟨rfl, after, same.same⟩
  · exact ⟨rfl, after, by rw [same.same]⟩

end Applier

namespace Processor

variable {state : Session σ κ × Processor} {twinState : Session τ ν × Processor}

/-- What matches for the applier matches for its processor. -/
theorem within_matches {action : Session σ κ × Applier → Turn (Session σ κ × Applier) α}
    {twinAction : Session τ ν × Applier → Turn (Session τ ν × Applier) α}
    (matching : ∀ {inner twinInner}, Beside alike inner twinInner →
      (action inner).Matches alike (twinAction twinInner))
    (same : Beside alike state twinState) :
    (within action state).Matches alike (within twinAction twinState) := by
  obtain ⟨session, processor⟩ := state
  obtain ⟨twin, _⟩ := twinState
  obtain ⟨same, rfl⟩ := same
  -- What is beside the applier does not change, and the appliers are the same.
  have inner : Beside alike (session, processor.applier) (twin, processor.applier) := ⟨same, rfl⟩
  obtain ⟨answer, after, beside⟩ := matching inner
  exact ⟨answer, after, by simp only [within, beside]⟩

/-- Rows are masked alike. -/
theorem applyRows_matches (simulation : Simulation oracle other asks alike)
    (same : Beside alike state twinState) (rows : List ScoreArray) :
    (applyRows oracle rows state).Matches alike (applyRows other rows twinState) := by
  induction rows generalizing state twinState with
  | nil => exact ⟨rfl, same⟩
  | cons row rest ih =>
    obtain ⟨answer, after⟩ := within_matches
      (fun inner => Applier.apply_matches simulation inner row) same
    simp only [applyRows, answer]
    -- The first row that cannot be masked is the last for both.
    split
    · exact ⟨rfl, after⟩
    · obtain ⟨answer, later⟩ := ih after
      exact ⟨by rw [answer], later⟩

/-- Batches are masked alike. -/
theorem applyBatch_matches (simulation : Simulation oracle other asks alike)
    (same : Beside alike state twinState) (array : ScoreArray) :
    (applyBatch oracle array state).Matches alike (applyBatch other array twinState) := by
  simp only [applyBatch]
  -- A batch is masked as a single step or row by row, and other arrays are refused.
  split
  · exact within_matches (fun inner => Applier.apply_matches simulation inner array) same
  · exact ⟨rfl, same⟩
  · obtain ⟨answer, after⟩ := applyRows_matches simulation same array.rows
    exact ⟨by rw [answer], after⟩

/-- Tokens are reported alike, up to the first that is not taken. -/
theorem report_matches (simulation : Simulation oracle other asks alike)
    (advances : ∀ token, asks (.advance token)) (same : Beside alike state twinState)
    (tokens : List Live) :
    (report oracle tokens state).Matches alike (report other tokens twinState) := by
  -- By induction on the tokens: after each one, the two go on from matching states.
  induction tokens generalizing state twinState with
  | nil => exact ⟨rfl, same⟩
  | cons token rest ih =>
    obtain ⟨session, processor⟩ := state
    obtain ⟨twin, _⟩ := twinState
    obtain ⟨same, rfl⟩ := same
    have inner : Beside alike (session, processor.applier) (twin, processor.applier) := ⟨same, rfl⟩
    obtain ⟨answer, after, beside⟩ := Applier.onToken_matches simulation advances inner token
    simp only [report, answer, beside]
    split
    · exact ⟨rfl, after, rfl⟩
    · exact ih ⟨after, rfl⟩

/-- The new tokens are the same, and so is what becomes of them. -/
theorem sync_matches (simulation : Simulation oracle other asks alike)
    (advances : ∀ token, asks (.advance token)) (same : Beside alike state twinState)
    (ids : TokenArray) :
    (sync oracle ids state).Matches alike (sync other ids twinState) := by
  simp only [sync, same.same]
  -- Either nothing is tracked, or the tokens are of no use, or the new ones are reported.
  split
  · exact ⟨rfl, same⟩
  · split
    · exact ⟨rfl, same⟩
    · exact report_matches simulation advances same _

/-- Calls are answered alike. -/
theorem call_matches (simulation : Simulation oracle other asks alike)
    (advances : ∀ token, asks (.advance token)) (same : Beside alike state twinState)
    (ids : TokenArray) (array : ScoreArray) :
    (call oracle ids array state).Matches alike (call other ids array twinState) := by
  obtain ⟨answer, after⟩ := sync_matches simulation advances same ids
  simp only [call, answer]
  -- Both come to the batch, or neither of them does.
  split
  · exact ⟨rfl, after⟩
  · exact applyBatch_matches simulation after array

/-- The index goes back for both, or for neither. -/
theorem reset_matches (simulation : Simulation oracle other asks alike)
    {grammar : Option Grammar} (asked : asks (.reset grammar))
    (same : Beside alike state twinState) :
    (reset oracle grammar state).Matches alike (reset other grammar twinState) := by
  obtain ⟨answer, after⟩ := within_matches (Applier.reset_matches simulation asked) same
  simp only [reset, answer]
  split
  · exact ⟨rfl, after⟩
  · exact ⟨rfl, after.session, by rw [after.same]⟩

end Processor

end

end ConstrainedDecoding
