import ConstrainedDecoding.Masking.Processor
import ConstrainedDecoding.Proofs.Scores.Rows
import ConstrainedDecoding.Proofs.Session.Steady

/-! What an applier makes of scores, in terms of what its session answers. -/

namespace ConstrainedDecoding

variable {σ κ α : Type}

/-- The candidates that are admitted, unless asking about one of them fails. -/
def chosen (ask : Int → Except Fault Bool) : List Candidate → Except Fault (List Nat)
  | [] => .ok []
  | candidate :: rest =>
    match ask candidate.id with
    | .error fault => .error fault
    | .ok admits => (chosen ask rest).map fun ids => if admits then candidate.id :: ids else ids

/-- What the full mask leaves of scores. -/
def maskedBy (full : Except Fault Mask) (scores : Scores) : Except Fault Scores :=
  full.bind fun mask => scores.keepWhere fun index value => mask.getD index false && value ≠ .nan

/-- What is left of scores, by the best candidates or else by the full mask. -/
def outcomeOfRun (ask : Int → Except Fault Bool) (full : Except Fault Mask) (depth : Nat)
    (scores : Scores) : Except Fault Scores :=
  match chosen ask (topCandidates depth scores) with
  | .error fault => .error fault
  | .ok [] => maskedBy full scores
  | .ok ids => scores.keepWhere fun index _ => ids.contains index

/-- What is left of an array, by what a session answers and how many candidates are probed. -/
def outcome (ask : Int → Except Fault Bool) (full : Except Fault Mask) (depth : Nat)
    (array : ScoreArray) : Except Fault ScoreArray :=
  match array.extents with
  | [0] => .ok array
  | [_] => (outcomeOfRun ask full depth array.scores).map fun kept => ⟨array.extents, kept⟩
  | extents => .error (.invalid (.scoreShape extents))

/-- An array makes a step if it is one-dimensional and not empty. -/
def ScoreArray.IsStep (array : ScoreArray) : Prop :=
  ∃ count, array.extents = [count + 1]

/-- Masking changes neither the format of scores nor how many there are. -/
theorem outcomeOfRun_shape {ask : Int → Except Fault Bool} {full : Except Fault Mask} {depth : Nat}
    {scores kept : Scores} (masked : outcomeOfRun ask full depth scores = .ok kept) :
    kept.precision? = scores.precision? ∧ kept.length = scores.length := by
  unfold outcomeOfRun at masked
  split at masked
  · cases masked
  · -- The full mask has to be there before it can leave anything of the scores.
    cases full with
    | error fault => cases masked
    | ok mask => exact Scores.keepWhere_shape masked
  · exact Scores.keepWhere_shape masked

/-- What is left of a row is a row of the same extents and format. -/
theorem outcome_isRow {ask : Int → Except Fault Bool} {full : Except Fault Mask} {depth : Nat}
    {inner : List Nat} {format : Option Precision} {row kept : ScoreArray}
    (isRow : row.IsRow inner format) (masked : outcome ask full depth row = .ok kept) :
    kept.IsRow inner format := by
  unfold outcome at masked
  split at masked
  · cases masked
    exact isRow
  · -- Only an array of one extent is changed, and it is as long as before.
    cases run : outcomeOfRun ask full depth row.scores with
    | error fault => simp [run, Except.map] at masked
    | ok scores =>
      simp only [run, Except.map, Except.ok.injEq] at masked
      obtain ⟨precision, length⟩ := outcomeOfRun_shape run
      subst masked
      exact ⟨isRow.extents, precision.trans isRow.format, length.trans isRow.full⟩
  · cases masked

/-- A turn of an applier has a certain outcome, and leaves a session of a kind and a depth. -/
structure Turn.Gives (turn : Turn (Session σ κ × Applier) α) (result : Except Fault α)
    (kind : Session σ κ → Prop) (depth : Nat) : Prop where
  answer : turn.answer = result
  session : kind turn.state.1
  depth : turn.state.2.depth = depth

namespace Applier

variable {oracle : Oracle σ κ} {ask : Int → Except Fault Bool} {full : Except Fault Mask}
  {kind : Session σ κ → Prop} {session : Session σ κ} {state : Session σ κ × Applier}

/-- A session stays of its kind when a step is reported. -/
theorem report_kind (steady : Session.Steady oracle ask full kind) (holds : kind session)
    (applier : Applier) (text : String) : kind (applier.report text session) := by
  unfold report
  split
  · exact steady.noted _ holds
  · exact holds

/-- Which candidates are admitted depends on what the session answers only. -/
theorem admitted_gives (steady : Session.Steady oracle ask full kind) (holds : kind state.1)
    (candidates : List Candidate) :
    (admitted oracle candidates state).Gives (chosen ask candidates) kind state.2.depth := by
  induction candidates generalizing state with
  | nil => exact ⟨rfl, holds, rfl⟩
  | cons candidate rest ih =>
    obtain ⟨session, applier⟩ := state
    obtain ⟨answer, after⟩ := steady.admits candidate.id holds
    simp only [admitted, chosen, answer]
    -- A probe that fails ends the probing, and any other one leaves the answers as they are.
    cases ask candidate.id with
    | error fault => exact ⟨rfl, after, rfl⟩
    | ok admits =>
      have last : (admitted oracle rest ((session.admits oracle candidate.id).state,
        applier.countProbe)).Gives (chosen ask rest) kind applier.depth := ih after
      exact ⟨congrArg (Except.map _) last.answer, last.session, last.depth⟩

/-- The path of the best candidates depends on the scores and on the candidates only. -/
theorem keepCandidates_gives (steady : Session.Steady oracle ask full kind) (holds : kind state.1)
    (scores : Scores) (ids : List Nat) :
    (keepCandidates scores ids state).Gives (scores.keepWhere fun index _ => ids.contains index)
      kind state.2.depth := by
  simp only [keepCandidates]
  -- Whether scores can be kept is a matter of their kind, and a report leaves the kind of session.
  cases scores.keepWhere fun index _ => ids.contains index with
  | error fault => exact ⟨rfl, holds, rfl⟩
  | ok kept => exact ⟨rfl, report_kind steady holds _ _, rfl⟩

/-- The path of the full mask depends on what the session answers for it. -/
theorem keepMasked_gives (steady : Session.Steady oracle ask full kind) (holds : kind state.1)
    (scores : Scores) :
    (keepMasked oracle scores state).Gives (maskedBy full scores) kind state.2.depth := by
  obtain ⟨answer, after⟩ := steady.fullMask holds
  simp only [keepMasked, maskedBy, answer]
  -- Both the mask and keeping scores by it can fail, and neither changes the kind of session.
  cases full with
  | error fault => exact ⟨rfl, after, rfl⟩
  | ok mask =>
    simp only [Except.bind]
    cases scores.keepWhere fun index value => mask.getD index false && value ≠ .nan with
    | error fault => exact ⟨rfl, after, rfl⟩
    | ok kept => exact ⟨rfl, report_kind steady after _ _, rfl⟩

/-- What is left of scores depends on what the session answers and on the depth only. -/
theorem applyRun_gives (steady : Session.Steady oracle ask full kind) (holds : kind state.1)
    (scores : Scores) :
    (applyRun oracle scores state).Gives (outcomeOfRun ask full state.2.depth scores) kind
      state.2.depth := by
  obtain ⟨session, applier⟩ := state
  -- To count a step changes neither the session nor the depth.
  have counted : kind ((session, applier.countStep) : Session σ κ × Applier).1 := holds
  have same : applier.countStep.depth = applier.depth := rfl
  obtain ⟨answer, probed, depth⟩ := admitted_gives steady counted
    (topCandidates applier.depth scores)
  simp only [same] at depth
  simp only [applyRun, outcomeOfRun, same, answer]
  cases chosen ask (topCandidates applier.depth scores) with
  | error fault => exact ⟨rfl, probed, depth⟩
  | ok ids =>
    cases ids with
    | nil =>
      have kept := keepMasked_gives steady probed scores
      exact ⟨kept.answer, kept.session, kept.depth.trans depth⟩
    | cons first rest =>
      have kept := keepCandidates_gives steady probed scores (first :: rest)
      exact ⟨kept.answer, kept.session, kept.depth.trans depth⟩

/-- So does what is left of an array. -/
theorem apply_gives (steady : Session.Steady oracle ask full kind) (holds : kind state.1)
    (array : ScoreArray) :
    (apply oracle array state).Gives (outcome ask full state.2.depth array) kind
      state.2.depth := by
  obtain ⟨extents, scores⟩ := array
  -- Only an array of one dimension that is not empty reaches the session.
  rcases extents with _ | ⟨count, _ | ⟨second, inner⟩⟩
  · exact ⟨rfl, holds, rfl⟩
  · cases count with
    | zero => exact ⟨rfl, holds, rfl⟩
    | succ count =>
      have run := applyRun_gives steady holds scores
      exact ⟨congrArg (Except.map _) run.answer, run.session, run.depth⟩
  · cases count with
    | zero => exact ⟨rfl, holds, rfl⟩
    | succ count => exact ⟨rfl, holds, rfl⟩

/-- An array that makes a step is masked as its scores are. -/
theorem apply_of_isStep (oracle : Oracle σ κ) {array : ScoreArray} (step : array.IsStep)
    (state : Session σ κ × Applier) :
    (apply oracle array state).answer =
        (applyRun oracle array.scores state).answer.map (fun kept => ⟨array.extents, kept⟩) ∧
      (apply oracle array state).state = (applyRun oracle array.scores state).state := by
  obtain ⟨extents, scores⟩ := array
  obtain ⟨count, rfl⟩ := step
  exact ⟨rfl, rfl⟩

/-- Any other array leaves the session and the applier as they are. -/
theorem apply_of_not_isStep (oracle : Oracle σ κ) {array : ScoreArray} (idle : ¬array.IsStep)
    (state : Session σ κ × Applier) : (apply oracle array state).state = state := by
  obtain ⟨extents, scores⟩ := array
  -- An array of one extent is idle only without any scores, and any other one is idle anyway.
  rcases extents with _ | ⟨count, _ | ⟨second, inner⟩⟩
  · rfl
  · cases count with
    | zero => rfl
    | succ count => exact absurd ⟨count, rfl⟩ idle
  · cases count <;> rfl

/-- Candidates are probed as the session is asked about one after the other, until it fails. -/
theorem admitted_run (oracle : Oracle σ κ) (candidates : List Candidate)
    (state : Session σ κ × Applier) :
    let run := state.1.run oracle (candidates.map fun candidate => .admits candidate.id)
    let turn := admitted oracle candidates state
    (∃ fault, turn.answer = .error fault ∧ .error fault ∈ run.1) ∨
      ∃ ids, turn.answer = .ok ids ∧ turn.state.1 = run.2 ∧ (∀ fault, .error fault ∉ run.1) ∧
        (ids = [] ↔ .ok (.flag true) ∉ run.1) := by
  induction candidates generalizing state with
  | nil => exact .inr ⟨[], rfl, rfl, fun _ => List.not_mem_nil, iff_of_true rfl List.not_mem_nil⟩
  | cons candidate rest ih =>
    obtain ⟨session, applier⟩ := state
    simp only [admitted, List.map_cons, Session.run, Session.perform, Turn.reply]
    cases asked : (session.admits oracle candidate.id).answer with
    | error fault => exact .inl ⟨fault, rfl, List.mem_cons_self⟩
    | ok admits =>
      -- The answer about the first candidate comes before those about the others.
      rcases ih ((session.admits oracle candidate.id).state, applier.countProbe) with
        ⟨fault, failed, member⟩ | ⟨ids, found, same, clean, none⟩
      · exact .inl ⟨fault, by rw [failed]; rfl, .tail _ member⟩
      · refine .inr ⟨_, by rw [found]; rfl, same, ?_, ?_⟩
        · exact fun fault => by simpa [Except.map] using clean fault
        · cases admits <;> simp [Except.map, none]

end Applier

end ConstrainedDecoding
