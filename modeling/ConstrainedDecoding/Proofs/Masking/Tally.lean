import ConstrainedDecoding.Proofs.Masking.Applier
import ConstrainedDecoding.Proofs.Masking.Outcome

/-! The counts of an applier: every step took one of two paths, or it broke off before either. -/

namespace ConstrainedDecoding

namespace Applier

variable {σ κ : Type}

/-- A step breaks off if the session does not answer for one of the candidates. -/
def BreaksOff (oracle : Oracle σ κ) (array : ScoreArray) (state : Session σ κ × Applier) : Prop :=
  array.IsStep ∧ ∃ fault, .error fault ∈ (state.1.run oracle
    ((topCandidates state.2.depth array.scores).map fun candidate => .admits candidate.id)).1

/-- An applier in use with its session. The steps that broke off are counted as the others are,
from the last reset on. -/
inductive InUse (oracle : Oracle σ κ) : Nat → Session σ κ × Applier → Prop where
  | made {session : Session σ κ} {applier : Applier} (number : Nat)
      (arguments : ApplierArguments) : Session.Reachable oracle session →
      (make number arguments session).answer = .ok applier →
      InUse oracle 0 ((make number arguments session).state, applier)
  | masked {broken : Nat} {state : Session σ κ × Applier} (array : ScoreArray) :
      InUse oracle broken state → ¬BreaksOff oracle array state →
      InUse oracle broken (apply oracle array state).state
  | brokenOff {broken : Nat} {state : Session σ κ × Applier} (array : ScoreArray) :
      InUse oracle broken state → BreaksOff oracle array state →
      InUse oracle (broken + 1) (apply oracle array state).state
  | told {broken : Nat} {state : Session σ κ × Applier} (token : Live) :
      InUse oracle broken state → InUse oracle broken (onToken oracle token state).state
  | asked {broken : Nat} {state : Session σ κ × Applier} :
      InUse oracle broken state → InUse oracle broken (canStop oracle state).state
  | restarted {broken : Nat} {state : Session σ κ × Applier} (grammar : Option Grammar) :
      InUse oracle broken state → (reset oracle grammar state).answer = .ok () →
      InUse oracle 0 (reset oracle grammar state).state
  | stuck {broken : Nat} {state : Session σ κ × Applier} {fault : Fault}
      (grammar : Option Grammar) :
      InUse oracle broken state → (reset oracle grammar state).answer = .error fault →
      InUse oracle broken (reset oracle grammar state).state
  | performed {broken : Nat} {session : Session σ κ} {applier : Applier} (request : Request) :
      InUse oracle broken (session, applier) →
      InUse oracle broken ((session.perform oracle request).state, applier)
  | claimed {broken : Nat} {session : Session σ κ} {applier : Applier} (owner : Owner) :
      InUse oracle broken (session, applier) →
      InUse oracle broken ((session.claim owner).state, applier)
  | released {broken : Nat} {session : Session σ κ} {applier : Applier} (owner : Owner) :
      InUse oracle broken (session, applier) →
      InUse oracle broken (session.release owner, applier)
  | validating {broken : Nat} {session : Session σ κ} {applier : Applier} (validates : Bool) :
      InUse oracle broken (session, applier) →
      InUse oracle broken ({ session with validates }, applier)
  | noted {broken : Nat} {session : Session σ κ} {applier : Applier} (records : List Record) :
      InUse oracle broken (session, applier) →
      InUse oracle broken ({ session with records }, applier)

/-- The counts add up, with a number of steps on neither path. -/
structure Balanced (broken : Nat) (applier : Applier) : Prop where
  steps : applier.stats.steps = applier.stats.fastPath + applier.stats.fullMask + broken
  probes : applier.stats.probes ≤ applier.stats.steps * applier.depth

variable {oracle : Oracle σ κ} {broken : Nat} {applier : Applier} {state : Session σ κ × Applier}

/-- Nothing was counted yet. -/
theorem Balanced.of_zero (fresh : applier.stats = .zero) : applier.Balanced 0 := by
  constructor <;> simp [fresh, MaskStats.zero]

/-- Candidates are counted as they are probed, each of them once at most. -/
theorem admitted_counts (oracle : Oracle σ κ) (candidates : List Candidate)
    (state : Session σ κ × Applier) :
    ∃ probes ≤ candidates.length, (admitted oracle candidates state).state.2 =
      { state.2 with stats := { state.2.stats with probes := state.2.stats.probes + probes } } := by
  -- By induction on the candidates: each one counts once, and a fault ends the counting.
  induction candidates generalizing state with
  | nil => exact ⟨0, le_rfl, rfl⟩
  | cons candidate rest ih =>
    obtain ⟨session, applier⟩ := state
    simp only [admitted]
    split
    · exact ⟨1, Nat.le_add_left 1 _, rfl⟩
    · obtain ⟨probes, few, counted⟩ :=
        ih ((session.admits oracle candidate.id).state, applier.countProbe)
      refine ⟨probes + 1, Nat.succ_le_succ few, ?_⟩
      rw [counted]
      simp [countProbe, Nat.add_right_comm, Nat.add_assoc]

/-- While its candidates are probed, a step is on neither path. -/
theorem Balanced.admitted (oracle : Oracle σ κ) (balanced : state.2.Balanced broken)
    {candidates : List Candidate} (few : candidates.length ≤ state.2.depth) :
    (admitted oracle candidates (state.1, state.2.countStep)).state.2.Balanced (broken + 1) := by
  obtain ⟨probes, bound, counted⟩ := admitted_counts oracle candidates (state.1, state.2.countStep)
  obtain ⟨steps, within⟩ := balanced
  rw [counted]
  -- The step is one of those broken off until it is settled, and its depth makes room for the
  -- probes.
  constructor
  · simp only [countStep, steps]
    omega
  · simp only [countStep, Nat.succ_mul]
    omega

/-- Then it is settled by its candidates, whether or not scores can be kept for them. -/
theorem Balanced.keepCandidates (balanced : state.2.Balanced (broken + 1)) (scores : Scores)
    (ids : List Nat) : (keepCandidates scores ids state).state.2.Balanced broken := by
  -- The step that was open is now one of the fast ones.
  have settled : state.2.countFast.Balanced broken :=
    ⟨by simp only [countFast, balanced.steps]; omega, balanced.probes⟩
  simp only [Applier.keepCandidates]
  split
  · exact settled
  · exact settled

/-- Or it takes the full mask, whether or not there is one. -/
theorem Balanced.keepMasked (balanced : state.2.Balanced (broken + 1)) (scores : Scores) :
    (keepMasked oracle scores state).state.2.Balanced broken := by
  -- The step that was open is now one on the path of the full mask.
  have settled : state.2.countFull.Balanced broken :=
    ⟨by simp only [countFull, balanced.steps]; omega, balanced.probes⟩
  simp only [Applier.keepMasked]
  repeat' split
  all_goals exact settled

/-- An applier probes no more candidates than its depth. -/
theorem length_topCandidates_le (count : Nat) (scores : Scores) :
    (topCandidates count scores).length ≤ count := by
  rw [topCandidates_eq]
  exact List.length_take_le _ _

/-- A step ends where its candidates were probed, if it breaks off, or it takes one of two paths. -/
theorem apply_cases (oracle : Oracle σ κ) {array : ScoreArray} (step : array.IsStep)
    (state : Session σ κ × Applier) :
    let probed := (admitted oracle (topCandidates state.2.depth array.scores)
      (state.1, state.2.countStep)).state
    (BreaksOff oracle array state ∧ (∃ fault, (apply oracle array state).answer = .error fault) ∧
        (apply oracle array state).state = probed) ∨
      ¬BreaksOff oracle array state ∧
        ((apply oracle array state).state = (keepMasked oracle array.scores probed).state ∨
          ∃ ids, (apply oracle array state).state =
            (keepCandidates array.scores ids probed).state) := by
  have same : state.2.countStep.depth = state.2.depth := rfl
  rw [(apply_of_isStep oracle step state).1, (apply_of_isStep oracle step state).2]
  simp only [applyRun, same]
  rcases admitted_run oracle (topCandidates state.2.depth array.scores)
    (state.1, state.2.countStep) with ⟨fault, failed, member⟩ | ⟨ids, found, _, clean, _⟩
  · simp only [failed]
    exact .inl ⟨⟨step, fault, member⟩, ⟨fault, rfl⟩, trivial⟩
  · refine .inr ⟨fun breaks => absurd breaks.2.choose_spec (clean _), ?_⟩
    -- Whether any candidate is admitted decides on the path.
    simp only [found]
    cases ids with
    | nil => exact .inl rfl
    | cons first rest => exact .inr ⟨first :: rest, rfl⟩

/-- A step that breaks off stays on neither path, and any other one takes one of the two. -/
theorem Balanced.apply (balanced : state.2.Balanced broken) (array : ScoreArray) :
    (BreaksOff oracle array state → (apply oracle array state).state.2.Balanced (broken + 1)) ∧
      (¬BreaksOff oracle array state → (apply oracle array state).state.2.Balanced broken) := by
  by_cases step : array.IsStep
  · have probed := balanced.admitted oracle (length_topCandidates_le state.2.depth array.scores)
    rcases apply_cases oracle step state with ⟨breaks, _, same⟩ | ⟨settled, same | ⟨ids, same⟩⟩
    · exact ⟨fun _ => same ▸ probed, fun settled => absurd breaks settled⟩
    · exact ⟨fun breaks => absurd breaks settled, fun _ => same ▸ probed.keepMasked _⟩
    · exact ⟨fun breaks => absurd breaks settled, fun _ => same ▸ probed.keepCandidates _ ids⟩
  · -- An array that makes no step is not counted at all.
    rw [apply_of_not_isStep oracle step]
    exact ⟨fun breaks => absurd breaks.1 step, fun _ => balanced⟩

/-- The counts of an applier in use add up. -/
theorem InUse.balanced (used : InUse oracle broken state) : state.2.Balanced broken := by
  induction used with
  | made number arguments _ made =>
    obtain ⟨options, _, rfl⟩ := make_eq_ok made
    exact .of_zero rfl
  | masked array _ settled balanced => exact (balanced.apply array).2 settled
  | brokenOff array _ breaks balanced => exact (balanced.apply array).1 breaks
  | told token _ balanced =>
    -- A token that is no integer is not even reported to the session.
    simp only [onToken]
    split
    · exact balanced
    · exact balanced
  | asked _ balanced => exact balanced
  | restarted grammar _ succeeded balanced =>
    simp only [reset] at succeeded ⊢
    split at succeeded
    · cases succeeded
    · exact .of_zero rfl
  | stuck grammar _ failed balanced =>
    simp only [reset] at failed ⊢
    split at failed
    · exact balanced
    · cases failed
  | performed _ _ balanced => exact balanced
  | claimed _ _ balanced => exact balanced
  | released _ _ balanced => exact balanced
  | validating _ _ balanced => exact balanced
  | noted _ _ balanced => exact balanced

/--
Every step took one of the two paths, except for those that broke off.

No more candidates were probed than there were steps times the depth, and a step that breaks off
does not mask its array.
-/
theorem counts_add_up (used : InUse oracle broken state) :
    let stats := state.2.stats
    stats.steps = stats.fastPath + stats.fullMask + broken ∧
      stats.probes ≤ stats.steps * state.2.depth ∧
      ∀ array, BreaksOff oracle array state →
        ∃ fault, (apply oracle array state).answer = .error fault := by
  refine ⟨used.balanced.steps, used.balanced.probes, fun array breaks => ?_⟩
  -- A step that breaks off is not among those that settle.
  rcases apply_cases oracle breaks.1 state with ⟨_, failed, _⟩ | ⟨settled, _⟩
  · exact failed
  · exact absurd breaks settled

/-- An array of a single score. -/
def loneScore : ScoreArray := ⟨[1], .floats .single [.ofInt 0]⟩

/-- A session that a token has poisoned, with the applier that the token was reported to. -/
def lostPairs : Session Unit Place × Applier :=
  (onToken Automata.alternating.oracle (.int 1)
    ((make 0 ⟨none, .null, .null⟩ (Automata.alternatingSession false)).state,
      ⟨0, 3, .bool false, .zero⟩)).state

/-- The poisoned session does not answer for the only candidate. -/
theorem lostPairs_breaksOff : BreaksOff Automata.alternating.oracle loneScore lostPairs := by
  refine ⟨⟨0, rfl⟩, ?_⟩
  -- There is one candidate, and a poisoned session answers no probe.
  have candidates : topCandidates lostPairs.2.depth loneScore.scores = [⟨0, .ofInt 0⟩] := by
    have choosable : Candidate.choosable loneScore.scores.single = [⟨0, .ofInt 0⟩] := by
      decide +kernel
    rw [topCandidates_eq, choosable, List.mergeSort_singleton]
    rfl
  rw [candidates]
  exact ⟨_, List.mem_singleton_self _⟩

/-- The applier of the poisoned session has a step that broke off. -/
theorem lostPairs_inUse : InUse Automata.alternating.oracle 1
    (apply Automata.alternating.oracle loneScore lostPairs).state :=
  .brokenOff loneScore (.told (.int 1) (.made 0 ⟨none, .null, .null⟩
    (.created (Automata.alternating_create false)) rfl)) lostPairs_breaksOff

/-- A step of the poisoned session is beside those of either path. -/
theorem counts_add_up_lost :
    let stats := (apply Automata.alternating.oracle loneScore lostPairs).state.2.stats
    stats.steps = stats.fastPath + stats.fullMask + 1 :=
  (counts_add_up lostPairs_inUse).1

/-- So the two paths do not make up for all steps that an applier counts. -/
theorem poisoned_step_on_neither_path :
    ∃ (broken : Nat) (state : Session Unit Place × Applier),
      InUse Automata.alternating.oracle broken state ∧
        state.2.stats.steps ≠ state.2.stats.fastPath + state.2.stats.fullMask := by
  have balanced := lostPairs_inUse.balanced
  exact ⟨1, _, lostPairs_inUse, by rw [balanced.steps]; omega⟩

end Applier

end ConstrainedDecoding
