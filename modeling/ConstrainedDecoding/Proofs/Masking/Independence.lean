import ConstrainedDecoding.Proofs.Masking.Applier
import ConstrainedDecoding.Proofs.Masking.Outcome
import ConstrainedDecoding.Proofs.Oracle.Automata
import ConstrainedDecoding.Proofs.Outcomes
import ConstrainedDecoding.Proofs.Scores.Logits

/-! What is masked before an array does not show in it, and rows are masked each on its own. -/

namespace ConstrainedDecoding

variable {σ κ γ : Type}

/-- What can be asked beside a stream without moving on: to mask scores, or about the mask. -/
inductive Inquiry where
  | scores (array : ScoreArray)
  | mask
  | admits (token : Int)

/-- What an inquiry brings to light. -/
inductive Finding where
  | scores (array : ScoreArray)
  | mask (mask : Mask)
  | flag (value : Bool)

/-- What is found out, by what a session answers and how many candidates are probed. -/
def Inquiry.finding (ask : Int → Except Fault Bool) (full : Except Fault Mask) (depth : Nat) :
    Inquiry → Except Fault Finding
  | scores array => (outcome ask full depth array).map .scores
  | mask => full.map .mask
  | admits token => (ask token).map .flag

namespace Applier

/-- An inquiry made of an applier or its session. -/
def inquire (oracle : Oracle σ κ) (inquiry : Inquiry) (state : Session σ κ × Applier) :
    Turn (Session σ κ × Applier) Finding :=
  match inquiry with
  | .scores array =>
    let turn := apply oracle array state
    ⟨turn.answer.map .scores, turn.state⟩
  | .mask =>
    let turn := state.1.fullMask oracle
    ⟨turn.answer.map .mask, (turn.state, state.2)⟩
  | .admits token =>
    let turn := state.1.admits oracle token
    ⟨turn.answer.map .flag, (turn.state, state.2)⟩

/-- Inquiries made one after the other, whether they succeed or not. -/
def inquireAll (oracle : Oracle σ κ) :
    List Inquiry → Session σ κ × Applier → List (Except Fault Finding) × (Session σ κ × Applier)
  | [], state => ([], state)
  | inquiry :: rest, state =>
    let turn := inquire oracle inquiry state
    let (findings, last) := inquireAll oracle rest turn.state
    (turn.answer :: findings, last)

section

variable {oracle : Oracle σ κ} {ask : Int → Except Fault Bool} {full : Except Fault Mask}
  {kind : Session σ κ → Prop} {state : Session σ κ × Applier}

/-- Every inquiry has one finding, whatever was inquired before. -/
theorem inquire_gives (steady : Session.Steady oracle ask full kind) (holds : kind state.1)
    (inquiry : Inquiry) :
    (inquire oracle inquiry state).Gives (inquiry.finding ask full state.2.depth) kind
      state.2.depth := by
  -- What is asked of the session is answered steadily, and the applier keeps its depth.
  cases inquiry with
  | scores array =>
    have given := apply_gives steady holds array
    exact ⟨congrArg (Except.map _) given.answer, given.session, given.depth⟩
  | mask =>
    obtain ⟨answer, after⟩ := steady.fullMask holds
    exact ⟨congrArg (Except.map _) answer, after, rfl⟩
  | admits token =>
    obtain ⟨answer, after⟩ := steady.admits token holds
    exact ⟨congrArg (Except.map _) answer, after, rfl⟩

/-- All inquiries of a sequence have the findings that they would have on their own. -/
theorem inquireAll_finds (steady : Session.Steady oracle ask full kind) (holds : kind state.1)
    (inquiries : List Inquiry) :
    (inquireAll oracle inquiries state).1 = inquiries.map (Inquiry.finding ask full state.2.depth) ∧
      kind (inquireAll oracle inquiries state).2.1 := by
  induction inquiries generalizing state with
  | nil => exact ⟨rfl, holds⟩
  | cons inquiry rest ih =>
    -- The next inquiry meets a session of the same kind and an applier of the same depth.
    obtain ⟨answer, after, depth⟩ := inquire_gives steady holds inquiry
    obtain ⟨findings, last⟩ := ih after
    rw [depth] at findings
    exact ⟨List.cons_eq_cons.mpr ⟨answer, findings⟩, last⟩

end

end Applier

namespace Processor

/-- There is nothing to report: no tokens are tracked, or all there are have been reported. -/
def HasReported (processor : Processor) (ids : TokenArray) : Prop :=
  processor.promptLength.isNull = true ∨
    ∃ tokens, generated processor.promptLength ids = .ok tokens ∧ tokens.length ≤ processor.index

section

variable {oracle : Oracle σ κ} {ask : Int → Except Fault Bool} {full : Except Fault Mask}
  {kind : Session σ κ → Prop} {state : Session σ κ × Processor}

/-- Without news the session is left alone. -/
theorem sync_of_reported {ids : TokenArray} (reported : state.2.HasReported ids) :
    sync oracle ids state = ⟨.ok (), state⟩ := by
  simp only [sync]
  rcases reported with none | ⟨tokens, same, known⟩
  · rw [if_pos none]
  · split
    · rfl
    · -- The tokens after those that were reported are none.
      rw [same]
      simp only [List.drop_eq_nil_of_le known, report]

/-- The rows of a batch are masked each as it would be on its own. -/
theorem applyRows_answer (steady : Session.Steady oracle ask full kind) (holds : kind state.1)
    (rows : List ScoreArray) :
    (applyRows oracle rows state).answer = rows.mapM (outcome ask full state.2.applier.depth) ∧
      kind (applyRows oracle rows state).state.1 := by
  induction rows generalizing state with
  | nil => exact ⟨rfl, holds⟩
  | cons row rest ih =>
    have inner : kind ((state.1, state.2.applier) : Session σ κ × Applier).1 := holds
    have given := Applier.apply_gives steady inner row
    have answer : (within (Applier.apply oracle row) state).answer =
      outcome ask full state.2.applier.depth row := given.answer
    simp only [applyRows, answer, List.mapM_cons]
    cases outcome ask full state.2.applier.depth row with
    | error fault => exact ⟨rfl, given.session⟩
    | ok first =>
      -- The next row meets a session of the same kind and an applier of the same depth.
      obtain ⟨later, last⟩ := @ih (within (Applier.apply oracle row) state).state given.session
      have depth : (within (Applier.apply oracle row) state).state.2.applier.depth =
        state.2.applier.depth := given.depth
      rw [depth] at later
      exact ⟨by rw [later]; rfl, last⟩

/-- A batch without news is masked row by row. -/
theorem call_answer (steady : Session.Steady oracle ask full kind) (holds : kind state.1)
    {ids : TokenArray} (reported : state.2.HasReported ids) {array : ScoreArray}
    (batch : array.IsBatch) :
    (call oracle ids array state).answer =
        array.rows.mapM (outcome ask full state.2.applier.depth) >>= ScoreArray.stack ∧
      kind (call oracle ids array state).state.1 := by
  obtain ⟨answer, after⟩ := applyRows_answer steady holds array.rows
  obtain ⟨extents, scores⟩ := array
  obtain ⟨layered, _⟩ := batch
  simp only [call, sync_of_reported reported]
  -- A batch has a second extent, so it is taken apart into rows.
  rcases extents with _ | ⟨count, _ | ⟨second, inner⟩⟩
  · cases layered
  · exact absurd layered (Nat.not_succ_le_self 1)
  · exact ⟨congrArg (Except.bind · ScoreArray.stack) answer, after⟩

end

section

variable {ask : Int → Except Fault Bool} {full : Except Fault Mask} {depth : Nat}
  {array others kept : ScoreArray}

/-- The rows of a batch that was masked are what its rows were masked to. -/
theorem rows_of_masked (batch : array.IsBatch)
    (masked : array.rows.mapM (outcome ask full depth) >>= ScoreArray.stack = .ok kept) :
    List.Forall₂ (fun row part => outcome ask full depth row = .ok part) array.rows kept.rows := by
  obtain ⟨parts, done, stacked⟩ := bind_eq_ok_iff.mp masked
  obtain ⟨inner, format, alike⟩ := batch.exists_isRow
  -- Masked rows are of the extents and the format of the rows, so the stack has just these rows.
  have alikeParts : ∀ part ∈ parts, part.IsRow inner format := by
    intro part member
    obtain ⟨row, among, rowDone⟩ := exists_of_mem_mapM done member
    exact outcome_isRow (alike row among) rowDone
  rw [ScoreArray.rows_stack alikeParts stacked]
  exact mapM_eq_ok_iff.mp done

/-- A batch whose rows come in another order is masked as well. -/
theorem exists_reordered (reordered : others.rows.Perm array.rows)
    (masked : array.rows.mapM (outcome ask full depth) >>= ScoreArray.stack = .ok kept) :
    ∃ keptOthers, others.rows.mapM (outcome ask full depth) >>= ScoreArray.stack =
      .ok keptOthers := by
  obtain ⟨parts, done, stacked⟩ := bind_eq_ok_iff.mp masked
  refine ScoreArray.exists_stacked ?_ fun row among =>
    (exists_of_mapM_ok done (reordered.mem_iff.mp among)).imp fun _ => And.right
  -- There are as many rows in any order, and no stack without any.
  intro none
  rw [none] at reordered
  rw [reordered.nil_eq.symm] at done
  cases done
  cases stacked

end

/--
Masking does not depend on what was masked or asked before at the same state of the grammar.

Every inquiry in a sequence finds what it would find first. Each row of a batch that brings no new
tokens is masked as it would be alone, whatever the order of the rows, and the session stays where
it is.
-/
theorem masking_independent {oracle : Oracle σ κ} {rules : Rules γ} {stands : Standing σ κ γ}
    {session : Session σ κ} (answers : oracle.Answers rules stands)
    (reachable : Session.Reachable oracle session)
    (agrees : rules.AlwaysAgrees stands session.size) :
    (∀ (applier : Applier) (inquiries : List Inquiry),
      let asked := Applier.inquireAll oracle inquiries (session, applier)
      asked.1 = inquiries.map (fun inquiry =>
          (Applier.inquire oracle inquiry (session, applier)).answer) ∧
        session.SamePlace asked.2.1) ∧
    ∀ (processor : Processor) (ids : TokenArray) (array : ScoreArray),
      processor.HasReported ids → array.IsBatch →
      let alone := fun row => (Applier.apply oracle row (session, processor.applier)).answer
      let turn := call oracle ids array (session, processor)
      session.SamePlace turn.state.1 ∧
        turn.answer = array.rows.mapM alone >>= ScoreArray.stack ∧
        ∀ kept, turn.answer = .ok kept →
          List.Forall₂ (fun row part => alone row = .ok part) array.rows kept.rows ∧
          ∀ others : ScoreArray, others.IsBatch → others.rows.Perm array.rows →
            ∃ keptOthers, (call oracle ids others (session, processor)).answer = .ok keptOthers ∧
              (others.rows.zip keptOthers.rows).Perm (array.rows.zip kept.rows) := by
  obtain ⟨ask, full, kind, steady, holds, place⟩ := reachable.exists_steady answers agrees
  constructor
  · intro applier inquiries
    have start : kind ((session, applier) : Session σ κ × Applier).1 := holds
    obtain ⟨findings, last⟩ := Applier.inquireAll_finds steady start inquiries
    refine ⟨findings.trans (List.map_congr_left fun inquiry _ => ?_), place last⟩
    exact (Applier.inquire_gives steady start inquiry).answer.symm
  · intro processor ids array reported batch
    have start : kind ((session, processor) : Session σ κ × Processor).1 := holds
    have inner : kind ((session, processor.applier) : Session σ κ × Applier).1 := holds
    -- Alone, a row is masked by the answers that the session gives throughout.
    have alone (row : ScoreArray) :
        (Applier.apply oracle row (session, processor.applier)).answer =
          outcome ask full processor.applier.depth row :=
      (Applier.apply_gives steady inner row).answer
    have reported : ((session, processor) : Session σ κ × Processor).2.HasReported ids := reported
    obtain ⟨answer, after⟩ := call_answer steady start reported batch
    simp only [alone]
    refine ⟨place after, answer, fun kept masked => ?_⟩
    rw [answer] at masked
    have rows := rows_of_masked batch masked
    refine ⟨rows, fun others otherBatch reordered => ?_⟩
    obtain ⟨keptOthers, maskedOthers⟩ := exists_reordered reordered masked
    obtain ⟨otherAnswer, _⟩ := call_answer steady start reported otherBatch
    exact ⟨keptOthers, otherAnswer.trans maskedOthers,
      zip_results_perm rows (rows_of_masked otherBatch maskedOthers) reordered⟩

/-- Two kinds of logits are masked alike before and after the mask is made, and as the rows of a
batch in both orders. -/
theorem masking_independent_pairs :
    let oracle := Automata.alternating.oracle
    let session := Automata.alternatingSession false
    let applier : Applier := ⟨0, 2, .bool false, .zero⟩
    let first := Logits.mixed.array Logits.mixed.values
    let second := Logits.descending.array Logits.descending.values
    let inquiries := [.scores first, .scores second, .mask, .admits 0, .scores second, .scores first]
    let batch : ScoreArray :=
      ⟨[2, 4], .floats .half (Logits.mixed.values ++ Logits.descending.values)⟩
    let turned : ScoreArray :=
      ⟨[2, 4], .floats .half (Logits.descending.values ++ Logits.mixed.values)⟩
    let alone := fun row => (Applier.apply oracle row (session, applier)).answer
    let together := fun rows =>
      (call oracle ⟨[2, 0], []⟩ rows (session, ⟨applier, .null, 0⟩)).answer
    (Applier.inquireAll oracle inquiries (session, applier)).1 = inquiries.map (fun inquiry =>
        (Applier.inquire oracle inquiry (session, applier)).answer) ∧
      batch.IsBatch ∧ batch.rows = [first, second] ∧ turned.rows = [second, first] ∧
      together batch = batch.rows.mapM alone >>= ScoreArray.stack ∧
      ∃ kept keptTurned, together batch = .ok kept ∧ together turned = .ok keptTurned ∧
        List.Forall₂ (fun row part => alone row = .ok part) batch.rows kept.rows ∧
        (turned.rows.zip keptTurned.rows).Perm (batch.rows.zip kept.rows) := by
  intro oracle session applier first second inquiries batch turned alone together
  have answers := (Automata.alternating_worldless.follows ()).toAnswers
  have created : Session.Reachable oracle session := .created (Automata.alternating_create false)
  have agrees : (oracle.rulesIn ()).AlwaysAgrees
      (Oracle.standsAnywhere Place.IsInside : Standing Unit Place Place) 3 :=
    fun place => (Automata.alternating.consistent place).agrees
  obtain ⟨asked, batches⟩ := masking_independent answers created agrees
  have isBatch : batch.IsBatch := ⟨by decide, rfl⟩
  obtain ⟨_, rows, masked⟩ := batches ⟨applier, .null, 0⟩ ⟨[2, 0], []⟩ batch (.inl rfl) isBatch
  -- Both kinds of logits are masked, so there is a result for the batch.
  have masks (logits : Logits) : ∃ part, alone (logits.array logits.values) = .ok part := by
    obtain ⟨_, _, _, done⟩ := Applier.exists_masked answers created rfl
      Automata.alternating.consistent applier logits
    exact ⟨_, done⟩
  obtain ⟨kept, stacked⟩ := @ScoreArray.exists_stacked alone [first, second] (List.cons_ne_nil _ _)
    (by simpa using ⟨masks .mixed, masks .descending⟩)
  have ended : together batch = .ok kept := rows.trans stacked
  obtain ⟨inRows, reordered⟩ := masked kept ended
  obtain ⟨keptTurned, endedTurned, perm⟩ :=
    reordered turned ⟨by decide, rfl⟩ (List.Perm.swap first second [])
  exact ⟨(asked applier inquiries).1, isBatch, rfl, rfl, rows, kept, keptTurned, ended,
    endedTurned, inRows, perm⟩

end Processor

end ConstrainedDecoding
