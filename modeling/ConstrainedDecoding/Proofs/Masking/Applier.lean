import ConstrainedDecoding.Proofs.Masking.Reference
import ConstrainedDecoding.Proofs.Masking.Simulation
import ConstrainedDecoding.Proofs.Oracle.Automata
import ConstrainedDecoding.Proofs.Scores.Logits
import ConstrainedDecoding.Proofs.Session.Reachable

/-! Appliers keep what refines the scores of all admitted tokens. -/

namespace ConstrainedDecoding

variable {σ κ γ : Type}

namespace Applier

variable {oracle : Oracle σ κ} {rules : Rules γ} {stands : Standing σ κ γ} {locked : Bool}
  {session : Session σ κ} {applier : Applier} {outline : Outline γ} {mask : Mask}

/-- A report does not touch the outline. -/
theorem report_shows (shown : session.Shows stands locked outline) (applier : Applier)
    (text : String) : (applier.report text session).Shows stands locked outline := by
  -- A report adds to the records, of which the outline has none.
  unfold report
  split
  · exact shown
  · exact shown

/-- Probing the candidates gives those that the mask admits, and leaves the outline as it is. -/
theorem admitted_mirrors (answers : oracle.Answers rules stands) (masked : outline.Masked rules mask)
    (shown : session.Shows stands locked outline) (applier : Applier)
    (candidates : List Candidate) :
    let turn := admitted oracle candidates (session, applier)
    turn.answer = .ok ((candidates.filter fun candidate => mask.getD candidate.id false).map (·.id)) ∧
      turn.state.1.Shows stands locked outline ∧ turn.state.2.depth = applier.depth := by
  -- No probe changes the outline, so each candidate meets the same mask.
  induction candidates generalizing session applier with
  | nil => exact ⟨rfl, shown, rfl⟩
  | cons candidate rest ih =>
    -- A probe is answered as the mask tells, and the rest goes on from the same outline.
    obtain ⟨answer, after⟩ := Session.admits_mirrors answers shown candidate.id
    rw [Outline.admits_state] at after
    rw [masked.admits, Int.toNat_natCast, decide_eq_true (Int.natCast_nonneg candidate.id),
      Bool.true_and] at answer
    obtain ⟨ids, last, depth⟩ := ih after applier.countProbe
    simp only [admitted, answer, ids]
    refine ⟨?_, last, depth⟩
    -- The candidate joins the others just if its entry in the mask is set.
    simp only [Except.map, List.filter_cons]
    cases mask.getD candidate.id false <;> rfl

/-- A turn of an applier keeps given scores, and the session shows the outline but for its mask. -/
def Keeps {α : Type} (rules : Rules γ) (stands : Standing σ κ γ) (locked : Bool) (mask : Mask)
    (outline : Outline γ) (depth : Nat) (kept : α) (turn : Turn (Session σ κ × Applier) α) : Prop :=
  turn.answer = .ok kept ∧ turn.state.2.depth = depth ∧
    ∃ after : Outline γ, turn.state.1.Shows stands locked after ∧ after.Masked rules mask ∧
      after.forget = outline.forget

/-- The path without the full mask keeps the given positions. -/
theorem keepCandidates_keeps (masked : outline.Masked rules mask)
    (shown : session.Shows stands locked outline) (applier : Applier) (precision : Precision)
    (values : List Binary64) (ids : List Nat) :
    Keeps rules stands locked mask outline applier.depth
      (.floats precision (values.mapIdx fun index value =>
        if ids.contains index then value else forbidden))
      (keepCandidates (.floats precision values) ids (session, applier)) :=
  ⟨rfl, rfl, outline, report_shows shown _ _, masked, rfl⟩

/-- The path with the full mask keeps the reference. -/
theorem keepMasked_keeps (answers : oracle.Answers rules stands) (masked : outline.Masked rules mask)
    (shown : session.Shows stands locked outline) (applier : Applier) (precision : Precision)
    (values : List Binary64) :
    Keeps rules stands locked mask outline applier.depth
      (.floats precision (reference mask.length mask values))
      (keepMasked oracle (.floats precision values) (session, applier)) := by
  -- The mask is made or read off, and either way the session keeps it afterwards.
  obtain ⟨answer, after⟩ := Session.fullMask_mirrors answers shown
  rw [masked.fullMask] at answer after
  simp only [keepMasked, answer, Scores.keepWhere]
  refine ⟨?_, rfl, _, report_shows after _ _, masked.keep, rfl⟩
  -- Entries beyond the vocabulary need no check of their own, because the mask ends before them.
  simp only [reference]
  congr 3
  funext index value
  by_cases inside : index < mask.length
  · simp [inside]
  · simp [inside, List.getD_eq_getElem?_getD]

/-- An applier keeps the admitted best candidates, or else all admitted tokens. -/
theorem applyRun_keeps (answers : oracle.Answers rules stands) (masked : outline.Masked rules mask)
    (shown : session.Shows stands locked outline) (applier : Applier) (precision : Precision)
    (values : List Binary64) :
    Keeps rules stands locked mask outline applier.depth
      (.floats precision
        (speculated mask.length applier.depth mask (.floats precision values) values))
      (applyRun oracle (.floats precision values) (session, applier)) := by
  -- Counting the step touches neither the session nor the depth.
  obtain ⟨answer, after, depth⟩ := admitted_mirrors answers masked shown applier.countStep
    (topCandidates applier.countStep.depth (.floats precision values))
  replace depth : _ = applier.depth := depth
  simp only [applyRun, answer, speculated]
  -- Whether any of the best candidates is admitted decides on the path.
  cases found : admittedIds applier.depth mask (.floats precision values) with
  | nil =>
    have none : ((topCandidates applier.countStep.depth (.floats precision values)).filter
        fun candidate => mask.getD candidate.id false).map (·.id) = [] := found
    simp only [none, ← depth]
    exact keepMasked_keeps answers masked after _ precision values
  | cons first rest =>
    have some : ((topCandidates applier.countStep.depth (.floats precision values)).filter
        fun candidate => mask.getD candidate.id false).map (·.id) = first :: rest := found
    simp only [some, ← depth]
    exact keepCandidates_keeps masked after _ precision values (first :: rest)

/-- Logits are masked as their scores are. -/
theorem apply_keeps (answers : oracle.Answers rules stands) (masked : outline.Masked rules mask)
    (shown : session.Shows stands locked outline) (applier : Applier) (logits : Logits) :
    Keeps rules stands locked mask outline applier.depth
      (logits.array (speculated mask.length applier.depth mask
        (.floats logits.precision logits.values) logits.values))
      (apply oracle (logits.array logits.values) (session, applier)) := by
  obtain ⟨precision, values, _, _, nonempty⟩ := logits
  -- A run that is not empty is masked, and its extents are put back around the result.
  obtain ⟨answer, kept⟩ := applyRun_keeps answers masked shown applier precision values
  cases values with
  | nil => exact absurd rfl nonempty
  | cons first rest => exact ⟨congrArg (Except.map _) answer, kept⟩

/-- Masking leaves a session that comes up, whether it succeeds or not. -/
theorem apply_reachable (reachable : Session.Reachable oracle session) (applier : Applier)
    (array : ScoreArray) :
    Session.Reachable oracle (apply oracle array (session, applier)).state.1 := by
  -- An applier makes queries and writes records, and nothing else.
  have kept : Simulation oracle oracle (·.isQuery = true) fun session twin =>
      session = twin ∧ Session.Reachable oracle session :=
    .of_kept (fun request comes _ => .performed request comes) fun _ comes => .noted _ comes
  have same : Beside (fun session twin => session = twin ∧ Session.Reachable oracle session)
    (session, applier) (session, applier) := ⟨⟨rfl, reachable⟩, rfl⟩
  exact (apply_matches kept same array).state.session.2

/-- A session that is not poisoned masks logits by the mask of its cursor. -/
theorem exists_masked (answers : oracle.Answers rules stands)
    (reachable : Session.Reachable oracle session) (usable : session.poison = none)
    (consistent : rules.AlwaysConsistent stands session.size) (applier : Applier)
    (logits : Logits) :
    ∃ mask, (oracle.mask session.cursor session.world).answer = .ok mask ∧
      mask.length = session.size ∧
      (apply oracle (logits.array logits.values) (session, applier)).answer =
        .ok (logits.array (speculated session.size applier.depth mask
          (.floats logits.precision logits.values) logits.values)) := by
  -- A session that comes up has an outline with the mask of its cursor, kept or not.
  obtain ⟨outline, shown, faithful⟩ := (reachable.sound answers).usable usable
  have consistentHere := shown.consistent consistent
  rw [shown.size] at consistentHere
  obtain ⟨mask, masked⟩ := Outline.exists_masked (shown.poison.symm.trans usable) faithful
    consistentHere
  have sized : mask.length = session.size := masked.length.trans shown.size.symm
  exact ⟨mask, (shown.mask_answer answers).trans masked.made, sized,
    sized ▸ (apply_keeps answers masked shown applier logits).1⟩

/-- An applier is made of valid options, with no more depth than there are tokens. -/
theorem make_eq_ok {number : Nat} {arguments : ApplierArguments}
    (made : (make number arguments session).answer = .ok applier) :
    ∃ options, (arguments.options.getD .standard).override arguments.depth arguments.debug =
        .ok options ∧
      applier = ⟨number, min options.depth session.size, options.debug, .zero⟩ := by
  simp only [make] at made
  -- Both the options and the claim have to succeed, and only the options show in the applier.
  cases valid : (arguments.options.getD .standard).override arguments.depth arguments.debug with
  | error fault => simp [valid] at made
  | ok options =>
    simp only [valid] at made
    cases claimed : (session.claim (.applier number)).answer with
    | error fault => simp [claimed, Except.map] at made
    | ok done =>
      simp only [claimed, Except.map, Except.ok.injEq] at made
      exact ⟨options, rfl, made.symm⟩

/--
Whatever the depth, masking refines what the full mask keeps.

It keeps just that if none of the best candidates is admitted, or if all scores are among them.
-/
theorem apply_refines_reference (options : ApplierOptions) (applier : Applier) (logits : Logits)
    (answers : oracle.Answers rules stands) (reachable : Session.Reachable oracle session)
    (usable : session.poison = none)
    (consistent : rules.AlwaysConsistent stands session.size)
    (depth : applier.depth = min options.depth session.size) :
    ∃ mask kept, (oracle.mask session.cursor session.world).answer = .ok mask ∧
      (apply oracle (logits.array logits.values) (session, applier)).answer =
        .ok (logits.array kept) ∧
      kept.length = logits.values.length ∧
      Refines kept (reference session.size mask logits.values) ∧
      ((∀ candidate ∈ Candidate.choosable logits.values,
          candidate.rank logits.values < min options.depth session.size →
          mask.getD candidate.id false = false) →
        kept = reference session.size mask logits.values) ∧
      (logits.values.length ≤ min options.depth session.size →
        kept = reference session.size mask logits.values) := by
  obtain ⟨mask, made, sized, applied⟩ :=
    exists_masked answers reachable usable consistent applier logits
  -- The scores are compared as they are, whatever their precision.
  have single := logits.single_eq
  -- Refinement holds at every depth, and the depth decides only when nothing is lost.
  have refines := speculated_refines applier.depth mask (.floats logits.precision logits.values)
  rw [single, sized] at refines
  refine ⟨mask, _, made, applied, by rw [refines.length, reference_length], refines, ?_, ?_⟩
  · intro none
    -- No admitted candidate among the best ones means that the full mask is applied.
    rw [← depth, ← single] at none
    have kept := speculated_of_none none
    rwa [single, sized] at kept
  · intro deep
    -- With room for all scores, every admitted candidate is among the best ones.
    rw [← depth, ← single] at deep
    have kept := speculated_of_depth mask deep
    rwa [single, sized] at kept

/-- The mixed logits are masked so at the start of the pairs, which admits the first token only. -/
theorem apply_refines_reference_pairs :
    ∃ mask kept, (Automata.alternating.oracle.mask ⟨Automata.pairs, 0⟩ ()).answer = .ok mask ∧
      (apply Automata.alternating.oracle (Logits.mixed.array Logits.mixed.values)
        (Automata.alternatingSession false, ⟨0, 2, .bool false, .zero⟩)).answer =
          .ok (Logits.mixed.array kept) ∧
      Refines kept (reference 3 mask Logits.mixed.values) := by
  have answers := (Automata.alternating_worldless.follows ()).toAnswers
  -- The depth of two is within the vocabulary of three tokens.
  obtain ⟨mask, kept, made, applied, _, refines, _⟩ := apply_refines_reference
    ⟨2, .bool false, by decide⟩ ⟨0, 2, .bool false, .zero⟩ Logits.mixed answers
    (.created (Automata.alternating_create false)) rfl Automata.alternating.consistent
    rfl
  exact ⟨mask, kept, made, applied, refines⟩

end Applier

end ConstrainedDecoding
