import ConstrainedDecoding.Proofs.Masking.Applier

/-! Masking with as many candidates as there are tokens, and what longer scores can make it lose. -/

namespace ConstrainedDecoding

open Candidate

variable {σ κ γ : Type}

/--
Masking by the best candidates keeps what the full mask keeps in just two cases.

Either none of the admitted candidates is among the best ones, or all of them are.
-/
theorem speculated_eq_reference_iff {depth : Nat} {mask : Mask} {scores : Scores} :
    speculated mask.length depth mask scores scores.single =
        reference mask.length mask scores.single ↔
      (∀ candidate ∈ choosable (reference mask.length mask scores.single),
        ¬rank scores.single candidate < depth) ∨
      ∀ candidate ∈ choosable (reference mask.length mask scores.single),
        rank scores.single candidate < depth := by
  constructor
  · intro same
    cases found : admittedIds depth mask scores with
    | nil =>
      -- A candidate of low rank would be one of the admitted best ones, of which there are none.
      refine .inl fun candidate member few => ?_
      have admitted : candidate.id ∈ admittedIds depth mask scores :=
        mem_admittedIds_iff.mpr ⟨candidate, member, rfl, few⟩
      rw [found] at admitted
      cases admitted
    | cons first rest =>
      refine .inr fun candidate member => ?_
      -- The candidate has its score in the reference, so it was not masked on the other side.
      obtain ⟨stands, eligible⟩ := mem_choosable_iff.mp member
      have score := (mem_choosable_iff.mp (mem_choosable_reference_iff.mp member).1).1
      rw [← same, speculated_getElem? found, score, Option.map_some, Option.some.injEq] at stands
      split at stands
      · rename_i kept
        obtain ⟨other, among, place, few⟩ := mem_admittedIds_iff.mp (List.contains_iff_mem.mp kept)
        rwa [eq_of_mem_choosable among member place] at few
      · exact absurd stands.symm ((isEligible_iff_ne _).mp eligible).2
  · rintro (none | all)
    · apply speculated_of_none
      intro candidate member few
      -- An admitted candidate would be one of the reference.
      by_contra admits
      have admitted := mem_choosable_reference_iff.mpr ⟨member, eq_true_of_ne_false admits⟩
      exact none candidate admitted few
    · exact speculated_of_ranked all

namespace Applier

variable {oracle : Oracle σ κ} {rules : Rules γ} {stands : Standing σ κ γ}
  {session : Session σ κ} {applier : Applier}

/-- An applier of a session that comes up masks by the mask of the session's cursor. -/
theorem apply_speculates (applier : Applier) (logits : Logits)
    (answers : oracle.Answers rules stands) (reachable : Session.Reachable oracle session)
    (usable : session.poison = none) (consistent : rules.AlwaysConsistent stands session.size) :
    ∃ mask, (oracle.mask session.cursor session.world).answer = .ok mask ∧
      mask.length = session.size ∧
      (apply oracle (logits.array logits.values) (session, applier)).answer =
        .ok (logits.array (speculated mask.length applier.depth mask
          (.floats logits.precision logits.values) logits.values)) := by
  -- A session that comes up has an outline with the mask of its cursor, kept or not.
  obtain ⟨outline, shown, faithful⟩ := (reachable.sound answers).usable usable
  have consistentHere := shown.consistent consistent
  rw [shown.size] at consistentHere
  obtain ⟨mask, masked⟩ := Outline.exists_masked (shown.poison.symm.trans usable) faithful
    consistentHere
  have made := (shown.mask_answer answers).trans masked.made
  have applied := (apply_keeps answers masked shown applier logits).1
  exact ⟨mask, made, masked.length.trans shown.size.symm, applied⟩

/--
With room for as many candidates as there are tokens, masking is exact without padding.

It keeps just what the full mask keeps if no position beyond the vocabulary can be chosen. Longer
scores can have such positions among their best candidates. What is kept is then exact in two
cases: no admitted token is among the best candidates, or all of them are.
-/
theorem apply_at_full_depth (options : ApplierOptions) (applier : Applier) (logits : Logits)
    (answers : oracle.Answers rules stands) (reachable : Session.Reachable oracle session)
    (usable : session.poison = none) (consistent : rules.AlwaysConsistent stands session.size)
    (depth : applier.depth = min options.depth session.size)
    (full : session.size ≤ options.depth) :
    ∃ mask kept, (oracle.mask session.cursor session.world).answer = .ok mask ∧
      (apply oracle (logits.array logits.values) (session, applier)).answer =
        .ok (logits.array kept) ∧
      (kept = reference session.size mask logits.values ↔
        (∀ candidate ∈ choosable (reference session.size mask logits.values),
          ¬candidate.rank logits.values < session.size) ∨
        ∀ candidate ∈ choosable (reference session.size mask logits.values),
          candidate.rank logits.values < session.size) ∧
      ((∀ candidate ∈ choosable logits.values, candidate.id < session.size) →
        kept = reference session.size mask logits.values) ∧
      (logits.values.length ≤ session.size →
        kept = reference session.size mask logits.values) := by
  obtain ⟨mask, made, sized, applied⟩ :=
    apply_speculates applier logits answers reachable usable consistent
  -- The depth is that of the vocabulary, however many candidates were asked for.
  have deep : applier.depth = session.size := depth.trans (Nat.min_eq_right full)
  have exact := @speculated_eq_reference_iff session.size mask
    (.floats logits.precision logits.values)
  rw [logits.single_eq, sized] at exact
  rw [deep, sized] at applied
  -- Without candidates beyond the vocabulary, every rank is below its size.
  have inside (within : ∀ candidate ∈ choosable logits.values, candidate.id < session.size) :
      speculated session.size session.size mask (.floats logits.precision logits.values)
        logits.values = reference session.size mask logits.values := by
    refine exact.mpr (.inr fun candidate member => ?_)
    rw [← sized] at member
    exact rank_lt_of_inside within (mem_choosable_reference_iff.mp member).1
  refine ⟨mask, _, made, applied, exact, inside, ?_⟩
  intro short
  -- A candidate has a position among the scores, and these are no more than there are tokens.
  apply inside
  intro candidate member
  have place := (mem_choosable_iff.mp member).1
  exact (List.getElem?_eq_some_iff.mp place).1.trans_le short

end Applier

namespace Automata

/-- A single step by either of two tokens. -/
def choice : Automaton := ⟨[[(0, .state 1), (1, .state 1)], []], [1], []⟩

/-- The automata of a single grammar, over the two tokens of the choice. -/
def choosing : Automata := ⟨[("a|b", choice)], 2, false⟩

/-- The session at the start of the choice. -/
def choosingSession : Session Unit Place :=
  .start () ⟨choice, 0⟩ (.regex (.str "a|b"))
    ⟨[("a", 0), ("b", 1)], [], [], .str "unknown", .none, .null⟩ 2 false []

/-- Compiling the grammar of the choice gives the session at its start. -/
theorem choosing_create : Session.create choosing.oracle () (.regex (.str "a|b"))
    ⟨[("a", 0), ("b", 1)], [], [], .str "unknown", .none, .null⟩ false [] = .ok choosingSession :=
  rfl

/-- The automaton of the choice is closed, so its answers are functions of the place. -/
theorem choosing_worldless : choosing.oracle.Worldless Place.IsInside :=
  worldless (by decide)

end Automata

/-- Scores for two tokens, the first one preferred, and a higher score that is of no token. -/
def Logits.padded : Logits :=
  ofNumbers .single (by decide) [.ofInt 1, .ofInt 0, .ofInt 5] (by decide)

namespace Applier

/-- With room for two candidates, the padded logits are masked at the start of the choice. -/
theorem apply_at_full_depth_choice :
    ∃ mask kept, (Automata.choosing.oracle.mask ⟨Automata.choice, 0⟩ ()).answer = .ok mask ∧
      (apply Automata.choosing.oracle (Logits.padded.array Logits.padded.values)
        (Automata.choosingSession, ⟨0, 2, .bool false, .zero⟩)).answer =
          .ok (Logits.padded.array kept) ∧
      ((∀ candidate ∈ choosable Logits.padded.values, candidate.id < 2) →
        kept = reference 2 mask Logits.padded.values) := by
  have answers := (Automata.choosing_worldless.follows ()).toAnswers
  -- The depth is that of the whole vocabulary, which has two tokens.
  obtain ⟨mask, kept, made, applied, _, inside, _⟩ := apply_at_full_depth
    ⟨2, .bool false, by decide⟩ ⟨0, 2, .bool false, .zero⟩ Logits.padded answers
    (.created Automata.choosing_create) rfl Automata.choosing.consistent rfl le_rfl
  exact ⟨mask, kept, made, applied, inside⟩

/-- The higher score takes the room of the second token, which is masked although it is admitted. -/
theorem apply_beside_padding :
    ∃ mask kept, Session.Reachable Automata.choosing.oracle Automata.choosingSession ∧
      Automata.choosingSession.poison = none ∧
      (Automata.choosing.oracle.rulesIn ()).AlwaysConsistent
        (Oracle.standsAnywhere Place.IsInside : Standing Unit Place Place)
        Automata.choosingSession.size ∧
      (Automata.choosing.oracle.mask ⟨Automata.choice, 0⟩ ()).answer = .ok mask ∧
      (apply Automata.choosing.oracle (Logits.padded.array Logits.padded.values)
        (Automata.choosingSession, ⟨0, 2, .bool false, .zero⟩)).answer =
          .ok (Logits.padded.array kept) ∧
      Automata.choosingSession.size ≤ 2 ∧ kept ≠ reference 2 mask Logits.padded.values := by
  have answers := (Automata.choosing_worldless.follows ()).toAnswers
  have created := Session.Reachable.created Automata.choosing_create
  obtain ⟨mask, made, sized, applied⟩ := apply_speculates ⟨0, 2, .bool false, .zero⟩ Logits.padded
    answers created rfl Automata.choosing.consistent
  -- Both tokens are admitted, so the mask is known.
  obtain rfl : [true, true] = mask := Except.ok.inj made
  refine ⟨_, _, created, rfl, Automata.choosing.consistent, made, applied, le_rfl, ?_⟩
  have exact := @speculated_eq_reference_iff 2 [true, true]
    (.floats Logits.padded.precision Logits.padded.values)
  rw [Logits.padded.single_eq] at exact
  intro same
  -- The first token is among the two best candidates, and the second one is not.
  rcases exact.mp same with none | all
  · exact none ⟨0, .ofInt 1⟩ (by decide +kernel) (by decide +kernel)
  · exact absurd (all ⟨1, .ofInt 0⟩ (by decide +kernel)) (by decide +kernel)

end Applier

end ConstrainedDecoding
