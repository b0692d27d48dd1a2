import ConstrainedDecoding.Masking.Applier
import ConstrainedDecoding.Proofs.Scores.Foremost

/-! What masking by the best candidates keeps, against what masking by the full mask keeps. -/

namespace ConstrainedDecoding

open Candidate

/-- The scores that a full mask keeps: those of admitted tokens of the vocabulary, but no NaNs. -/
def reference (size : Nat) (mask : Mask) (scores : List Binary64) : List Binary64 :=
  scores.mapIdx fun index score =>
    if index < size && mask.getD index false && score ≠ .nan then score else forbidden

/-- The positions of the best candidates that a mask admits. -/
def admittedIds (depth : Nat) (mask : Mask) (scores : Scores) : List Nat :=
  ((topCandidates depth scores).filter fun candidate => mask.getD candidate.id false).map (·.id)

/-- The scores that masking keeps: those of the admitted best candidates, or else of all tokens. -/
def speculated (size depth : Nat) (mask : Mask) (scores : Scores) (values : List Binary64) :
    List Binary64 :=
  match admittedIds depth mask scores with
  | [] => reference size mask values
  | ids => values.mapIdx fun index value => if ids.contains index then value else forbidden

/-- Kept scores refine others: they agree wherever they keep any, and they keep the best. -/
structure Refines (kept reference : List Binary64) : Prop where
  length : kept.length = reference.length
  entry : ∀ index, index < kept.length →
    kept[index]? = reference[index]? ∨ kept[index]? = some forbidden
  best : ∀ candidate ∈ choosable reference,
    (∀ other ∈ choosable reference, ¬other.Outranks candidate) →
    kept[candidate.id]? = some candidate.score
  empty : (∀ score ∈ kept, score = forbidden) → ∀ score ∈ reference, score = forbidden

/-- The reference has a score for every position. -/
@[simp] theorem reference_length (size : Nat) (mask : Mask) (scores : List Binary64) :
    (reference size mask scores).length = scores.length := by
  simp [reference]

/-- The reference at a position. -/
theorem reference_getElem? (size : Nat) (mask : Mask) (scores : List Binary64) (index : Nat) :
    (reference size mask scores)[index]? = scores[index]?.map fun score =>
      if index < size && mask.getD index false && score ≠ .nan then score else forbidden := by
  simp only [reference, List.getElem?_mapIdx]

/-- No NaN is kept. -/
theorem ne_nan_of_mem_reference {size : Nat} {mask : Mask} {scores : List Binary64}
    {score : Binary64} (member : score ∈ reference size mask scores) : score ≠ .nan := by
  -- A position holds its own score only if that is no NaN, and else the masked score.
  obtain ⟨index, inside, rfl⟩ := List.mem_mapIdx.mp member
  split
  · rename_i keeps
    simp only [Bool.and_eq_true, decide_eq_true_eq] at keeps
    exact keeps.2
  · simp [forbidden]

/-- A mask admits none but the tokens that it has entries for. -/
theorem lt_length_of_getD {mask : Mask} {index : Nat} (admits : mask.getD index false = true) :
    index < mask.length := by
  -- Beyond its end the default is that nothing is admitted.
  by_contra beyond
  simp [List.getD_eq_getElem?_getD, List.getElem?_eq_none (Nat.le_of_not_lt beyond)] at admits

/-- The candidates of the reference are those of the scores that are admitted. -/
theorem mem_choosable_reference_iff {mask : Mask} {scores : List Binary64} {candidate : Candidate} :
    candidate ∈ choosable (reference mask.length mask scores) ↔
      candidate ∈ choosable scores ∧ mask.getD candidate.id false = true := by
  -- A candidate is a position with its score, so only the scores need to be compared.
  rw [mem_choosable_iff, mem_choosable_iff, reference_getElem?]
  constructor
  · rintro ⟨found, eligible⟩
    obtain ⟨score, stands, kept⟩ := Option.map_eq_some_iff.mp found
    -- What is not kept is masked, and then it cannot be chosen.
    by_cases keeps : (candidate.id < mask.length && mask.getD candidate.id false && score ≠ .nan) =
        true
    · rw [if_pos keeps] at kept
      simp only [Bool.and_eq_true] at keeps
      exact ⟨⟨by rw [stands, kept], eligible⟩, keeps.1.2⟩
    · rw [if_neg keeps] at kept
      exact absurd kept.symm ((isEligible_iff_ne _).mp eligible).2
  · rintro ⟨⟨found, eligible⟩, admits⟩
    -- An admitted candidate passes all three tests of the reference.
    have inside := lt_length_of_getD admits
    have real := ((isEligible_iff_ne _).mp eligible).1
    refine ⟨?_, eligible⟩
    rw [found, Option.map_some, if_pos]
    simp only [Bool.and_eq_true, decide_eq_true_eq]
    exact ⟨⟨inside, admits⟩, real⟩

/-- The admitted best candidates are candidates of the reference, and few rank before them. -/
theorem mem_admittedIds_iff {depth : Nat} {mask : Mask} {scores : Scores} {index : Nat} :
    index ∈ admittedIds depth mask scores ↔
      ∃ candidate ∈ choosable (reference mask.length mask scores.single), candidate.id = index ∧
        rank scores.single candidate < depth := by
  -- Admission and rank are two conditions on the same candidate, met in either order.
  simp only [admittedIds, List.mem_map, List.mem_filter, mem_topCandidates_iff,
    mem_choosable_reference_iff]
  constructor
  · rintro ⟨candidate, ⟨⟨member, few⟩, admits⟩, same⟩
    exact ⟨candidate, ⟨member, admits⟩, same, few⟩
  · rintro ⟨candidate, ⟨member, admits⟩, same, few⟩
    exact ⟨candidate, ⟨⟨member, few⟩, admits⟩, same⟩

namespace Refines

variable {kept reference : List Binary64}

/-- Scores refine themselves. -/
theorem refl (scores : List Binary64) : Refines scores scores where
  length := rfl
  entry _ _ := .inl rfl
  best _ member _ := (mem_choosable_iff.mp member).1
  empty masked := masked

/-- A score that is kept is that of the reference, unless it is masked. -/
theorem entry_eq (refines : Refines kept reference) {index : Nat} {score : Binary64}
    (found : kept[index]? = some score) : reference[index]? = some score ∨ score = forbidden := by
  -- Whatever is found at a position is inside, where only two scores are possible.
  obtain ⟨inside, _⟩ := List.getElem?_eq_some_iff.mp found
  rcases refines.entry index inside with same | masked
  · exact .inl (same.symm.trans found)
  · exact .inr (Option.some.inj (found.symm.trans masked))

/-- Nothing is kept that the reference does not have. -/
theorem mem_or_eq (refines : Refines kept reference) {score : Binary64} (member : score ∈ kept) :
    score ∈ reference ∨ score = forbidden := by
  obtain ⟨index, found⟩ := List.mem_iff_getElem?.mp member
  exact (refines.entry_eq found).imp_left List.mem_of_getElem?

/-- Scores that refine others have the same foremost position. -/
theorem foremost_eq (refines : Refines kept reference)
    (real : ∀ score ∈ reference, score ≠ .nan) : foremost kept = foremost reference := by
  -- The masked score is no NaN, and everything else is from the reference.
  have keptReal : ∀ score ∈ kept, score ≠ .nan := by
    intro score member
    rcases refines.mem_or_eq member with same | rfl
    · exact real score same
    · simp [forbidden]
  by_cases above : ⊥ < (foremostScore reference).height
  · -- The best of the reference is kept, so the best of what is kept is no lower.
    have best := refines.best ⟨foremost reference, foremostScore reference⟩
      (mem_choosable_iff.mpr ⟨foremost_found above, (isEligible_iff _).mpr above⟩)
      fun other member => foremost_unbeaten real member
    obtain ⟨below, lowest⟩ := foremost_highest keptReal best
    have keptAbove := above.trans_le below
    rcases refines.entry_eq (foremost_found keptAbove) with same | masked
    · -- Neither is higher than the other, and each is the lowest position of its height.
      obtain ⟨atMost, first⟩ := foremost_highest real same
      have tied := le_antisymm below atMost
      exact le_antisymm (lowest tied) (first tied.symm)
    · rw [masked] at keptAbove
      -- A masked score does not stand above the bottom.
      exact absurd keptAbove (lt_irrefl _)
  · -- All is masked in the reference, and so in what is kept.
    have masked := eq_forbidden_of_foremost real above
    have keptMasked : ∀ score ∈ kept, score = forbidden := fun score member =>
      (refines.mem_or_eq member).elim (masked score) fun masks => masks
    rw [foremost_of_forbidden masked, foremost_of_forbidden keptMasked]

end Refines

section

variable {depth : Nat} {mask : Mask} {scores : Scores} {first : Nat} {rest : List Nat}

/-- Where some of the best candidates are admitted, what is kept of a position. -/
theorem speculated_getElem? (found : admittedIds depth mask scores = first :: rest)
    (values : List Binary64) (index : Nat) :
    (speculated mask.length depth mask scores values)[index]? = values[index]?.map fun value =>
      if (admittedIds depth mask scores).contains index then value else forbidden := by
  simp only [speculated, found, List.getElem?_mapIdx]

/-- Where some of the best candidates are admitted, all admitted ones among them are kept. -/
theorem speculated_of_mem (found : admittedIds depth mask scores = first :: rest)
    {candidate : Candidate}
    (member : candidate ∈ choosable (reference mask.length mask scores.single))
    (few : rank scores.single candidate < depth) :
    (speculated mask.length depth mask scores scores.single)[candidate.id]? =
      some candidate.score := by
  -- Its position is among the admitted ones, and its score is the one that stands there.
  have admitted := mem_admittedIds_iff.mpr ⟨candidate, member, rfl, few⟩
  have stands := (mem_choosable_iff.mp (mem_choosable_reference_iff.mp member).1).1
  rw [speculated_getElem? found, stands, Option.map_some,
    if_pos (List.contains_iff_mem.mpr admitted)]

/-- An admitted best candidate, where there are some. -/
theorem exists_admitted (found : admittedIds depth mask scores = first :: rest) :
    ∃ candidate ∈ choosable (reference mask.length mask scores.single),
      rank scores.single candidate < depth := by
  -- The first position found is that of such a candidate.
  obtain ⟨candidate, member, _, few⟩ := mem_admittedIds_iff.mp
    (found ▸ List.mem_cons_self : first ∈ admittedIds depth mask scores)
  exact ⟨candidate, member, few⟩

/-- The best candidate of the reference ranks among the best ones if any of those is admitted. -/
theorem best_ranks_among (found : admittedIds depth mask scores = first :: rest)
    {best : Candidate} (member : best ∈ choosable (reference mask.length mask scores.single))
    (unbeaten : ∀ other ∈ choosable (reference mask.length mask scores.single),
      ¬other.Outranks best) :
    rank scores.single best < depth := by
  -- An admitted candidate of low rank is there, and the best one is no worse.
  obtain ⟨candidate, rival, few⟩ := exists_admitted found
  by_cases same : best.id = candidate.id
  · rwa [eq_of_mem_choosable member rival same]
  · -- The best one ranks before the admitted one, and so does whatever ranks before the best one.
    have before := (Outranks.total same).resolve_right (unbeaten candidate rival)
    exact (rank_le_of_outranks before scores.single).trans_lt few

/-- A position is kept as the reference has it, or it is masked as none of the best candidates. -/
theorem speculated_entry (found : admittedIds depth mask scores = first :: rest) {index : Nat}
    {value : Binary64} (stands : scores.single[index]? = some value) :
    (speculated mask.length depth mask scores scores.single)[index]? =
        (reference mask.length mask scores.single)[index]? ∨
      index ∉ admittedIds depth mask scores ∧
        (speculated mask.length depth mask scores scores.single)[index]? = some forbidden := by
  -- The positions probed and admitted keep their scores, and all others are masked.
  by_cases kept : index ∈ admittedIds depth mask scores
  · obtain ⟨candidate, member, rfl, few⟩ := mem_admittedIds_iff.mp kept
    -- An admitted candidate has the score of the reference, too.
    rw [speculated_of_mem found member few, (mem_choosable_iff.mp member).1]
    exact .inl rfl
  · have left : ¬(admittedIds depth mask scores).contains index = true :=
      mt List.contains_iff_mem.mp kept
    rw [speculated_getElem? found, stands, Option.map_some, if_neg left]
    exact .inr ⟨kept, rfl⟩

end

/-- Masking by the best candidates refines masking by the full mask. -/
theorem speculated_refines (depth : Nat) (mask : Mask) (scores : Scores) :
    Refines (speculated mask.length depth mask scores scores.single)
      (reference mask.length mask scores.single) := by
  cases found : admittedIds depth mask scores with
  | nil =>
    -- Without an admitted candidate, the full mask itself is applied.
    simp only [speculated, found]
    exact .refl _
  | cons first rest =>
    -- With one, the scores kept are those of the admitted candidates and no others.
    refine ⟨by simp [speculated, found], ?_, ?_, ?_⟩
    · intro index inside
      have within : index < scores.single.length := by simpa [speculated, found] using inside
      exact (speculated_entry found (List.getElem?_eq_getElem within)).imp_right And.right
    · intro best member unbeaten
      exact speculated_of_mem found member (best_ranks_among found member unbeaten)
    · -- Some admitted candidate is kept, and its score is not masked.
      intro masked
      obtain ⟨candidate, member, few⟩ := exists_admitted found
      have kept := List.mem_of_getElem? (speculated_of_mem found member few)
      have eligible := ((isEligible_iff_ne _).mp (mem_choosable_iff.mp member).2).2
      exact absurd (masked _ kept) eligible

/-- Where none of the best candidates is admitted, the full mask is applied. -/
theorem speculated_of_none {depth : Nat} {mask : Mask} {scores : Scores}
    (none : ∀ candidate ∈ choosable scores.single, rank scores.single candidate < depth →
      mask.getD candidate.id false = false) :
    speculated mask.length depth mask scores scores.single =
      reference mask.length mask scores.single := by
  -- An admitted position would be that of an admitted candidate of low enough rank.
  have empty : admittedIds depth mask scores = [] := by
    apply List.eq_nil_iff_forall_not_mem.mpr
    intro index admitted
    obtain ⟨candidate, member, _, few⟩ := mem_admittedIds_iff.mp admitted
    obtain ⟨stands, admits⟩ := mem_choosable_reference_iff.mp member
    exact Bool.false_ne_true ((none candidate stands few).symm.trans admits)
  simp only [speculated, empty]

/-- Where all admitted candidates are among the best ones, they are masked as by the full mask. -/
theorem speculated_of_ranked {depth : Nat} {mask : Mask} {scores : Scores}
    (ranked : ∀ candidate ∈ choosable (reference mask.length mask scores.single),
      rank scores.single candidate < depth) :
    speculated mask.length depth mask scores scores.single =
      reference mask.length mask scores.single := by
  cases found : admittedIds depth mask scores with
  | nil => simp only [speculated, found]
  | cons first rest =>
    -- Both sides are compared position by position, which settles their lengths, too.
    apply List.ext_getElem?
    intro index
    cases stands : scores.single[index]? with
    | none => rw [speculated_getElem? found, reference_getElem?, stands]; rfl
    | some value =>
      rcases speculated_entry found stands with same | ⟨left, masked⟩
      · exact same
      · rw [masked, reference_getElem?, stands, Option.map_some]
        split
        · -- An admitted candidate is not left out, because its rank is low enough.
          rename_i keeps
          simp only [Bool.and_eq_true, decide_eq_true_eq] at keeps
          by_contra allowed
          have eligible := (isEligible_iff_ne value).mpr
            ⟨keeps.2, fun same => allowed (congrArg some same.symm)⟩
          have member : ⟨index, value⟩ ∈ choosable scores.single :=
            mem_choosable_iff.mpr ⟨stands, eligible⟩
          have admitted := mem_choosable_reference_iff.mpr ⟨member, keeps.1.2⟩
          exact left (mem_admittedIds_iff.mpr ⟨_, admitted, rfl, ranked _ admitted⟩)
        · rfl

/-- Where all candidates are among the best ones, they are masked as by the full mask. -/
theorem speculated_of_depth {depth : Nat} (mask : Mask) {scores : Scores}
    (deep : scores.single.length ≤ depth) :
    speculated mask.length depth mask scores scores.single =
      reference mask.length mask scores.single := by
  apply speculated_of_ranked
  intro candidate member
  -- No rank reaches the number of scores.
  exact (rank_lt_length (mem_choosable_reference_iff.mp member).1).trans_le deep

end ConstrainedDecoding
