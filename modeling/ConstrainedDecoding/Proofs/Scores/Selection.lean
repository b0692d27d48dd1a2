import ConstrainedDecoding.Proofs.Scores.Ranking

/-! The best candidates are the first ones in an order of all scores that can be chosen. -/

namespace ConstrainedDecoding

namespace Binary64

/-- Two numbers are equal by value, as both zeros are. A NaN equals nothing. -/
def Equals (left right : Binary64) : Prop :=
  left.le right = true ∧ right.le left = true

/-- Numbers other than NaNs are equal if they stand at the same height. -/
theorem equals_iff_height {left right : Binary64} (leftReal : left ≠ nan) (rightReal : right ≠ nan) :
    left.Equals right ↔ left.height = right.height := by
  -- Both zeros stand at the height of no units.
  rw [Equals, le_iff_height leftReal rightReal, le_iff_height rightReal leftReal]
  exact le_antisymm_iff.symm

end Binary64

namespace Candidate

/-- A candidate comes before another: its score is above, or equal at a lower position. -/
def Precedes (first second : Candidate) : Prop :=
  second.score.lt first.score = true ∨ first.score.Equals second.score ∧ first.id < second.id

/-- Without NaNs, candidates come before each other as they rank. -/
theorem precedes_iff_outranks {first second : Candidate} (firstReal : first.score ≠ .nan)
    (secondReal : second.score ≠ .nan) : first.Precedes second ↔ first.Outranks second := by
  rw [Precedes, Binary64.lt_iff_height secondReal firstReal,
    Binary64.equals_iff_height firstReal secondReal, Outranks, eq_comm]

/-- All candidates with scores that can be chosen, the highest score first and the lowest position
first among equal ones. -/
structure IsRanking (scores : List Binary64) (ranking : List Candidate) : Prop where
  complete : ∀ candidate, candidate ∈ ranking ↔
    scores[candidate.id]? = some candidate.score ∧
      candidate.score ≠ .nan ∧ candidate.score ≠ forbidden
  ordered : ranking.Pairwise Precedes

/-- A ranking holds no NaN. -/
theorem IsRanking.real {scores : List Binary64} {ranking : List Candidate}
    (ranked : IsRanking scores ranking) : ∀ candidate ∈ ranking, candidate.score ≠ .nan :=
  fun candidate member => ((ranked.complete candidate).mp member).2.1

/-- A ranking is in rank order. -/
theorem IsRanking.outranks {scores : List Binary64} {ranking : List Candidate}
    (ranked : IsRanking scores ranking) : ranking.Pairwise Outranks :=
  ranked.ordered.imp_of_mem fun firstMember secondMember =>
    (precedes_iff_outranks (ranked.real _ firstMember) (ranked.real _ secondMember)).mp

/-- Candidates of a ranking have positions of their own, as scores do. -/
theorem IsRanking.distinct {scores : List Binary64} {ranking : List Candidate}
    (ranked : IsRanking scores ranking) : (ranking.map (·.id)).Nodup := by
  rw [List.Nodup, List.pairwise_map]
  refine ranked.outranks.imp_of_mem ?_
  intro first second firstMember secondMember before same
  -- At the same position stands the same score, and so it would be the same candidate.
  have firstScore := ((ranked.complete first).mp firstMember).1
  have secondScore := ((ranked.complete second).mp secondMember).1
  rw [same, secondScore] at firstScore
  rcases before with higher | ⟨_, lower⟩
  · exact higher.ne (by rw [Option.some.inj firstScore])
  · omega

/-- There is one ranking of scores at most. -/
theorem IsRanking.unique {scores : List Binary64} {left right : List Candidate}
    (leftRanked : IsRanking scores left) (rightRanked : IsRanking scores right) : left = right := by
  -- Both hold the same candidates, each of them once.
  refine eq_of_outranks leftRanked.outranks rightRanked.outranks ?_
  rw [List.perm_ext_iff_of_nodup leftRanked.distinct.of_map rightRanked.distinct.of_map]
  exact fun candidate => (leftRanked.complete candidate).trans (rightRanked.complete candidate).symm

/-- Sorting the candidates that can be chosen ranks the scores. -/
theorem isRanking_mergeSort (scores : List Binary64) :
    IsRanking scores ((choosable scores).mergeSort reaches) := by
  -- Sorting keeps the candidates, among whose scores are no NaNs.
  have listed := choosable_listed scores
  have real : ∀ candidate ∈ (choosable scores).mergeSort reaches, candidate.score ≠ .nan :=
    fun candidate member => listed.real candidate (List.mem_mergeSort.mp member)
  constructor
  · intro candidate
    rw [List.mem_mergeSort, mem_choosable_iff, isEligible_iff_ne]
  · exact (sorted_outranks listed).imp_of_mem fun firstMember secondMember =>
      (precedes_iff_outranks (real _ firstMember) (real _ secondMember)).mpr

end Candidate

open Candidate

/--
The best candidates are the first ones of the only ranking of the scores in single precision.

They have positions of their own inside the scores, and each of them comes before every candidate
that is left out.
-/
theorem topCandidates_exact (count : Int) (scores : Scores) :
    ∃ ranking, IsRanking scores.single ranking ∧
      (∀ other, IsRanking scores.single other → other = ranking) ∧
      ScoreArray.topCandidates count ⟨[scores.length], scores⟩ =
        .ok (ranking.take count.toNat) ∧
      ((ranking.take count.toNat).map (·.id)).Nodup ∧
      (∀ candidate ∈ ranking.take count.toNat, candidate.id < scores.length) ∧
      ∀ chosen ∈ ranking.take count.toNat, ∀ left ∈ ranking, left ∉ ranking.take count.toNat →
        chosen.Precedes left := by
  have ranked := isRanking_mergeSort scores.single
  refine ⟨_, ranked, fun other also => also.unique ranked, ?_, ?_, ?_, ?_⟩
  · rw [ScoreArray.topCandidates, topCandidates_eq]
  · rw [List.map_take]
    exact ranked.distinct.sublist (List.take_sublist _ _)
  · intro candidate member
    -- There are as many scores in single precision as there are scores.
    have place := ((ranked.complete candidate).mp (List.mem_of_mem_take member)).1
    have inside := (List.getElem?_eq_some_iff.mp place).1
    cases scores <;> simpa [Scores.single, Scores.length] using inside
  · -- What is left out of the first ones is among the others, and those come later.
    have ordered := ranked.ordered
    have parts := List.take_append_drop count.toNat ((choosable scores.single).mergeSort reaches)
    intro chosen member left among out
    rw [← parts] at ordered among
    have later := (List.mem_append.mp among).resolve_left out
    exact (List.pairwise_append.mp ordered).2.2 chosen member left later

end ConstrainedDecoding
