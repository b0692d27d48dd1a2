import ConstrainedDecoding.Proofs.Scores.Ranking

/-! The foremost of some scores: the highest one, at the lowest position that has it. -/

namespace ConstrainedDecoding

open Candidate

/-- The position of the highest score, the lowest one among equal ones. -/
def foremost : List Binary64 → Nat
  | [] => 0
  | first :: rest =>
    let place := foremost rest
    if first.lt (rest.getD place forbidden) then place + 1 else 0

/-- The score at the foremost position. -/
def foremostScore (scores : List Binary64) : Binary64 :=
  scores.getD (foremost scores) forbidden

/-- The foremost score is one of the scores, or there is none but masked ones. -/
theorem foremostScore_ne_nan {scores : List Binary64} (real : ∀ score ∈ scores, score ≠ .nan) :
    foremostScore scores ≠ .nan := by
  -- The default is the score of what must not be chosen, which is no NaN either.
  rw [foremostScore, List.getD_eq_getElem?_getD]
  cases found : scores[foremost scores]? with
  | none => simp [forbidden]
  | some score => exact real score (List.mem_of_getElem? found)

/-- No score is higher than the foremost one, and none before it is as high. -/
theorem foremost_highest {scores : List Binary64} (real : ∀ score ∈ scores, score ≠ .nan)
    {index : Nat} {score : Binary64} (found : scores[index]? = some score) :
    score.height ≤ (foremostScore scores).height ∧
      (score.height = (foremostScore scores).height → foremost scores ≤ index) := by
  -- The pick goes by the foremost of the rest, so the induction is on the scores.
  induction scores generalizing index with
  | nil => simp at found
  | cons first rest ih =>
    have firstReal := real first List.mem_cons_self
    have restReal := fun score member => real score (List.mem_cons_of_mem first member)
    have step := Binary64.lt_iff_height firstReal (foremostScore_ne_nan restReal)
    by_cases above : first.lt (foremostScore rest) = true
    · -- The rest holds a higher score, so the first one is not as high.
      have place : foremost (first :: rest) = foremost rest + 1 := if_pos above
      have top : foremostScore (first :: rest) = foremostScore rest := by
        rw [foremostScore, place, List.getD_cons_succ, foremostScore]
      rw [top, place]
      cases index with
      | zero =>
        obtain rfl := Option.some.inj found
        exact ⟨(step.mp above).le, fun same => absurd same (step.mp above).ne⟩
      | succ index =>
        obtain ⟨below, lowest⟩ := ih restReal found
        exact ⟨below, fun same => Nat.succ_le_succ (lowest same)⟩
    · -- Nothing in the rest is higher, so the first position is the lowest of its height.
      have place : foremost (first :: rest) = 0 := if_neg above
      have top : foremostScore (first :: rest) = first := by
        rw [foremostScore, place, List.getD_cons_zero]
      rw [top, place]
      refine ⟨?_, fun _ => Nat.zero_le index⟩
      cases index with
      | zero =>
        obtain rfl := Option.some.inj found
        exact le_rfl
      | succ index => exact (ih restReal found).1.trans (not_lt.mp (mt step.mpr above))

/-- A foremost score that is not masked stands at the foremost position. -/
theorem foremost_found {scores : List Binary64} (above : ⊥ < (foremostScore scores).height) :
    scores[foremost scores]? = some (foremostScore scores) := by
  -- Beyond the end there would be the default, which stands at the bottom.
  simp only [foremostScore, List.getD_eq_getElem?_getD] at above ⊢
  cases found : scores[foremost scores]? with
  | none => simp [found] at above
  | some score => rfl

/-- Where every score is masked, the first position is the foremost. -/
theorem foremost_of_forbidden {scores : List Binary64}
    (masked : ∀ score ∈ scores, score = forbidden) : foremost scores = 0 := by
  cases scores with
  | nil => rfl
  | cons first rest =>
    -- The first score is as high as any, and no position is lower.
    have real : ∀ score ∈ first :: rest, score ≠ .nan := by
      intro score member
      simp [masked score member, forbidden]
    have least : ¬⊥ < (foremostScore (first :: rest)).height := by
      intro above
      rw [masked _ (List.mem_of_getElem? (foremost_found above))] at above
      exact lt_irrefl _ above
    have start : (first :: rest)[0]? = some first := rfl
    have bottom : first.height = ⊥ := congrArg Binary64.height (masked first List.mem_cons_self)
    have tied := bottom.trans (not_bot_lt_iff.mp least).symm
    exact Nat.le_zero.mp ((foremost_highest real start).2 tied)

/-- Where the foremost score is masked, every score is. -/
theorem eq_forbidden_of_foremost {scores : List Binary64} (real : ∀ score ∈ scores, score ≠ .nan)
    (bottom : ¬⊥ < (foremostScore scores).height) : ∀ score ∈ scores, score = forbidden := by
  intro score member
  obtain ⟨index, found⟩ := List.mem_iff_getElem?.mp member
  -- No score stands higher than the foremost one, which is at the bottom.
  have below := (foremost_highest real found).1
  rw [not_bot_lt_iff.mp bottom] at below
  exact Binary64.eq_forbidden_of_height (real score member) (le_bot_iff.mp below)

/-- No candidate ranks before the foremost one. -/
theorem foremost_unbeaten {scores : List Binary64} (real : ∀ score ∈ scores, score ≠ .nan)
    {other : Candidate} (member : other ∈ choosable scores) :
    ¬other.Outranks ⟨foremost scores, foremostScore scores⟩ := by
  obtain ⟨below, lowest⟩ := foremost_highest real (mem_choosable_iff.mp member).1
  -- One that ranks before it would be higher, or as high at a lower position.
  rintro (higher | ⟨tied, lower⟩)
  · exact absurd higher (not_lt.mpr below)
  · exact absurd (lowest tied.symm) (not_le.mpr lower)

end ConstrainedDecoding
