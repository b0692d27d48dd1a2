import Mathlib.Data.List.Sigma
import Mathlib.Order.Basic
import ConstrainedDecoding.Proofs.Number.Height

/-! The threshold and the stable sort select a prefix of all eligible candidates in rank order. -/

namespace ConstrainedDecoding

/-- Whatever holds of the first elements of a list is no loss to them when the list is filtered. -/
theorem take_filter_of_take {α : Type} {holds : α → Bool} {elements : List α} {count : Nat}
    (early : ∀ element ∈ elements.take count, holds element = true) :
    (elements.filter holds).take count = elements.take count := by
  -- The first elements survive, and nothing after them is reached.
  rw [← List.take_append_drop count elements, List.filter_append, List.filter_eq_self.mpr early]
  by_cases enough : count ≤ elements.length
  · have length : (elements.take count).length = count := List.length_take_of_le enough
    simp [length]
  · have short : elements.length ≤ count := by omega
    simp [List.drop_of_length_le short, List.take_of_length_le short]

/-- A condition that earlier elements meet along with later ones can be checked after the cut. -/
theorem filter_take_of_closed {α : Type} {holds : α → Bool} {elements : List α}
    (closed : elements.Pairwise fun first second => holds second = true → holds first = true)
    (count : Nat) : (elements.take count).filter holds = (elements.filter holds).take count := by
  -- The cut moves on with each element that meets the condition.
  induction elements generalizing count with
  | nil => simp
  | cons first rest ih =>
    obtain ⟨head, tail⟩ := List.pairwise_cons.mp closed
    cases count with
    | zero => simp
    | succ count =>
      by_cases met : holds first = true
      · simp [met, ih tail count]
      · -- Once the condition fails, no later element meets it.
        have none : rest.filter holds = [] :=
          List.filter_eq_nil_iff.mpr fun element member later => met (head element member later)
        have noneTaken : (rest.take count).filter holds = [] :=
          List.filter_eq_nil_iff.mpr fun element member later =>
            met (head element (List.mem_of_mem_take member) later)
        simp [met, none, noneTaken]

/-- An element of an ordered list is among the first ones if few others come before it. -/
theorem mem_take_iff_countP {α : Type} {before : α → α → Prop}
    [∀ first second, Decidable (before first second)] (irreflexive : ∀ element, ¬before element element)
    (asymmetric : ∀ first second, before first second → ¬before second first)
    {elements : List α} (ordered : elements.Pairwise before) (count : Nat) (element : α) :
    element ∈ elements.take count ↔
      element ∈ elements ∧ elements.countP (fun other => before other element) < count := by
  -- Each element is one more to come before those that follow it.
  induction elements generalizing count with
  | nil => simp
  | cons first rest ih =>
    obtain ⟨head, tail⟩ := List.pairwise_cons.mp ordered
    cases count with
    | zero => simp
    | succ count =>
      by_cases same : element = first
      · -- Nothing comes before the first element.
        subst same
        have none : rest.countP (fun other => before other element) = 0 :=
          List.countP_eq_zero.mpr fun other member earlier =>
            asymmetric _ _ (head other member) (of_decide_eq_true earlier)
        simp [none, irreflexive]
      · -- A later element comes after the first one, which takes up one of the places.
        by_cases member : element ∈ rest
        · have earlier := head element member
          simp [same, member, earlier, ih tail count]
        · have untaken : element ∉ rest.take count := fun taken => member (List.mem_of_mem_take taken)
          simp [same, member, untaken]

namespace Candidate

/-- A candidate ranks before another: it scores higher, or as high at a lower position. -/
def Outranks (first second : Candidate) : Prop :=
  second.score.height < first.score.height ∨
    second.score.height = first.score.height ∧ first.id < second.id

instance (first second : Candidate) : Decidable (first.Outranks second) :=
  inferInstanceAs (Decidable (_ ∨ _))

/-- No candidate ranks before itself. -/
theorem Outranks.irreflexive (candidate : Candidate) : ¬candidate.Outranks candidate := by
  rintro (higher | ⟨-, lower⟩)
  · exact lt_irrefl _ higher
  · exact Nat.lt_irrefl _ lower

/-- Two candidates do not rank before each other. -/
theorem Outranks.asymmetric (first second : Candidate) (before : first.Outranks second) :
    ¬second.Outranks first := by
  -- Each could only be higher, or as high and at a lower position.
  rintro (higher | ⟨tied, lower⟩) <;> rcases before with above | ⟨_, earlier⟩
  · exact lt_asymm higher above
  · exact higher.ne' (by assumption)
  · exact above.ne' tied
  · omega

/-- Whatever ranks before a candidate ranks before all that it ranks before. -/
theorem Outranks.trans {first second third : Candidate} (upper : first.Outranks second)
    (lower : second.Outranks third) : first.Outranks third := by
  -- One higher score on the way is enough, and without one the positions add up.
  rcases upper with above | ⟨tied, earlier⟩ <;> rcases lower with higher | ⟨level, before⟩
  · exact .inl (higher.trans above)
  · exact .inl (level ▸ above)
  · exact .inl (tied ▸ higher)
  · exact .inr ⟨level.trans tied, by omega⟩

/-- Candidates of different positions rank one before the other. -/
theorem Outranks.total {first second : Candidate} (distinct : first.id ≠ second.id) :
    first.Outranks second ∨ second.Outranks first := by
  -- The scores decide, and the positions where the scores are tied.
  rcases lt_trichotomy first.score.height second.score.height with below | tied | above
  · exact .inr (.inl below)
  · rcases Nat.lt_or_gt_of_ne distinct with earlier | later
    · exact .inl (.inr ⟨tied.symm, earlier⟩)
    · exact .inr (.inr ⟨tied, later⟩)
  · exact .inl (.inl above)

/-- Candidates as a run yields them: one for each position in order, and none with a NaN. -/
structure Listed (candidates : List Candidate) : Prop where
  ascending : candidates.Pairwise fun first second => first.id < second.id
  real : ∀ candidate ∈ candidates, candidate.score ≠ .nan

/-- Leaving candidates out leaves the others listed. -/
theorem Listed.filter {candidates : List Candidate} (listed : Listed candidates)
    (keeps : Candidate → Bool) : Listed (candidates.filter keeps) where
  ascending := listed.ascending.sublist List.filter_sublist
  real candidate member := listed.real candidate (List.mem_filter.mp member).1

/-- Candidates made for each position in turn ascend if each is made for its own position. -/
theorem ascending_mapIdx {make : Nat → Binary64 → Candidate}
    (places : ∀ id score, (make id score).id = id) (scores : List Binary64) :
    (scores.mapIdx make).Pairwise fun first second => first.id < second.id := by
  -- The position at each place is the place itself.
  rw [List.pairwise_iff_getElem]
  intro first second _ _ before
  simpa [places] using before

/-- All positions of a run are listed. -/
theorem all_listed (scores : Scores) : Listed (all scores) where
  -- Ranking replaces the NaNs, and every position stays where it is.
  ascending := ascending_mapIdx (fun _ _ => rfl) scores.single
  real candidate member := by
    obtain ⟨id, _, rfl⟩ := List.mem_mapIdx.mp member
    exact ranked_ne_nan _

/-- One candidate stands at least as high as another. Unlike reaching, this compares NaNs too. -/
def standsBy (left right : Candidate) : Bool :=
  right.score.height ≤ left.score.height

/-- Standing at least as high is transitive. -/
theorem standsBy_trans (first second third : Candidate) (upper : first.standsBy second = true)
    (lower : second.standsBy third = true) : first.standsBy third = true :=
  decide_eq_true ((of_decide_eq_true lower).trans (of_decide_eq_true upper))

/-- Of two candidates, one stands at least as high as the other. -/
theorem standsBy_total (first second : Candidate) :
    (first.standsBy second || second.standsBy first) = true := by
  simpa [standsBy] using le_total second.score.height first.score.height

/-- Without NaNs, reaching a score is standing at least as high. -/
theorem reaches_eq_standsBy {left right : Candidate} (leftReal : left.score ≠ .nan)
    (rightReal : right.score ≠ .nan) : left.reaches right = left.standsBy right := by
  -- The two comparisons differ on NaNs alone.
  rw [Bool.eq_iff_iff, reaches, Binary64.le_iff_height rightReal leftReal]
  simp [standsBy]

/-- Without NaNs, candidates are sorted as they stand. -/
theorem mergeSort_reaches {candidates : List Candidate} (listed : Listed candidates) :
    candidates.mergeSort reaches = candidates.mergeSort standsBy := by
  -- Both comparisons agree on every two members of the list.
  have agree : (candidates.mergeSort reaches).map (fun candidate => candidate) =
      (candidates.map fun candidate => candidate).mergeSort standsBy :=
    List.map_mergeSort fun left leftMember right rightMember =>
      reaches_eq_standsBy (listed.real left leftMember) (listed.real right rightMember)
  simpa using agree

/-- The stable sort of listed candidates is in rank order. -/
theorem sorted_outranks {candidates : List Candidate} (listed : Listed candidates) :
    (candidates.mergeSort reaches).Pairwise Outranks := by
  -- A stable sort is the sort of the candidates with their places, which settle the ties.
  rw [mergeSort_reaches listed, ← List.mergeSort_zipIdx, List.pairwise_map]
  have ordered := List.pairwise_mergeSort (List.zipIdxLE_trans standsBy_trans)
    (List.zipIdxLE_total standsBy_total) candidates.zipIdx
  have distinct : (candidates.zipIdx.mergeSort (List.zipIdxLE standsBy)).Pairwise
      fun first second => first.2 ≠ second.2 := by
    rw [← List.pairwise_map (f := Prod.snd) (R := (· ≠ ·))]
    exact ((List.mergeSort_perm _ _).map _).nodup_iff.mpr (List.nodup_zipIdx_map_snd candidates)
  -- What is in order by height and then by place ranks in order.
  refine (ordered.and distinct).imp_of_mem ?_
  rintro ⟨first, early⟩ ⟨second, late⟩ firstMember secondMember ⟨inOrder, apart⟩
  obtain ⟨earlyInside, rfl⟩ := List.getElem?_eq_some_iff.mp
    (List.mk_mem_zipIdx_iff_getElem?.mp (List.mem_mergeSort.mp firstMember))
  obtain ⟨lateInside, rfl⟩ := List.getElem?_eq_some_iff.mp
    (List.mk_mem_zipIdx_iff_getElem?.mp (List.mem_mergeSort.mp secondMember))
  simp only [List.zipIdxLE, standsBy, decide_eq_true_eq] at inOrder
  split at inOrder
  · rename_i above
    rcases above.lt_or_eq with higher | tied
    · exact .inl higher
    · -- Tied candidates are in the order of their places, and so of their positions.
      rw [if_pos tied.ge, decide_eq_true_eq] at inOrder
      exact .inr ⟨tied, List.pairwise_iff_getElem.mp listed.ascending _ _ earlyInside lateInside
        (Nat.lt_of_le_of_ne inOrder apart)⟩
  · exact absurd inOrder Bool.false_ne_true

/-- Candidates in rank order are determined by which they are. -/
theorem eq_of_outranks {left right : List Candidate} (leftOrdered : left.Pairwise Outranks)
    (rightOrdered : right.Pairwise Outranks) (same : left.Perm right) : left = right :=
  same.eq_of_pairwise (fun first second _ _ before after =>
    absurd after (Outranks.asymmetric first second before)) leftOrdered rightOrdered

/-- Leaving candidates out before or after sorting makes no difference. -/
theorem mergeSort_filter {candidates : List Candidate} (listed : Listed candidates)
    (keeps : Candidate → Bool) :
    (candidates.filter keeps).mergeSort reaches = (candidates.mergeSort reaches).filter keeps := by
  -- Both sides hold the same candidates in rank order.
  refine eq_of_outranks (sorted_outranks (listed.filter keeps))
    ((sorted_outranks listed).sublist List.filter_sublist) ?_
  exact (List.mergeSort_perm _ _).trans ((List.mergeSort_perm candidates reaches).filter keeps).symm

/-- The best candidates reach the threshold for their number. -/
theorem threshold_reached {candidates : List Candidate} (listed : Listed candidates) {count : Nat}
    (some : 0 < count) (enough : count ≤ candidates.length) {candidate : Candidate}
    (best : candidate ∈ (candidates.mergeSort reaches).take count) :
    (threshold count candidates).le candidate.score = true := by
  -- The threshold is the score of the last of them, and none of the others stands below it.
  have scores : (candidates.mergeSort reaches).map (·.score) =
      (candidates.map (·.score)).mergeSort fun left right => right.le left :=
    List.map_mergeSort fun _ _ _ _ => rfl
  have length : (candidates.mergeSort reaches).length = candidates.length :=
    List.length_mergeSort candidates
  have within : count - 1 < (candidates.mergeSort reaches).length := by omega
  have last : threshold count candidates = (candidates.mergeSort reaches)[count - 1].score := by
    simp only [threshold, ← scores]
    rw [List.getD_eq_getElem?_getD, List.getElem?_eq_getElem (by simp; omega)]
    simp
  -- A candidate among the best ones is at the last of their places or before it.
  obtain ⟨place, inside, rfl⟩ := List.mem_take_iff_getElem.mp best
  have real : ∀ {member}, member ∈ candidates.mergeSort reaches → member.score ≠ .nan :=
    fun member => listed.real _ (List.mem_mergeSort.mp member)
  rw [last, Binary64.le_iff_height (real (List.getElem_mem _)) (real (List.getElem_mem _))]
  rcases Nat.lt_or_ge place (count - 1) with before | atLast
  · rcases List.pairwise_iff_getElem.mp (sorted_outranks listed) _ _ _ _ before with
      higher | ⟨tied, _⟩
    · exact higher.le
    · exact tied.le
  · have same : place = count - 1 := by omega
    subst same
    exact le_refl _

/-- The candidates among scores that can be chosen. -/
def choosable (scores : List Binary64) : List Candidate :=
  (scores.mapIdx Candidate.mk).filter fun candidate => isEligible candidate.score

/-- A candidate can be chosen if it has the score of its position, and that score is eligible. -/
theorem mem_choosable_iff {scores : List Binary64} {candidate : Candidate} :
    candidate ∈ choosable scores ↔
      scores[candidate.id]? = some candidate.score ∧ isEligible candidate.score = true := by
  -- The score is eligible on both sides, so the position is what is left to compare.
  rw [choosable, List.mem_filter, List.mem_mapIdx]
  apply and_congr_left
  intro _
  constructor
  · rintro ⟨place, inside, rfl⟩
    exact List.getElem?_eq_getElem inside
  · intro found
    obtain ⟨inside, score⟩ := List.getElem?_eq_some_iff.mp found
    exact ⟨candidate.id, inside, by rw [score]⟩

/-- A position has one score, so it is that of one candidate at most. -/
theorem eq_of_mem_choosable {scores : List Binary64} {first second : Candidate}
    (firstMember : first ∈ choosable scores) (secondMember : second ∈ choosable scores)
    (same : first.id = second.id) : first = second := by
  -- Both scores are the one that stands at their common position.
  have firstScore := (mem_choosable_iff.mp firstMember).1
  have secondScore := (mem_choosable_iff.mp secondMember).1
  rw [same, secondScore] at firstScore
  cases first
  cases second
  simp_all

/-- The candidates that can be chosen are listed. -/
theorem choosable_listed (scores : List Binary64) : Listed (choosable scores) where
  -- Positions are in order to begin with, and a NaN is not eligible.
  ascending := (ascending_mapIdx (fun _ _ => rfl) scores).sublist List.filter_sublist
  real _ member := ((isEligible_iff_ne _).mp (mem_choosable_iff.mp member).2).1

/-- How many of the candidates among scores rank before one. -/
def rank (scores : List Binary64) (candidate : Candidate) : Nat :=
  (choosable scores).countP fun other => other.Outranks candidate

/-- A candidate that ranks before another has at most as many before it. -/
theorem rank_le_of_outranks {first second : Candidate} (before : first.Outranks second)
    (scores : List Binary64) : rank scores first ≤ rank scores second :=
  -- Ranking before one means ranking before whatever that one ranks before.
  List.countP_mono_left fun _ _ higher => decide_eq_true ((of_decide_eq_true higher).trans before)

/-- Not all candidates that can be chosen rank before one of them. -/
theorem rank_lt_length_choosable {scores : List Binary64} {candidate : Candidate}
    (member : candidate ∈ choosable scores) :
    rank scores candidate < (choosable scores).length := by
  -- All candidates would have to include the candidate itself.
  have some : rank scores candidate ≠ (choosable scores).length := fun every =>
    Outranks.irreflexive candidate (of_decide_eq_true (List.countP_eq_length.mp every _ member))
  exact Nat.lt_of_le_of_ne List.countP_le_length some

/-- Fewer candidates rank before one that can be chosen than there are scores. -/
theorem rank_lt_length {scores : List Binary64} {candidate : Candidate}
    (member : candidate ∈ choosable scores) : rank scores candidate < scores.length := by
  -- There is one candidate for each score at most.
  have bound : (choosable scores).length ≤ scores.length := by
    simpa [choosable] using List.length_filter_le (fun candidate => isEligible candidate.score)
      (scores.mapIdx Candidate.mk)
  exact (rank_lt_length_choosable member).trans_le bound

/-- Where only the first positions can be chosen, fewer than that many candidates rank before one. -/
theorem rank_lt_of_inside {scores : List Binary64} {candidate : Candidate} {size : Nat}
    (inside : ∀ other ∈ choosable scores, other.id < size)
    (member : candidate ∈ choosable scores) : rank scores candidate < size := by
  -- Candidates have positions of their own, and these are numbers below the bound.
  have distinct : ((choosable scores).map (·.id)).Nodup :=
    List.pairwise_map.mpr ((choosable_listed scores).ascending.imp fun before => before.ne)
  have below : (choosable scores).map (·.id) ⊆ List.range size := by
    intro place taken
    obtain ⟨other, among, rfl⟩ := List.mem_map.mp taken
    exact List.mem_range.mpr (inside other among)
  have few := (List.subperm_of_subset distinct below).length_le
  rw [List.length_map, List.length_range] at few
  exact (rank_lt_length_choosable member).trans_le few

/-- A candidate with the score that it is ranked by. -/
def asRanked (candidate : Candidate) : Candidate :=
  ⟨candidate.id, ranked candidate.score⟩

/-- All positions of a run are the positions of its scores, as they are ranked. -/
theorem all_eq (scores : Scores) :
    all scores = (scores.single.mapIdx Candidate.mk).map asRanked := by
  -- Positions are made into candidates first, and their scores are ranked afterwards.
  simp [all, asRanked, List.mapIdx_eq_zipIdx_map, Function.comp_def]

/-- Ranking NaNs last does not change which candidates can be chosen. -/
theorem filter_all (scores : Scores) :
    (all scores).filter (fun candidate => isEligible candidate.score) =
      choosable scores.single := by
  -- A NaN cannot be chosen either way, and a score that can be chosen is ranked as it is.
  have alike : (fun candidate => isEligible candidate.score) ∘ asRanked =
      fun candidate => isEligible candidate.score := by
    funext candidate
    rw [Function.comp, Bool.eq_iff_iff, isEligible_iff, isEligible_iff, asRanked, height_ranked]
  -- What is eligible before ranking is so after it, and ranking leaves it as it is.
  rw [all_eq, List.filter_map, alike]
  have same : ∀ candidate ∈ choosable scores.single, asRanked candidate = candidate := by
    intro candidate member
    rw [asRanked, ranked_of_isEligible (mem_choosable_iff.mp member).2]
  exact (List.map_congr_left same).trans (List.map_id' _)

end Candidate

open Candidate

/-- The best candidates are the first ones of all that can be chosen, in rank order. -/
theorem topCandidates_eq (count : Nat) (scores : Scores) :
    topCandidates count scores = ((choosable scores.single).mergeSort reaches).take count := by
  have listed := all_listed scores
  have length : ((all scores).mergeSort reaches).length = (all scores).length :=
    List.length_mergeSort (all scores)
  -- Whatever stands above a candidate that can be chosen can be chosen, too.
  have closed : ((all scores).mergeSort reaches).Pairwise fun first second =>
      isEligible second.score = true → isEligible first.score = true := by
    apply (sorted_outranks listed).imp
    intro first second before later
    rw [isEligible_iff] at later ⊢
    rcases before with higher | ⟨tied, _⟩
    · exact later.trans higher
    · exact tied ▸ later
  rw [← filter_all, mergeSort_filter listed, ← filter_take_of_closed closed]
  simp only [topCandidates]
  -- Without a threshold there is nothing to take, and with one nothing is lost.
  by_cases none : min count (all scores).length = 0
  · rw [if_pos none]
    rcases Nat.min_eq_zero_iff.mp none with noCount | noScores
    · simp [noCount]
    · simp [List.length_eq_zero_iff.mp noScores]
  · rw [if_neg none, mergeSort_filter listed,
      take_filter_of_take fun candidate best =>
        threshold_reached listed (by omega) (Nat.min_le_right ..) best]
    -- A cut beyond the end is a cut at the end.
    congr 1
    rw [List.take_eq_take_iff, length]
    omega

/-- A candidate is among the best ones if it can be chosen and few others rank before it. -/
theorem mem_topCandidates_iff (count : Nat) (scores : Scores) (candidate : Candidate) :
    candidate ∈ topCandidates count scores ↔
      candidate ∈ choosable scores.single ∧ rank scores.single candidate < count := by
  -- Sorting keeps the candidates, and in order few come before one that is taken.
  have perm := List.mergeSort_perm (choosable scores.single) reaches
  rw [topCandidates_eq, mem_take_iff_countP Outranks.irreflexive Outranks.asymmetric
    (sorted_outranks (choosable_listed scores.single)), perm.mem_iff, perm.countP_eq, rank]

end ConstrainedDecoding
