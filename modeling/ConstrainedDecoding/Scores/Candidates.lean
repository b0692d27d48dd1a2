import ConstrainedDecoding.Scores.Basic

/-! The highest scores of a run: those that reach a threshold, sorted without disturbing ties. -/

namespace ConstrainedDecoding

/-- A position with its score in single precision. -/
structure Candidate where
  id : Nat
  score : Binary64
  deriving DecidableEq

namespace Candidate

/-- A score that can be chosen: anything but a NaN and the score of what must not be chosen. -/
def isEligible (score : Binary64) : Bool :=
  forbidden.lt score

/-- A score as it is ranked. A NaN counts no more than what must not be chosen. -/
def ranked (score : Binary64) : Binary64 :=
  if score = .nan then forbidden else score

/-- Every position of a run, with the score that it is ranked by. -/
def all (scores : Scores) : List Candidate :=
  scores.single.mapIdx fun id score => ⟨id, ranked score⟩

/-- A candidate scores at least as high as another. -/
def reaches (left right : Candidate) : Bool :=
  right.score.le left.score

/-- The score of the last of a number of best candidates. -/
def threshold (count : Nat) (candidates : List Candidate) : Binary64 :=
  -- Without NaNs among the scores, every two of them compare.
  let scores := (candidates.map (·.score)).mergeSort fun left right => right.le left
  scores.getD (count - 1) forbidden

end Candidate

/-- The highest scores in descending order, the lowest position first among equal ones. -/
def topCandidates (count : Nat) (scores : Scores) : List Candidate :=
  let candidates := Candidate.all scores
  let count := min count candidates.length
  if count = 0 then []
  else
    let least := Candidate.threshold count candidates
    -- Whatever ties with the last of the best contends, and the stable sort settles the ties.
    let contenders := candidates.filter fun candidate => least.le candidate.score
    ((contenders.mergeSort Candidate.reaches).take count).filter fun candidate =>
      Candidate.isEligible candidate.score

/-- The candidates of an array, which has to be one-dimensional. No more than none are none. -/
def ScoreArray.topCandidates (count : Int) (array : ScoreArray) : Except Fault (List Candidate) :=
  match array.extents with
  | [_] => .ok (ConstrainedDecoding.topCandidates count.toNat array.scores)
  | _ => .error (.asserted "scores must be one-dimensional")

end ConstrainedDecoding
