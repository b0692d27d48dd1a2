import ConstrainedDecoding.Proofs.Number.Rounding
import ConstrainedDecoding.Proofs.Scores.Selection

/-! The best candidates among scores in double precision, which are chosen in single precision. -/

namespace ConstrainedDecoding

/-- The highest number that single precision takes for the score of what must not be chosen. -/
def narrowFloor : Binary64 :=
  .finite true BinaryFormat.singleEnd

namespace Candidate

/-- A finite number becomes the score of what must not be chosen if it is far enough below zero. -/
theorem close_single_eq_forbidden_iff (negative : Bool) (units : Nat) :
    BinaryFormat.single.close negative units 1 = forbidden ↔
      negative = true ∧ BinaryFormat.singleEnd ≤ units := by
  -- Out of range a number becomes an infinity on its own side of zero, and otherwise stays finite.
  simp only [BinaryFormat.close, BinaryFormat.single_overflow_iff, forbidden]
  split
  · rename_i far
    simp [far]
  · rename_i inside
    simp [inside]

/-- A number can be chosen in single precision if it is above the floor of single precision. -/
theorem isEligible_single_iff (number : Binary64) :
    isEligible (BinaryFormat.single.convert number) = true ↔ narrowFloor.lt number = true := by
  rw [isEligible_iff_ne]
  cases number with
  | nan => decide
  | infinity negative => cases negative <;> decide
  | finite negative units =>
    have real : BinaryFormat.single.close negative units 1 ≠ .nan := by
      simp only [BinaryFormat.close]
      split <;> simp
    have above : narrowFloor.lt (.finite negative units) = true ↔
        signed true BinaryFormat.singleEnd < signed negative units := by
      rw [Binary64.lt_iff_height (by simp [narrowFloor]) (by simp), lt_iff_not_ge, ← not_le]
      exact (Height.units_le_units _ _).not
    have some : 0 < BinaryFormat.singleEnd := by decide +kernel
    rw [above, BinaryFormat.convert, Ne, Ne, close_single_eq_forbidden_iff]
    -- Only a negative number can be as far below zero as the floor.
    cases negative with
    | false =>
      have higher : signed true BinaryFormat.singleEnd < signed false units := by
        simp only [signed, if_true, Bool.false_eq_true, if_false]
        omega
      exact iff_of_true ⟨real, fun far => Bool.false_ne_true far.1⟩ higher
    | true =>
      have higher : signed true BinaryFormat.singleEnd < signed true units ↔
          ¬BinaryFormat.singleEnd ≤ units := by
        simp only [signed, if_true]
        omega
      rw [higher]
      exact ⟨fun allowed far => allowed.2 ⟨rfl, far⟩, fun near => ⟨real, fun far => near far.2⟩⟩

/-- There is a candidate for each score that can be chosen. -/
theorem length_choosable (scores : List Binary64) :
    (choosable scores).length = scores.countP isEligible := by
  -- The scores of all candidates are the scores themselves.
  have scored : (scores.mapIdx Candidate.mk).map (·.score) = scores := by
    simp [List.mapIdx_eq_zipIdx_map, Function.comp_def]
  rw [choosable, ← List.countP_eq_length_filter]
  conv_rhs => rw [← scored, List.countP_map]
  rfl

/-- A candidate that can be chosen has fewer before it than one that it ranks before. -/
theorem rank_lt_of_outranks {scores : List Binary64} {first second : Candidate}
    (member : first ∈ choosable scores) (before : first.Outranks second) :
    rank scores first < rank scores second := by
  have apart := List.perm_cons_erase member
  have own : ¬first.Outranks first := Outranks.irreflexive first
  -- Whatever comes before the first comes before the second, and so does the first itself.
  have others : ((choosable scores).erase first).countP (fun other => other.Outranks first) ≤
      ((choosable scores).erase first).countP (fun other => other.Outranks second) :=
    List.countP_mono_left fun _ _ higher => decide_eq_true ((of_decide_eq_true higher).trans before)
  rw [rank, rank, apart.countP_eq, apart.countP_eq, List.countP_cons_of_neg (by simpa using own),
    List.countP_cons_of_pos (by simpa using before)]
  omega

end Candidate

open Candidate

/-- As many candidates are chosen as there are, up to the number asked for. -/
theorem length_topCandidates (count : Nat) (scores : Scores) :
    (topCandidates count scores).length = min count (scores.single.countP isEligible) := by
  -- The candidates are a first part of all that can be chosen.
  rw [topCandidates_eq, List.length_take, List.length_mergeSort, length_choosable]

/-- A score that was left out is above that of a candidate that was chosen. -/
def Overlooks (values : List Binary64) (chosen : List Candidate) (candidate : Candidate)
    (id : Nat) : Prop :=
  candidate ∈ chosen ∧ (∀ taken ∈ chosen, taken.id ≠ id) ∧ ∃ value other,
    values[candidate.id]? = some value ∧ values[id]? = some other ∧ value.lt other = true

/-- Two scores that can be chosen are equal in single precision, although the later is higher. -/
def Collide (values : List Binary64) (first second : Nat) : Prop :=
  first < second ∧ ∃ value other, values[first]? = some value ∧ values[second]? = some other ∧
    narrowFloor.lt value = true ∧ value.lt other = true ∧
    (BinaryFormat.single.convert value).Equals (BinaryFormat.single.convert other)

/-- The scores in single precision, one for each score in double precision. -/
theorem getElem?_single {values : List Binary64} {id : Nat} {value : Binary64}
    (found : values[id]? = some value) :
    (Scores.floats .double values).single[id]? =
      some (BinaryFormat.single.convert value) := by
  rw [Scores.single, List.getElem?_map, found, Option.map_some]

/-- A score above the floor makes its position a candidate. -/
theorem mem_choosable_single {values : List Binary64} {id : Nat} {value : Binary64}
    (found : values[id]? = some value) (above : narrowFloor.lt value = true) :
    ⟨id, BinaryFormat.single.convert value⟩ ∈ choosable (Scores.floats .double values).single :=
  mem_choosable_iff.mpr ⟨getElem?_single found, (isEligible_single_iff value).mpr above⟩

/-- The score of a candidate is one above the floor, rounded. -/
theorem exists_of_mem_choosable_single {values : List Binary64} {candidate : Candidate}
    (member : candidate ∈ choosable (Scores.floats .double values).single) :
    ∃ value, values[candidate.id]? = some value ∧ narrowFloor.lt value = true ∧
      candidate.score = BinaryFormat.single.convert value := by
  -- The score at the position of the candidate was rounded from the one in double precision.
  obtain ⟨place, eligible⟩ := mem_choosable_iff.mp member
  rw [Scores.single, List.getElem?_map, Option.map_eq_some_iff] at place
  obtain ⟨value, found, rounded⟩ := place
  rw [← rounded] at eligible
  exact ⟨value, found, (isEligible_single_iff value).mp eligible, rounded.symm⟩

/-- What is above a number that can be chosen can be chosen, and rounds at least as high. -/
theorem above_floor_of_lt {value other : Binary64} (above : narrowFloor.lt value = true)
    (less : value.lt other = true) :
    narrowFloor.lt other = true ∧ (BinaryFormat.single.convert value).height ≤
      (BinaryFormat.single.convert other).height := by
  -- Rounding keeps the order, and whatever stands above the bottom can be chosen.
  have le : (BinaryFormat.single.convert value).height ≤
      (BinaryFormat.single.convert other).height :=
    BinaryFormat.convert_mono (by decide) (Binary64.height_lt_of_lt less).le
  rw [← isEligible_single_iff, isEligible_iff] at above ⊢
  exact ⟨above.trans_le le, le⟩

/-- A higher score is left out for a lower one only if the two collide. -/
theorem Overlooks.collide {values : List Binary64} {count : Nat} {candidate : Candidate} {id : Nat}
    (overlooks : Overlooks values (topCandidates count (.floats .double values)) candidate id) :
    Collide values candidate.id id := by
  obtain ⟨chosen, out, value, other, found, otherFound, less⟩ := overlooks
  obtain ⟨member, few⟩ := (mem_topCandidates_iff ..).mp chosen
  obtain ⟨_, sameFound, above, score⟩ := exists_of_mem_choosable_single member
  obtain rfl := Option.some.inj (found.symm.trans sameFound)
  obtain ⟨otherAbove, le⟩ := above_floor_of_lt above less
  -- If the other did not rank behind the candidate, it would have been chosen as well.
  have behind : ¬Outranks ⟨id, BinaryFormat.single.convert other⟩ candidate := by
    intro before
    refine out _ ((mem_topCandidates_iff ..).mpr ⟨mem_choosable_single otherFound otherAbove, ?_⟩) rfl
    exact (rank_le_of_outranks before _).trans_lt few
  have later := (Outranks.total (out candidate chosen)).resolve_right behind
  rcases later with higher | ⟨tied, lower⟩
  · -- The candidate cannot rank higher, because rounding keeps the order.
    rw [score] at higher
    exact absurd le (not_le.mpr higher)
  · have real {number : Binary64} (inside : narrowFloor.lt number = true) :
        BinaryFormat.single.convert number ≠ .nan :=
      ((isEligible_iff_ne _).mp ((isEligible_single_iff number).mpr inside)).1
    rw [score] at tied
    exact ⟨lower, value, other, found, otherFound, above, less,
      (Binary64.equals_iff_height (real above) (real otherAbove)).mpr tied.symm⟩

/-- Of two scores that collide, the higher one is left out for the lower one at some count. -/
theorem Collide.overlooks {values : List Binary64} {first second : Nat}
    (collide : Collide values first second) :
    ∃ count candidate, 1 ≤ count ∧ candidate.id = first ∧
      Overlooks values (topCandidates count (.floats .double values)) candidate second := by
  obtain ⟨earlier, value, other, found, otherFound, above, less, equals⟩ := collide
  obtain ⟨otherAbove, le⟩ := above_floor_of_lt above less
  have member := mem_choosable_single found above
  have otherMember := mem_choosable_single otherFound otherAbove
  have before : Outranks ⟨first, BinaryFormat.single.convert value⟩
      ⟨second, BinaryFormat.single.convert other⟩ := by
    refine (precedes_iff_outranks ?_ ?_).mp (.inr ⟨equals, earlier⟩)
    · exact (choosable_listed _).real _ member
    · exact (choosable_listed _).real _ otherMember
  have fewer := rank_lt_of_outranks member before
  -- With room for the first one and for what comes before it, there is none for the second.
  refine ⟨_, _, Nat.le_add_left 1 _, rfl,
    (mem_topCandidates_iff ..).mpr ⟨member, Nat.lt_succ_self _⟩, ?_,
    value, other, found, otherFound, less⟩
  intro taken chosen same
  obtain ⟨takenMember, few⟩ := (mem_topCandidates_iff ..).mp chosen
  rw [eq_of_mem_choosable takenMember otherMember same] at few
  exact absurd fewer (not_lt.mpr (Nat.le_of_lt_succ few))

/--
Scores in double precision are chosen as single precision sees them.

So many candidates are chosen, out of the scores above the floor of single precision. A higher score
is left out for a lower one just if the two collide: single precision has one score for both, and
the lower one comes first.
-/
theorem topCandidates_doubles (values : List Binary64) :
    (∀ count : Int, ∃ chosen,
      ScoreArray.topCandidates count ⟨[values.length], .floats .double values⟩ = .ok chosen ∧
      (chosen.map (·.id)).Nodup ∧
      chosen.length = min count.toNat (values.countP narrowFloor.lt) ∧
      (∀ candidate ∈ chosen, ∃ value, values[candidate.id]? = some value ∧
        narrowFloor.lt value = true ∧ candidate.score = BinaryFormat.single.convert value) ∧
      ∀ candidate id, Overlooks values chosen candidate id → Collide values candidate.id id) ∧
    ∀ first second, Collide values first second → ∃ (count : Int) (chosen : List Candidate)
      (candidate : Candidate), 1 ≤ count ∧
        ScoreArray.topCandidates count ⟨[values.length], .floats .double values⟩ = .ok chosen ∧
        candidate.id = first ∧ Overlooks values chosen candidate second := by
  refine ⟨fun count => ⟨_, rfl, ?_, ?_, ?_, ?_⟩, ?_⟩
  · rw [topCandidates_eq, List.map_take]
    exact (isRanking_mergeSort _).distinct.sublist (List.take_sublist _ _)
  · -- The scores that can be chosen are counted before they are rounded.
    have eligible : isEligible ∘ BinaryFormat.single.convert = narrowFloor.lt :=
      funext fun value => Bool.eq_iff_iff.mpr (isEligible_single_iff value)
    rw [length_topCandidates, Scores.single, List.countP_map, eligible]
  · intro candidate member
    exact exists_of_mem_choosable_single ((mem_topCandidates_iff ..).mp member).1
  · exact fun candidate id overlooks => overlooks.collide
  · intro first second collide
    obtain ⟨count, candidate, some, place, overlooks⟩ := collide.overlooks
    exact ⟨count, _, candidate, by omega, rfl, place, overlooks⟩

/-- The number below one in double precision. -/
def belowOne : Binary64 :=
  .finite false (twoPow unitExponent - twoPow (unitExponent - 53))

/-- One is left out for the number below it, and the floor is no candidate at all. -/
theorem higher_double_overlooked :
    (∃ chosen candidate,
      ScoreArray.topCandidates 1 ⟨[2], .floats .double [belowOne, .ofInt 1]⟩ = .ok chosen ∧
        Overlooks [belowOne, .ofInt 1] chosen candidate 1) ∧
      narrowFloor ≠ .nan ∧ narrowFloor ≠ forbidden ∧
        ScoreArray.topCandidates 1 ⟨[1], .floats .double [narrowFloor]⟩ = .ok [] := by
  -- Both numbers have the score one, and their candidates are sorted already.
  have tied : choosable (Scores.floats .double [belowOne, .ofInt 1]).single =
      [⟨0, .ofInt 1⟩, ⟨1, .ofInt 1⟩] := by decide +kernel
  have lower : topCandidates 1 (.floats .double [belowOne, .ofInt 1]) = [⟨0, .ofInt 1⟩] := by
    rw [topCandidates_eq, tied, List.mergeSort_of_pairwise (by decide +kernel)]
    rfl
  have empty : choosable (Scores.floats .double [narrowFloor]).single = [] := by decide +kernel
  have none : topCandidates 1 (.floats .double [narrowFloor]) = [] := by
    rw [topCandidates_eq, empty, List.mergeSort_nil, List.take_nil]
  have less : belowOne.lt (.ofInt 1) = true := by decide +kernel
  refine ⟨⟨_, ⟨0, .ofInt 1⟩, congrArg Except.ok lower, ?_⟩, nofun, nofun, congrArg Except.ok none⟩
  exact ⟨List.mem_singleton_self _, by simp, _, _, rfl, rfl, less⟩

end ConstrainedDecoding
