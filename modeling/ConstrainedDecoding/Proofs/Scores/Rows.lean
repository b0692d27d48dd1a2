import Mathlib.Algebra.BigOperators.Group.List.Basic
import Mathlib.Data.Set.List
import ConstrainedDecoding.Proofs.Outcomes
import ConstrainedDecoding.Scores.Basic

/-! Arrays of scores and their rows: what is stacked from rows has just these rows. -/

namespace ConstrainedDecoding

/-- Pieces of one length are found again in the list that they make up. -/
theorem flatten_pieces {α : Type} {size : Nat} {pieces : List (List α)}
    (even : ∀ piece ∈ pieces, piece.length = size) :
    (List.range pieces.length).map
      (fun index => (pieces.flatten.drop (index * size)).take size) = pieces := by
  induction pieces with
  | nil => rfl
  | cons piece rest ih =>
    have first : piece.length = size := even piece List.mem_cons_self
    have others := ih fun other later => even other (List.mem_cons_of_mem piece later)
    rw [List.length_cons, List.range_succ_eq_map, List.map_cons, List.map_map, List.flatten_cons,
      Nat.zero_mul, List.drop_zero, List.take_left' first]
    refine congrArg (piece :: ·) (.trans (List.map_congr_left fun index _ => ?_) others)
    -- Each of the others stands as far behind the first piece as in the list without it.
    rw [Function.comp, Nat.succ_mul, Nat.add_comm, ← first, List.drop_length_add_append]

namespace Scores

/-- The precision of floating scores. Integers have none. -/
def precision? : Scores → Option Precision
  | floats precision _ => some precision
  | integers _ => none

/-- A part of a run is in the format of the run. -/
theorem precision?_slice (start count : Nat) (scores : Scores) :
    (scores.slice start count).precision? = scores.precision? := by
  cases scores <;> rfl

/-- A part of a run is as long as it is meant to be, if the run goes on for long enough. -/
theorem length_slice {start count : Nat} {scores : Scores}
    (inside : start + count ≤ scores.length) : (scores.slice start count).length = count := by
  -- Scores of either kind are cut out of a list.
  cases scores with
  | floats precision values =>
    simp only [slice, length, List.length_take, List.length_drop] at inside ⊢
    omega
  | integers values =>
    simp only [slice, length, List.length_take, List.length_drop] at inside ⊢
    omega

/-- Masking changes neither the format of scores nor how many there are. -/
theorem keepWhere_shape {keeps : Nat → Binary64 → Bool} {scores kept : Scores}
    (masked : scores.keepWhere keeps = .ok kept) :
    kept.precision? = scores.precision? ∧ kept.length = scores.length := by
  -- Integers are not masked at all.
  cases scores with
  | floats precision values =>
    cases masked
    exact ⟨rfl, List.length_mapIdx⟩
  | integers values => cases masked

/-- Runs of one kind are found again in what they are joined to. -/
theorem slice_join_of {β : Type} {wrap : List β → Scores} {size : Nat}
    (joins : ∀ (values : List β) (others : List (List β)),
      join (wrap values :: others.map wrap) = wrap (values ++ others.flatten))
    (slices : ∀ (start count : Nat) (values : List β),
      (wrap values).slice start count = wrap ((values.drop start).take count))
    (counts : ∀ values : List β, (wrap values).length = values.length)
    {values : List β} {rest : List Scores} (alike : ∀ run ∈ rest, run ∈ Set.range wrap)
    (even : ∀ run ∈ wrap values :: rest, run.length = size) :
    (List.range (rest.length + 1)).map (fun index =>
      (join (wrap values :: rest)).slice (index * size) size) = wrap values :: rest := by
  -- All the runs are wrapped lists, so it is enough to find the pieces of a list again.
  have wrapped : rest ∈ Set.range (List.map wrap) := by rwa [Set.range_list_map]
  obtain ⟨others, rfl⟩ := wrapped
  have evenPieces : ∀ piece ∈ values :: others, piece.length = size := by
    intro piece member
    rw [← counts piece]
    exact even _ (List.mem_map_of_mem member : wrap piece ∈ (values :: others).map wrap)
  have pieces := congrArg (List.map wrap) (flatten_pieces evenPieces)
  rw [List.map_map, List.length_cons, List.map_cons] at pieces
  rw [List.length_map]
  refine (List.map_congr_left fun index _ => ?_).trans pieces
  rw [joins, slices, Function.comp, List.flatten_cons]

/-- Runs of one format and length are found again in what they are joined to. -/
theorem slice_join {size : Nat} {first : Scores} {rest : List Scores}
    (alike : ∀ run ∈ rest, run.precision? = first.precision?)
    (even : ∀ run ∈ first :: rest, run.length = size) :
    (List.range (rest.length + 1)).map (fun index =>
      (join (first :: rest)).slice (index * size) size) = first :: rest := by
  -- The others are all of the kind that the first run is of.
  cases first with
  | floats precision values =>
    have kind : ∀ run ∈ rest, run ∈ Set.range (floats precision) := by
      intro run member
      cases run with
      | floats other numbers =>
        cases alike _ member
        exact ⟨numbers, rfl⟩
      | integers numbers => cases alike _ member
    refine slice_join_of ?_ (fun _ _ _ => rfl) (fun _ => rfl) kind even
    intro values others
    simp only [join, List.flatMap_map, List.flatMap_id']
  | integers values =>
    have kind : ∀ run ∈ rest, run ∈ Set.range integers := by
      intro run member
      cases run with
      | floats precision numbers => cases alike _ member
      | integers numbers => exact ⟨numbers, rfl⟩
    refine slice_join_of ?_ (fun _ _ _ => rfl) (fun _ => rfl) kind even
    intro values others
    simp only [join, List.flatMap_map, List.flatMap_id']

end Scores

namespace ScoreArray

/-- An array has as many scores as its extents allow. -/
def IsFull (array : ScoreArray) : Prop :=
  array.scores.length = array.extents.prod

/-- An array of rows, as many as its first extent tells, and full of scores. -/
structure IsBatch (array : ScoreArray) : Prop where
  layered : 2 ≤ array.extents.length
  full : array.IsFull

/-- A row has certain extents, and is full of scores of a certain format. -/
structure IsRow (inner : List Nat) (format : Option Precision) (row : ScoreArray) : Prop where
  extents : row.extents = inner
  format : row.scores.precision? = format
  full : row.scores.length = inner.prod

/-- The rows of an array that is full are so, too. -/
theorem isRow_of_mem_rows {count : Nat} {inner : List Nat} {scores : Scores}
    (full : IsFull ⟨count :: inner, scores⟩) {row : ScoreArray}
    (member : row ∈ rows ⟨count :: inner, scores⟩) : row.IsRow inner scores.precision? := by
  simp only [rows, ← List.prod_eq_foldl] at member
  obtain ⟨index, inside, rfl⟩ := List.mem_map.mp member
  refine ⟨rfl, Scores.precision?_slice _ _ scores, Scores.length_slice ?_⟩
  -- As many rows as there are fit into the array.
  have full : scores.length = count * inner.prod := full
  rw [full, ← Nat.succ_mul]
  exact Nat.mul_le_mul_right _ (List.mem_range.mp inside)

/-- The rows of a batch are alike. -/
theorem IsBatch.exists_isRow {array : ScoreArray} (batch : array.IsBatch) :
    ∃ inner format, ∀ row ∈ array.rows, row.IsRow inner format := by
  obtain ⟨extents, scores⟩ := array
  obtain ⟨layered, full⟩ := batch
  -- All rows have the inner extents and the format of the batch.
  cases extents with
  | nil => cases layered
  | cons count inner => exact ⟨inner, scores.precision?, fun _ => isRow_of_mem_rows full⟩

/-- Rows can be stacked after a step that succeeds for each of them, as long as there are some. -/
theorem exists_stacked {step : ScoreArray → Except Fault ScoreArray} {rows : List ScoreArray}
    (some : rows ≠ []) (each : ∀ row ∈ rows, ∃ part, step row = .ok part) :
    ∃ array, rows.mapM step >>= stack = .ok array := by
  obtain ⟨parts, done⟩ := exists_mapM_ok each
  -- There are as many parts as there are rows.
  have lengths := (mapM_eq_ok_iff.mp done).length_eq
  cases parts with
  | nil => exact absurd (List.length_eq_zero_iff.mp lengths) some
  | cons first rest => exact ⟨_, bind_eq_ok_iff.mpr ⟨_, done, rfl⟩⟩

/-- What is stacked from rows of equal extents and format has just these rows. -/
theorem rows_stack {inner : List Nat} {format : Option Precision} {parts : List ScoreArray}
    (alike : ∀ part ∈ parts, part.IsRow inner format) {array : ScoreArray}
    (stacked : stack parts = .ok array) : array.rows = parts := by
  cases parts with
  | nil => cases stacked
  | cons first rest =>
    cases stacked
    have formats : ∀ run ∈ rest.map (·.scores), run.precision? = first.scores.precision? := by
      intro run member
      obtain ⟨part, later, rfl⟩ := List.mem_map.mp member
      exact (alike part (List.mem_cons_of_mem first later)).format.trans
        (alike first List.mem_cons_self).format.symm
    have even : ∀ run ∈ first.scores :: rest.map (·.scores), run.length = inner.prod := by
      intro run member
      rw [← List.map_cons] at member
      obtain ⟨part, among, rfl⟩ := List.mem_map.mp member
      exact (alike part among).full
    -- The scores of the rows are found again in the joined ones, one row after the other.
    have found := congrArg (List.map (ScoreArray.mk inner)) (Scores.slice_join formats even)
    rw [List.map_map, List.length_map] at found
    simp only [rows, ← List.prod_eq_foldl, (alike first List.mem_cons_self).extents]
    refine found.trans ?_
    -- The extents that were taken off the rows are put back.
    rw [← List.map_cons, List.map_map]
    refine (List.map_congr_left fun part among => ?_).trans (List.map_id _)
    rw [Function.comp, ← (alike part among).extents]
    rfl

end ScoreArray

end ConstrainedDecoding
