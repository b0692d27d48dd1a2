import ConstrainedDecoding.Fault

/-! Score arrays in the numeric formats that models produce. -/

namespace ConstrainedDecoding

/-- The floating formats that scores are stored in. -/
inductive Precision where
  | half
  | brain
  | single
  | double
  deriving DecidableEq

/-- The numbers that a precision can hold. -/
def Precision.format : Precision → BinaryFormat
  | half => .half
  | brain => .brain
  | single => .single
  | double => .double

/-- A run of scores: floating numbers of one precision, or integers of 64 bits. -/
inductive Scores where
  | floats (precision : Precision) (values : List Binary64)
  | integers (values : List Int)

/-- Scores laid out in any number of dimensions, the last one running fastest. -/
structure ScoreArray where
  extents : List Nat
  scores : Scores

/-- The score of what must never be chosen. -/
def forbidden : Binary64 := .infinity true

/-- The least integer of 64 bits, which also stands for every number that does not fit. -/
def leastInteger : Int := -(twoPow 63)

/-- A number as an integer of 64 bits, its fraction dropped. -/
def integerScore (value : Binary64) : Int :=
  match value.truncate? with
  -- Numbers out of range all become the least integer.
  | some whole => if leastInteger ≤ whole && whole < -leastInteger then whole else leastInteger
  | none => leastInteger

namespace Scores

/-- Numbers stored in a precision. -/
def ofNumbers (precision : Precision) (numbers : List Binary64) : Scores :=
  floats precision (numbers.map precision.format.convert)

/-- Numbers stored as integers. -/
def ofWhole (numbers : List Binary64) : Scores :=
  integers (numbers.map integerScore)

/-- How many scores there are. -/
def length : Scores → Nat
  | floats _ values => values.length
  | integers values => values.length

/-- The scores in single precision, in which they are compared. -/
def single : Scores → List Binary64
  | floats _ values => values.map BinaryFormat.single.convert
  | integers values => values.map BinaryFormat.single.ofInt

/-- A part of the scores. -/
def slice (start count : Nat) : Scores → Scores
  | floats precision values => floats precision ((values.drop start).take count)
  | integers values => integers ((values.drop start).take count)

/-- The scores with those masked that a choice of positions leaves out. Integers have no mask. -/
def keepWhere (keeps : Nat → Binary64 → Bool) : Scores → Except Fault Scores
  | floats precision values =>
    .ok (floats precision
      (values.mapIdx fun index value => if keeps index value then value else forbidden))
  | integers _ => .error (.broken "value cannot be converted to an integer without overflow")

/-- The scores of several runs one after the other, in the format of the first. -/
def join : List Scores → Scores
  | [] => integers []
  | floats precision values :: rest =>
    floats precision (values ++ rest.flatMap fun
      | floats _ others => others
      | integers _ => [])
  | integers values :: rest =>
    integers (values ++ rest.flatMap fun
      | floats _ _ => []
      | integers others => others)

end Scores

namespace ScoreArray

/-- The rows of an array along its first dimension. A lone score has none. -/
def rows : ScoreArray → List ScoreArray
  | ⟨[], _⟩ => []
  | ⟨count :: inner, scores⟩ =>
    -- A row has as many scores as the inner extents allow.
    let size := inner.foldl (· * ·) 1
    (List.range count).map fun index => ⟨inner, scores.slice (index * size) size⟩

/-- Arrays of equal extents as the rows of one. There is no telling the extents of no rows. -/
def stack : List ScoreArray → Except Fault ScoreArray
  | [] => .error (.broken "stack expects a non-empty list")
  | first :: rest =>
    .ok ⟨(rest.length + 1) :: first.extents, Scores.join ((first :: rest).map (·.scores))⟩

end ScoreArray

end ConstrainedDecoding
