import Mathlib.Data.Nat.ModEq
import ConstrainedDecoding.Json.Compare
import ConstrainedDecoding.Proofs.Json.Ascii
import ConstrainedDecoding.Proofs.Json.Rendered

/-! Values that are equal: what they are filed under, and when they have one canonical text. -/

namespace ConstrainedDecoding

namespace Fields

variable {α : Type}

/-- Fields with the same names in one order have them pair by pair. -/
theorem name_eq_of_mem_zip {lefts rights : Fields α} (names : lefts.names = rights.names)
    {pair : (Text × α) × (Text × α)} (member : pair ∈ lefts.zip rights) :
    pair.1.1 = pair.2.1 := by
  rw [Fields.names, Fields.names, ← List.forall₂_eq_eq_eq, List.forall₂_map_left_iff,
    List.forall₂_map_right_iff] at names
  exact List.forall₂_zip names member

end Fields

namespace Json

variable {left right : Json}

/-- Two lists are equal just if they are as long as each other and equal pair by pair. -/
theorem sameElements_iff {lefts rights : List Json} :
    sameElements lefts rights = true ↔
      lefts.length = rights.length ∧ ∀ pair ∈ lefts.zip rights, pair.1.same pair.2 = true := by
  -- By induction on both lists, which are compared from their beginning.
  induction lefts generalizing rights with
  | nil =>
    cases rights with
    | nil => simp [sameElements]
    | cons second rights => simp [sameElements]
  | cons first lefts ih =>
    cases rights with
    | nil => simp [sameElements]
    | cons second rights => simp [sameElements, ih, and_left_comm]

/-- Fields are equal to others just if each of them is found there with an equal value. -/
theorem sameFields_iff {lefts rights : Fields Json} :
    sameFields lefts rights = true ↔
      ∀ field ∈ lefts, ∃ other, rights.get? field.1 = some other ∧ field.2.same other = true := by
  induction lefts with
  | nil => simp [sameFields]
  | cons field lefts ih =>
    obtain ⟨name, value⟩ := field
    rw [sameFields, Bool.and_eq_true, ih, List.forall_mem_cons]
    -- The other fields are taken care of, and this one is looked up by its name.
    refine and_congr_left fun _ => ?_
    cases rights.get? name with
    | none => simp
    | some other => simp

/-- Equal values are two numbers of one value, or they are of one kind and have equal parts. -/
theorem same_cases (same : left.same right = true) :
    (∃ number other, left.number? = some number ∧ right.number? = some other ∧
      number.matches other = true) ∨
    (left = null ∧ right = null) ∨ (∃ text, left = str text ∧ right = str text) ∨
    (∃ lefts rights, left = arr lefts ∧ right = arr rights ∧ sameElements lefts rights = true) ∨
    ∃ lefts rights, left = obj lefts ∧ right = obj rights := by
  -- Numbers and truth values are what is left when the kinds with parts are gone through.
  unfold Json.same at same
  split at same
  · exact .inr (.inl ⟨rfl, rfl⟩)
  · rename_i first second
    exact .inr (.inr (.inl ⟨first, rfl, by rw [of_decide_eq_true same]⟩))
  · rename_i lefts rights
    exact .inr (.inr (.inr (.inl ⟨lefts, rights, rfl, rfl, same⟩)))
  · rename_i lefts rights
    exact .inr (.inr (.inr (.inr ⟨lefts, rights, rfl, rfl⟩)))
  · split at same
    · rename_i number other counts otherCounts
      exact .inl ⟨number, other, counts, otherCounts, same⟩
    · cases same

/-- Equal objects have the same names, and equal values under them. -/
theorem same_obj {lefts rights : Fields Json} (distinct : lefts.names.Nodup)
    (otherDistinct : rights.names.Nodup) (same : (obj lefts).same (obj rights) = true) :
    lefts.names.Perm rights.names ∧
      ∀ name left right, (name, left) ∈ lefts → (name, right) ∈ rights →
        left.same right = true := by
  rw [Json.same, Bool.and_eq_true, decide_eq_true_eq, sameFields_iff] at same
  obtain ⟨length, found⟩ := same
  constructor
  · -- All names of the left are on the right, where there are no more of them.
    have among : lefts.names ⊆ rights.names := by
      intro name member
      obtain ⟨value, member⟩ := Fields.exists_of_mem_names member
      obtain ⟨other, found, _⟩ := found _ member
      exact List.mem_map_of_mem (Fields.mem_of_get? found)
    refine (List.subperm_of_subset distinct among).perm_of_length_le ?_
    simp [Fields.names, length]
  · intro name left right member other
    obtain ⟨value, found, same⟩ := found _ member
    rwa [Fields.eq_of_mem otherDistinct other (Fields.mem_of_get? found)]

/-- Every number is the same member of a collection as itself. -/
theorem Number.matches_self (number : Number) : number.matches number = true := by
  -- A NaN matches by being the same object, and any other number by its value.
  match number with
  | .int value => simp [Number.matches, Number.same, Number.le]
  | .float .nan => rfl
  | .float (.infinity true) => rfl
  | .float (.infinity false) => rfl
  | .float (.finite negative units) =>
    simp [Number.matches, Number.same, Number.le, Binary64.le]

/-- A proper document equals itself. -/
theorem Proper.same_self {texts : Text → Prop} {floats : Binary64 → Prop} {json : Json}
    (proper : json.Proper texts floats) : json.same json = true := by
  induction proper with
  | null => rfl
  | bool value => exact Number.matches_self (.int (if value then 1 else 0))
  | int value => exact Number.matches_self (.int value)
  | @float value _ => exact Number.matches_self (.float value)
  | str _ => simp [Json.same]
  | @arr elements _ ih =>
    rw [Json.same, sameElements_iff]
    -- An array is paired with itself element by element.
    have pairs : List.Forall₂ (fun left right => left.same right = true) elements elements :=
      List.forall₂_same.mpr ih
    exact ⟨rfl, fun pair member => List.forall₂_zip pairs member⟩
  | @obj fields distinct _ _ ih =>
    rw [Json.same, Bool.and_eq_true, decide_eq_true_eq, sameFields_iff]
    exact ⟨rfl, fun field member => ⟨field.2, Fields.get?_of_mem distinct member, ih field member⟩⟩

section Numbers

/-- A key does not depend on the sign of a zero. -/
theorem numericKey_zero (negative : Bool) : numericKey negative 0 = 0 := by
  cases negative <;> rfl

/-- Dividing by the number of units in one is multiplying by a power of two, up to the modulus. -/
theorem residue_units (count : Nat) :
    count * twoPow unitExponent % hashModulus * twoPow 24 % hashModulus = count % hashModulus := by
  -- The two powers of two multiply to a power that leaves one.
  have unit : twoPow unitExponent * twoPow 24 % hashModulus = 1 % hashModulus := by decide +kernel
  calc count * twoPow unitExponent % hashModulus * twoPow 24 % hashModulus
      = count * (twoPow unitExponent * twoPow 24 % hashModulus) % hashModulus := by
        rw [Nat.mod_mul_mod, Nat.mul_mod_mod, Nat.mul_assoc]
    _ = count % hashModulus := by rw [unit, Nat.mul_mod_mod, Nat.mul_one]

/-- What a finite number is filed under depends on its value alone, not on the sign of a zero. -/
theorem floatKey_finite (negative : Bool) (units : Nat) :
    floatKey (.finite negative units) =
      .number (numericKey (signed negative units < 0)
        ((signed negative units).natAbs % hashModulus * twoPow 24 % hashModulus)) := by
  rw [floatKey, natAbs_signed]
  -- Both zeros have the same key, and any other number has its sign in it.
  by_cases zero : units = 0
  · rw [zero, Nat.zero_mod, Nat.zero_mul, Nat.zero_mod, numericKey_zero, numericKey_zero]
  · have sign : decide (signed negative units < 0) = negative := by
      cases negative
      · simp [signed]
      · simp only [signed, if_true, decide_eq_true_eq]
        omega
    rw [sign]

/-- A finite number that is equal to an integer is filed under the key of that integer. -/
theorem floatKey_eq_integerKey {negative : Bool} {units : Nat} {value : Int}
    (same : signed negative units = value * twoPow unitExponent) :
    floatKey (.finite negative units) = .number (integerKey value) := by
  -- The units in one are taken out of the key again, and they do not change the sign.
  have positive : ∀ exponent, (0 : Int) < twoPow exponent :=
    fun exponent => Int.natCast_pos.mpr (Nat.two_pow_pos exponent)
  have sign : value * (twoPow unitExponent : Int) < 0 ↔ value < 0 := by
    have one := positive unitExponent
    rw [mul_neg_iff]
    omega
  rw [floatKey_finite, same, decide_eq_decide.mpr sign, Int.natAbs_mul, Int.natAbs_natCast,
    residue_units, integerKey]

/-- What a number is filed under. -/
def Number.key : Number → HashKey
  | .int value => .number (integerKey value)
  | .float value => floatKey value

/-- A value that counts as a number is filed under the key of that number. -/
theorem hashKey?_of_number? {json : Json} {number : Number} (counts : json.number? = some number) :
    json.hashKey? = some number.key := by
  -- Truth values and numbers are all that counts.
  match json with
  | bool true => cases counts; rfl
  | bool false => cases counts; rfl
  | int value => cases counts; rfl
  | float value => cases counts; rfl

/-- Two numbers are equal just if neither of them is above the other. -/
theorem Number.same_iff {left right : Number} :
    left.same right = true ↔ left.le right = true ∧ right.le left = true := by
  rw [Number.same, Bool.and_eq_true]

/-- Numbers that are equal are filed under the same key, whatever their kinds. -/
theorem Number.key_eq_of_matches {left right : Number} (same : left.matches right = true) :
    left.key = right.key := by
  match left, right with
  | .int first, .int second =>
    obtain ⟨le, ge⟩ := Number.same_iff.mp same
    simp only [Number.le, decide_eq_true_eq] at le ge
    rw [Int.le_antisymm le ge]
  | .int first, .float (.finite negative units) =>
    obtain ⟨le, ge⟩ := Number.same_iff.mp same
    simp only [Number.le, Binary64.intLe, Binary64.leInt, decide_eq_true_eq] at le ge
    exact (floatKey_eq_integerKey (Int.le_antisymm ge le)).symm
  | .float (.finite negative units), .int second =>
    obtain ⟨le, ge⟩ := Number.same_iff.mp same
    simp only [Number.le, Binary64.intLe, Binary64.leInt, decide_eq_true_eq] at le ge
    exact floatKey_eq_integerKey (Int.le_antisymm le ge)
  | .float (.finite negative units), .float (.finite other count) =>
    obtain ⟨le, ge⟩ := Number.same_iff.mp same
    simp only [Number.le, Binary64.le, decide_eq_true_eq] at le ge
    rw [Number.key, Number.key, floatKey_finite, floatKey_finite, Int.le_antisymm le ge]
  -- What is not finite is equal to nothing else.
  | .float .nan, .float .nan => rfl
  | .float (.infinity true), .float (.infinity true) => rfl
  | .float (.infinity false), .float (.infinity false) => rfl

/-- Equal values are filed under the same key, if they can be filed at all. -/
theorem hashKey?_eq_of_same (same : left.same right = true) : left.hashKey? = right.hashKey? := by
  rcases same_cases same with ⟨number, other, counts, otherCounts, same⟩ | ⟨rfl, rfl⟩ |
    ⟨text, rfl, rfl⟩ | ⟨lefts, rights, rfl, rfl, _⟩ | ⟨lefts, rights, rfl, rfl⟩
  · rw [hashKey?_of_number? counts, hashKey?_of_number? otherCounts,
      Number.key_eq_of_matches same]
  -- Equal texts are one text, and arrays and objects cannot be filed.
  all_goals rfl

end Numbers

section Texts

variable {layout : Layout} {texts : Text → Prop} {floats : Binary64 → Prop}

/-- Equal binary64 numbers with the same written form are the same: zeros differ in their sign. -/
theorem float_eq_of_matches {first second : Binary64}
    (same : (Number.float first).matches (.float second) = true)
    (written : NumberLayout.written.text first = NumberLayout.written.text second) :
    first = second := by
  -- The value alone is not enough, since there are two zeros.
  match first, second with
  | .nan, .nan => rfl
  | .infinity true, .infinity true => rfl
  | .infinity false, .infinity false => rfl
  | .finite negative units, .finite other count =>
    obtain ⟨le, ge⟩ := Number.same_iff.mp same
    simp only [Number.le, Binary64.le, decide_eq_true_eq] at le ge
    have value := Int.le_antisymm le ge
    cases negative <;> cases other <;> simp only [signed, if_true, Bool.false_eq_true, if_false]
      at value
    · rw [Int.ofNat_inj.mp value]
    · -- Two numbers of different signs are equal only as zeros.
      obtain ⟨rfl, rfl⟩ : units = 0 ∧ count = 0 := by omega
      exact absurd written (by decide)
    · obtain ⟨rfl, rfl⟩ : units = 0 ∧ count = 0 := by omega
      exact absurd written (by decide)
    · rw [Int.ofNat_inj.mp (Int.neg_inj.mp value)]

/-- Equal words and numbers are told apart by their written forms. -/
theorem cancels_of_same_plain (plain : left.mark? = none) (same : left.same right = true) :
    Cancels layout left.sorted right.sorted := by
  rcases same_cases same with ⟨number, other, counts, otherCounts, same⟩ | ⟨rfl, rfl⟩ |
    ⟨text, rfl, rfl⟩ | ⟨lefts, rights, rfl, rfl, _⟩ | ⟨lefts, rights, rfl, rfl⟩
  · have number_plain : ∀ {json : Json} {number : Number}, json.number? = some number →
        json.mark? = none ∧ json.sorted = json := by
      intro json number counts
      cases json <;> first | exact ⟨rfl, rfl⟩ | cases counts
    obtain ⟨otherPlain, otherSorted⟩ := number_plain otherCounts
    rw [(number_plain counts).2, otherSorted]
    refine cancels_of_plain plain otherPlain (eq_of_write_eq plain otherPlain ?_)
    rintro first second rfl rfl written
    -- Only binary64 numbers need more than their written form.
    cases counts
    cases otherCounts
    exact float_eq_of_matches same written
  · exact cancels_of_plain rfl rfl fun _ => rfl
  all_goals cases plain

/-- Equal documents are told apart by their written forms, with all fields in order. -/
theorem cancels_of_same (reads : layout.Reads texts) {names : Text → Prop}
    (proper : left.Proper names floats) (other : right.Proper names floats)
    (same : left.same right = true) : Cancels layout left.sorted right.sorted := by
  -- By induction on the first document. Equal strings are one string, and so are equal names, which
  -- stand in the same places when they are in order.
  induction proper generalizing right with
  | null => exact cancels_of_same_plain rfl same
  | bool value => exact cancels_of_same_plain rfl same
  | int value => exact cancels_of_same_plain rfl same
  | float allowed => exact cancels_of_same_plain rfl same
  | @str value allowed =>
    cases other with
    | @str text _ =>
      obtain rfl : value = text := by simpa [Json.same] using same
      exact cancels_str (.refl layout value)
    | _ => simp [Json.same, number?] at same
  | @arr lefts _ ih =>
    cases other with
    | @arr rights others =>
      rw [Json.same, sameElements_iff] at same
      rw [sorted, sorted, sortedElements_eq, sortedElements_eq]
      refine cancels_arr reads fun pair member => ?_
      rw [List.zip_map, List.mem_map] at member
      obtain ⟨⟨first, second⟩, member, rfl⟩ := member
      obtain ⟨among, otherwise⟩ := List.of_mem_zip member
      exact ih first among (others second otherwise) (same.2 _ member)
    | _ => simp [Json.same, number?] at same
  | @obj lefts distinct _ _ ih =>
    cases other with
    | @obj rights otherDistinct _ others =>
      obtain ⟨alike, values⟩ := same_obj distinct otherDistinct same
      rw [← names_sortedFields lefts, ← names_sortedFields rights] at alike
      have paired := names_sortFields_eq alike
      rw [sorted, sorted]
      refine cancels_obj reads ?_
      rintro ⟨⟨name, first⟩, ⟨other, second⟩⟩ member
      obtain rfl : name = other := Fields.name_eq_of_mem_zip paired member
      obtain ⟨among, otherwise⟩ := List.of_mem_zip member
      obtain ⟨left, given, rfl⟩ := mem_sortedFields.mp ((sortFields_perm _).subset among)
      obtain ⟨right, otherGiven, rfl⟩ :=
        mem_sortedFields.mp ((sortFields_perm _).subset otherwise)
      exact ⟨.refl layout name, ih (name, left) given (others _ otherGiven)
        (values name left right given otherGiven)⟩
    | _ => simp [Json.same, number?] at same

/-- Equal documents have one canonical text just if they differ in the order of fields alone, as
long as the first one has a text at all. -/
theorem canonicalText_eq_iff_of_same (proper : left.Proper texts floats)
    (other : right.Proper texts floats) (same : left.same right = true)
    (short : left.AllShort) :
    left.canonicalText = right.canonicalText ↔ left.Rearranged right := by
  have cancels := cancels_of_same asciiLayout_reads proper other same
  rw [← sorted_eq_iff proper other, canonicalText_eq_iff cancels short]

end Texts

end Json

end ConstrainedDecoding
