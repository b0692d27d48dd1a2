import ConstrainedDecoding.Live.Convert
import ConstrainedDecoding.Proofs.Json.Lawful
import ConstrainedDecoding.Proofs.Text.Integer

/-! Lawful documents as live values: their fields, their elements, and what integers they are. -/

namespace ConstrainedDecoding

/-- A power of two is the product of those for the parts of its exponent. -/
theorem twoPow_add (first second : Nat) :
    twoPow (first + second) = twoPow first * twoPow second :=
  Nat.pow_add 2 first second

/-- A count of units below a power of two has no more decimal places than binary ones. -/
theorem truncated_lt {units places : Nat} (bound : units < twoPow (unitExponent + places)) :
    units / twoPow unitExponent < 10 ^ places := by
  -- One is a power of two units, so that many binary places are dropped.
  rw [twoPow_add] at bound
  calc units / twoPow unitExponent < twoPow places := Nat.div_lt_of_lt_mul bound
    _ ≤ 10 ^ places := Nat.pow_le_pow_left (by decide) places

/-- The integer part of a number in the range of double precision is short. -/
theorem Binary64.isShort_truncated {negative : Bool} {units : Nat}
    (range : (finite negative units).InRange .double) :
    IsShort (signed negative (units / twoPow unitExponent)) := by
  obtain ⟨places, limit, few⟩ : ∃ places, BinaryFormat.double.limit = unitExponent + places ∧
      places ≤ Text.digitLimit := ⟨1024, rfl, by decide⟩
  have whole := truncated_lt (limit ▸ range negative units rfl)
  generalize units / twoPow unitExponent = count at whole ⊢
  -- The sign makes no difference to the digits.
  rw [isShort_iff, natAbs_signed]
  exact whole.trans_le (Nat.pow_le_pow_right (by decide) few)

namespace Json

variable {texts : Text → Prop} {json : Json}

/-- The integer that a lawful value stands for is short. -/
theorem toInt_short (lawful : json.Lawful texts (Binary64.InRange .double)) {value : Int}
    (read : json.live.toInt = .ok value) : IsShort value := by
  cases json with
  | null => cases read
  | bool flag =>
    cases read
    rw [isShort_iff]
    have small : (if flag then (1 : Int) else 0).natAbs ≤ 1 := by cases flag <;> decide
    exact small.trans_lt (Nat.one_lt_pow (by decide) (by decide))
  | int number =>
    cases read
    exact lawful
  | float number =>
    cases number with
    | nan => cases read
    | infinity negative => cases read
    | finite negative units =>
      cases read
      exact Binary64.isShort_truncated lawful
  | str text =>
    have read : Live.textInteger text = .ok value := read
    unfold Live.textInteger at read
    -- A text that is too long was refused before it was read.
    split at read
    · cases read
    · rename_i short found
      cases read
      exact isShort_iff.mpr (Text.integer?_natAbs_lt short found)
    · cases read
  | arr elements => cases read
  | obj fields => cases read

/-- The elements of an array as live values, one by one. -/
theorem liveElements_eq (elements : List Json) : liveElements elements = elements.map live := by
  induction elements with
  | nil => rfl
  | cons element rest ih => rw [liveElements, ih, List.map_cons]

/-- The fields of an object as live entries, one by one. -/
theorem liveFields_eq (fields : Fields Json) :
    liveFields fields = fields.map fun field => (.str field.1, field.2.live) := by
  induction fields with
  | nil => rfl
  | cons field rest ih => rw [liveFields, ih, List.map_cons]

/-- The entry of a live object is the live field of that name. -/
theorem entry?_liveFields (fields : Fields Json) (name : Text) :
    Live.entry? name (liveFields fields) = (fields.get? name).map live := by
  induction fields with
  | nil => rfl
  | cons field rest ih =>
    obtain ⟨other, value⟩ := field
    rw [liveFields, Live.entry?, Fields.get?, List.find?_cons]
    -- The first field decides if it has the name, and is passed over if not.
    by_cases same : other = name
    · simp [same]
    · rw [if_neg same, ih, beq_false_of_ne same]
      rfl

/-- What a live object holds under a name is the live field of that name, or null. -/
theorem get_live (fields : Fields Json) (name : Text) :
    (obj fields).live.get name = ((fields.get? name).getD .null).live := by
  show (Live.entry? name (liveFields fields)).getD .null = _
  rw [entry?_liveFields]
  cases fields.get? name <;> rfl

/-- No document can be called. -/
theorem live_ne_call (json : Json) (result : Live) : json.live ≠ .call result := by
  cases json <;> exact nofun

/-- A field of a lawful object is lawful. -/
theorem Lawful.get? {floats : Binary64 → Prop} {fields : Fields Json} {name : Text} {value : Json}
    (lawful : LawfulFields texts floats fields) (found : fields.get? name = some value) :
    value.Lawful texts floats := by
  obtain ⟨field, among, rfl⟩ := Option.map_eq_some_iff.mp found
  exact (lawfulFields_iff.mp lawful field (List.mem_of_find?_eq_some among)).2

/-- A field of a lawful document is lawful. One that is left out is null, which is as lawful as any
that is given. -/
theorem Lawful.field {floats : Binary64 → Prop} {fields : Fields Json}
    (lawful : (obj fields).Lawful texts floats) (name : Text) :
    ((fields.get? name).getD .null).Lawful texts floats := by
  cases given : fields.get? name with
  | none => trivial
  | some value => exact Json.Lawful.get? lawful.2 given

/-- The integer that a lawful value holds under a name is short. -/
theorem toInt_get_short (lawful : json.Lawful texts (Binary64.InRange .double)) {name : Text}
    {value : Int} (read : (json.live.get name).toInt = .ok value) : IsShort value := by
  cases json with
  | obj fields =>
    rw [get_live] at read
    exact toInt_short (lawful.field name) read
  | str text =>
    -- A text has nothing but functions among its attributes, and these are no integers.
    have held : (live (str text)).get name = .null ∨ (live (str text)).get name = .call .null := by
      show Option.getD (if _ then _ else _) _ = _ ∨ Option.getD (if _ then _ else _) _ = _
      split
      · exact .inr rfl
      · exact .inl rfl
    rcases held with held | held
    · rw [held] at read
      cases read
    · rw [held] at read
      cases read
  | _ => cases read

/-- What a lawful value gives one after the other are lawful values. -/
theorem Lawful.iterate {floats : Binary64 → Prop} (lawful : json.Lawful (fun _ => True) floats)
    {entries : List Live} (given : json.live.iterate = .ok entries) :
    ∀ entry ∈ entries, ∃ element : Json, element.Lawful (fun _ => True) floats ∧
      entry = element.live := by
  intro entry member
  -- A text gives its letters, an array its elements, and an object its names.
  cases json with
  | null => cases given
  | bool _ => cases given
  | int _ => cases given
  | float _ => cases given
  | str text =>
    cases given
    obtain ⟨letter, _, rfl⟩ := List.mem_map.mp member
    exact ⟨.str [letter], trivial, rfl⟩
  | arr elements =>
    cases given
    rw [liveElements_eq] at member
    obtain ⟨element, among, rfl⟩ := List.mem_map.mp member
    exact ⟨element, lawfulElements_iff.mp lawful element among, rfl⟩
  | obj fields =>
    cases given
    obtain ⟨field, among, rfl⟩ := List.mem_map.mp member
    rw [liveFields_eq] at among
    obtain ⟨field, _, rfl⟩ := List.mem_map.mp among
    exact ⟨.str field.1, trivial, rfl⟩

end Json

end ConstrainedDecoding
