import ConstrainedDecoding.Proofs.Json.Parts
import ConstrainedDecoding.Proofs.Outcomes

/-! What can be written down: the documents that texts spell. -/

namespace ConstrainedDecoding

namespace Fields

variable {α : Type}

/-- An entry under a new name comes last. -/
theorem put_of_new {name : Text} {value : α} {fields : Fields α} (new : name ∉ fields.names) :
    put name value fields = fields ++ [(name, value)] := by
  -- By induction: a new name is passed on to the end.
  induction fields with
  | nil => rfl
  | cons field rest ih =>
    obtain ⟨other, old⟩ := field
    simp only [names, List.map_cons, List.mem_cons, not_or] at new
    rw [put, if_neg fun same => new.1 same.symm, ih new.2, List.cons_append]

/-- Entries whose names are all different stay as they are given. -/
theorem ofList_of_nodup {given : Fields α} (distinct : given.names.Nodup) :
    ofList given = given := by
  -- Each entry is new among those that were given before it.
  have general : ∀ rest before : Fields α, (before ++ rest).names.Nodup →
      rest.foldl (fun fields field => put field.1 field.2 fields) before = before ++ rest := by
    intro rest
    induction rest with
    | nil =>
      intro before _
      rw [List.foldl_nil, List.append_nil]
    | cons field rest ih =>
      intro before distinct
      have split : (before ++ field :: rest).names = before.names ++ field.1 :: names rest := by
        simp [names]
      have new : field.1 ∉ before.names := by
        rw [split] at distinct
        exact fun among =>
          (List.nodup_append.mp distinct).2.2 _ among _ List.mem_cons_self rfl
      have moved : before ++ field :: rest = before ++ [field] ++ rest := by simp
      rw [List.foldl_cons, put_of_new new, ih _ (moved ▸ distinct), moved]
  exact general given [] distinct

/-- An entry that is put among others gives its name to a list only if it is new. -/
theorem names_put (name : Text) (value : α) (fields : Fields α) :
    (put name value fields).names =
      if name ∈ fields.names then fields.names else fields.names ++ [name] := by
  induction fields with
  | nil => rfl
  | cons field rest ih =>
    obtain ⟨other, old⟩ := field
    -- The names change only where the entry has passed all others.
    by_cases same : other = name
    · simp [put, names, same]
    · rw [put, if_neg same, names, List.map_cons, ← names, ih]
      have other' : name ≠ other := fun equal => same equal.symm
      by_cases among : name ∈ names rest <;> simp_all [names]

/-- Every entry after one was put is that one or an old one. -/
theorem mem_put {name : Text} {value : α} {fields : Fields α} {field : Text × α}
    (member : field ∈ put name value fields) : field = (name, value) ∨ field ∈ fields := by
  induction fields with
  | nil => exact .inl (List.mem_singleton.mp member)
  | cons first rest ih =>
    obtain ⟨other, old⟩ := first
    rw [put] at member
    split at member
    · -- The old entry has given way to the new one.
      rename_i same
      rcases List.mem_cons.mp member with rfl | later
      · exact .inl (by rw [same])
      · exact .inr (List.mem_cons_of_mem _ later)
    · rcases List.mem_cons.mp member with rfl | later
      · exact .inr List.mem_cons_self
      · exact (ih later).imp_right (List.mem_cons_of_mem _)

/-- Entries given one after the other have distinct names, and all of them were given. -/
theorem ofList_spec (given : Fields α) :
    (ofList given).names.Nodup ∧ ∀ field ∈ ofList given, field ∈ given := by
  -- Both facts hold of what was given so far.
  have general : ∀ rest before : Fields α, before.names.Nodup →
      let after := rest.foldl (fun fields field => put field.1 field.2 fields) before
      after.names.Nodup ∧ ∀ field ∈ after, field ∈ before ∨ field ∈ rest := by
    intro rest
    induction rest with
    | nil => exact fun before distinct => ⟨distinct, fun _ member => .inl member⟩
    | cons field rest ih =>
      intro before distinct
      have still : (put field.1 field.2 before).names.Nodup := by
        rw [names_put]
        split
        · exact distinct
        · rename_i new
          refine List.nodup_append.mpr ⟨distinct, by simp, ?_⟩
          intro name among other last same
          rw [same, List.mem_singleton.mp last] at among
          exact new among
      obtain ⟨nodup, members⟩ := ih (put field.1 field.2 before) still
      refine ⟨nodup, fun entry member => ?_⟩
      rcases members entry member with earlier | later
      · rcases mem_put earlier with rfl | old
        · exact .inr List.mem_cons_self
        · exact .inl old
      · exact .inr (List.mem_cons_of_mem _ later)
  obtain ⟨nodup, members⟩ := general given [] List.nodup_nil
  exact ⟨nodup, fun field member => (members field member).resolve_left List.not_mem_nil⟩

end Fields

namespace Binary64

/-- A finite number is below the first power of two that is out of a format's range. -/
def InRange (format : BinaryFormat) (value : Binary64) : Prop :=
  ∀ negative units, value = finite negative units → units < twoPow format.limit

/-- Zero is in any range. -/
theorem inRange_zero (format : BinaryFormat) (negative : Bool) :
    (finite negative 0).InRange format := by
  rintro _ _ ⟨⟩
  exact Nat.pow_pos (by decide)

/-- A power of two below the limit of a format is in its range. -/
theorem inRange_twoPow {format : BinaryFormat} {exponent : Nat} (small : exponent < format.limit)
    (negative : Bool) : (finite negative (twoPow exponent)).InRange format := by
  rintro _ _ ⟨⟩
  exact Nat.pow_lt_pow_right (by decide) small

/-- NaN is in any range. -/
theorem inRange_nan (format : BinaryFormat) : nan.InRange format := by
  rintro _ _ ⟨⟩

/-- An infinity is in any range. -/
theorem inRange_infinity (format : BinaryFormat) (negative : Bool) :
    (infinity negative).InRange format := by
  rintro _ _ ⟨⟩

/-- A number of a format is in its range: out of it there are the infinities. -/
theorem inRange_close (format : BinaryFormat) (negative : Bool) (numerator denominator : Nat) :
    (format.close negative numerator denominator).InRange format := by
  rw [BinaryFormat.close]
  -- Whatever reaches the limit has become an infinity.
  split
  · exact inRange_infinity format negative
  · rename_i inside
    rintro _ _ ⟨⟩
    exact Nat.lt_of_not_le inside

/-- The number nearest to a decimal one is in the range of double precision. -/
theorem inRange_ofDecimal (negative : Bool) (decimal : Decimal) :
    (ofDecimal negative decimal).InRange .double := by
  unfold ofDecimal
  -- A number is a zero, an infinity or rounded, and each of them is in range.
  split
  · exact inRange_zero .double negative
  · split
    · exact inRange_infinity .double negative
    · split
      · exact inRange_zero .double negative
      · exact inRange_close .double negative _ _

end Binary64

/-- A sign does not change how great an integer is. -/
theorem natAbs_signed (negative : Bool) (number : Nat) : (signed negative number).natAbs = number := by
  cases negative with
  | false => exact Int.natAbs_natCast number
  | true => exact (Int.natAbs_neg _).trans (Int.natAbs_natCast number)

/-- An integer is short just if it is below a power of ten. -/
theorem isShort_iff {value : Int} : IsShort value ↔ value.natAbs < 10 ^ Text.digitLimit :=
  decimalDigits_length_le (by decide)

/-- An integer of one digit is short. -/
theorem isShort_of_digit {value : Int} (digit : value.natAbs < 10) : IsShort value :=
  isShort_iff.mpr (digit.trans_le (Nat.le_self_pow (by decide) 10))

namespace Json

mutual

/-- What a text can denote: names are distinct in each object, and integers are not too long.

Its texts and its binary64 numbers are restricted further as the occasion demands. -/
def Lawful (texts : Text → Prop) (floats : Binary64 → Prop) : Json → Prop
  | int value => IsShort value
  | float value => floats value
  | str value => texts value
  | arr elements => LawfulElements texts floats elements
  | obj fields => (Fields.names fields).Nodup ∧ LawfulFields texts floats fields
  | _ => True

/-- All elements are lawful. -/
def LawfulElements (texts : Text → Prop) (floats : Binary64 → Prop) : List Json → Prop
  | [] => True
  | element :: rest => element.Lawful texts floats ∧ LawfulElements texts floats rest

/-- All fields have lawful names and values. -/
def LawfulFields (texts : Text → Prop) (floats : Binary64 → Prop) : List (Text × Json) → Prop
  | [] => True
  | (name, value) :: rest =>
    texts name ∧ value.Lawful texts floats ∧ LawfulFields texts floats rest

end

/-- Fields are lawful just if every one of them is. -/
theorem lawfulFields_iff {texts : Text → Prop} {floats : Binary64 → Prop} {fields : Fields Json} :
    LawfulFields texts floats fields ↔
      ∀ field ∈ fields, texts field.1 ∧ field.2.Lawful texts floats := by
  induction fields with
  | nil => simp [LawfulFields]
  | cons field rest ih => simp [LawfulFields, ih, and_assoc]

/-- Elements are lawful just if every one of them is. -/
theorem lawfulElements_iff {texts : Text → Prop} {floats : Binary64 → Prop} {elements : List Json} :
    LawfulElements texts floats elements ↔ ∀ element ∈ elements, element.Lawful texts floats := by
  induction elements with
  | nil => simp [LawfulElements]
  | cons element rest ih => simp [LawfulElements, ih]

/-- The whole part of a number consists of digits. -/
theorem isDigit_of_scanWhole? {text digits after : Text}
    (scanned : scanWhole? text = some (digits, after)) :
    ∀ letter ∈ digits, letter.isDigit = true := by
  unfold scanWhole? at scanned
  split at scanned
  · cases scanned
  · cases scanned
    simp [Letter.isDigit, Letter.number]
  · split at scanned
    · -- The first digit was looked at, and the others were taken as long as they are digits.
      rename_i isDigit
      cases scanned
      intro letter member
      rcases List.mem_cons.mp member with rfl | later
      · exact isDigit
      · exact List.mem_takeWhile_imp later
    · cases scanned

/-- A number that is read is an integer that is not too long, or a number in range. -/
theorem scanNumber_lawful {text rest : Text} {json : Json} {texts : Text → Prop}
    (read : scanNumber text = .ok (json, rest)) : json.Lawful texts (Binary64.InRange .double) := by
  obtain ⟨spelling, ⟨_, _, whole, _⟩, number⟩ := scanNumber_eq_ok_iff.mp read
  unfold Spelling.number at number
  split at number
  · unfold readInteger at number
    split at number
    · cases number
    · rename_i short
      cases number
      -- The integer needs no more digits than it was spelled with.
      have bound := digitsNumber_lt spelling.whole (isDigit_of_scanWhole? whole)
      rw [Lawful, isShort_iff, natAbs_signed]
      exact bound.trans_le (Nat.pow_le_pow_right (by decide) (by omega))
  · cases number
    exact Binary64.inRange_ofDecimal _ _

/-- A word or a number that is read is lawful. -/
theorem scanPlain_lawful {text rest : Text} {json : Json} {texts : Text → Prop}
    (read : scanPlain text = .ok (json, rest)) : json.Lawful texts (Binary64.InRange .double) := by
  rcases scanPlain_cases text with number | ⟨word, among, _, found, _⟩
  · exact scanNumber_lawful (number ▸ read)
  · -- Of the values that words stand for, only numbers could break a rule.
    obtain rfl := (Prod.mk.inj (Except.ok.inj (found.symm.trans read))).1
    simp only [words, List.mem_cons, List.not_mem_nil, or_false] at among
    rcases among with rfl | rfl | rfl | rfl | rfl | rfl
    · trivial
    · trivial
    · trivial
    · exact Binary64.inRange_nan .double
    · exact Binary64.inRange_infinity .double false
    · exact Binary64.inRange_infinity .double true

mutual

/-- A value that is read is lawful. -/
theorem scanValue_lawful : ∀ (fuel : Nat) {text rest : Text} {json : Json},
    scanValue fuel text = .ok (json, rest) → json.Lawful (fun _ => True) (Binary64.InRange .double)
  | 0, _, _, _, read => by cases read
  | fuel + 1, text, rest, json, read => by
    unfold scanValue at read
    split at read
    · obtain ⟨letters, _, done⟩ := bind_eq_ok_iff.mp read
      cases done
      trivial
    · split at read
      · cases read
        trivial
      · obtain ⟨elements, scanned, done⟩ := bind_eq_ok_iff.mp read
        cases done
        exact scanElements_lawful fuel scanned
    · split at read
      · cases read
        exact ⟨List.nodup_nil, trivial⟩
      · obtain ⟨fields, scanned, done⟩ := bind_eq_ok_iff.mp read
        cases done
        -- A name that is given twice keeps one of its values.
        obtain ⟨distinct, given⟩ := Fields.ofList_spec fields.1
        have lawful := lawfulFields_iff.mp (scanFields_lawful fuel scanned)
        exact ⟨distinct, lawfulFields_iff.mpr fun field member => lawful field (given field member)⟩
    · exact scanPlain_lawful read

/-- Elements that are read are lawful. -/
theorem scanElements_lawful : ∀ (fuel : Nat) {text rest : Text} {elements : List Json},
    scanElements fuel text = .ok (elements, rest) →
      LawfulElements (fun _ => True) (Binary64.InRange .double) elements
  | 0, _, _, _, read => by cases read
  | fuel + 1, text, rest, elements, read => by
    unfold scanElements at read
    obtain ⟨⟨first, after⟩, scanned, read⟩ := bind_eq_ok_iff.mp read
    have lawful := scanValue_lawful fuel scanned
    simp only at read
    -- The end of the array, a comma with more elements, or no array.
    split at read
    · cases read
      exact ⟨lawful, trivial⟩
    · obtain ⟨others, scanned, done⟩ := bind_eq_ok_iff.mp read
      cases done
      exact ⟨lawful, scanElements_lawful fuel scanned⟩
    · cases read

/-- Fields that are read are lawful. -/
theorem scanFields_lawful : ∀ (fuel : Nat) {text rest : Text} {fields : Fields Json},
    scanFields fuel text = .ok (fields, rest) →
      LawfulFields (fun _ => True) (Binary64.InRange .double) fields
  | 0, _, _, _, read => by cases read
  | fuel + 1, text, rest, fields, read => by
    unfold scanFields at read
    split at read
    · obtain ⟨⟨name, after⟩, _, read⟩ := bind_eq_ok_iff.mp read
      simp only at read
      split at read
      · obtain ⟨⟨value, after⟩, scanned, read⟩ := bind_eq_ok_iff.mp read
        have lawful := scanValue_lawful fuel scanned
        simp only at read
        -- The end of the object, a comma with more fields, or no object.
        split at read
        · cases read
          exact ⟨trivial, lawful, trivial⟩
        · obtain ⟨others, scanned, done⟩ := bind_eq_ok_iff.mp read
          cases done
          exact ⟨trivial, lawful, scanFields_lawful fuel scanned⟩
        · cases read
      · cases read
    · cases read

end

/-- A document that is read from letters is lawful. -/
theorem ofLetters_lawful {letters : Text} {json : Json} (read : ofLetters letters = .ok json) :
    json.Lawful (fun _ => True) (Binary64.InRange .double) := by
  obtain ⟨⟨value, rest⟩, scanned, done⟩ := bind_eq_ok_iff.mp (mapError_eq_ok_iff.mp read)
  -- Nothing but white space was left after the value.
  simp only at done
  split at done
  · cases done
    exact scanValue_lawful _ scanned
  · cases done

/-- A document that is read from a text is lawful. -/
theorem ofText_lawful {text : Text} {json : Json} (read : ofText text = .ok json) :
    json.Lawful (fun _ => True) (Binary64.InRange .double) := by
  unfold ofText at read
  -- A text with a byte order mark is not read at all.
  split at read
  · cases read
  · exact ofLetters_lawful read

end Json

end ConstrainedDecoding
