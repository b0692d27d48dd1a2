import ConstrainedDecoding.Proofs.Json.Unique

/-! Which documents have a written form: those whose integers are all short. -/

namespace ConstrainedDecoding.Json

variable {layout : Layout} {texts : Text → Prop} {floats : Binary64 → Prop} {json left right : Json}
  {written : Text} {value : Int}

/-- The integers in elements are those of each of them. -/
theorem mem_elementIntegers {elements : List Json} :
    value ∈ elementIntegers elements ↔ ∃ element ∈ elements, value ∈ element.integers := by
  induction elements with
  | nil => simp [elementIntegers]
  | cons element rest ih => simp [elementIntegers, ih]

/-- The integers in fields are those of each of their values. -/
theorem mem_fieldIntegers {fields : Fields Json} :
    value ∈ fieldIntegers fields ↔ ∃ field ∈ fields, value ∈ field.2.integers := by
  induction fields with
  | nil => simp [fieldIntegers]
  | cons field rest ih => simp [fieldIntegers, ih]

mutual

/-- A document holds the same integers with all fields in order. -/
theorem mem_integers_sorted : ∀ json : Json, value ∈ json.sorted.integers ↔ value ∈ json.integers
  | null | bool _ | int _ | float _ | str _ => Iff.rfl
  | arr elements => by
    rw [sorted, integers, integers, mem_elementIntegers_sorted elements]
  | obj fields => by
    -- Sorting moves the fields, and each of them holds what it did.
    rw [sorted, integers, integers, ← mem_fieldIntegers_sorted fields, mem_fieldIntegers,
      mem_fieldIntegers]
    simp only [(sortFields_perm _).mem_iff]

/-- Elements hold the same integers with all fields in order. -/
theorem mem_elementIntegers_sorted : ∀ elements : List Json,
    value ∈ elementIntegers (sortedElements elements) ↔ value ∈ elementIntegers elements
  | [] => by rw [sortedElements]
  | element :: rest => by
    simp only [sortedElements, elementIntegers, List.mem_append, mem_integers_sorted element,
      mem_elementIntegers_sorted rest]

/-- Fields hold the same integers with all fields inside them in order. -/
theorem mem_fieldIntegers_sorted : ∀ fields : List (Text × Json),
    value ∈ fieldIntegers (sortedFields fields) ↔ value ∈ fieldIntegers fields
  | [] => by rw [sortedFields]
  | (_, inner) :: rest => by
    simp only [sortedFields, fieldIntegers, List.mem_append, mem_integers_sorted inner,
      mem_fieldIntegers_sorted rest]

end

mutual

/-- What a text can denote holds short integers only. -/
theorem Lawful.short : ∀ {json : Json}, json.Lawful texts floats → json.AllShort
  | null, _, _, among | bool _, _, _, among | float _, _, _, among | str _, _, _, among => by
    cases among
  | int _, lawful, _, among => List.mem_singleton.mp among ▸ lawful
  | arr _, lawful, value, among => LawfulElements.short lawful value among
  | obj _, lawful, value, among => LawfulFields.short lawful.2 value among

/-- Lawful elements hold short integers only. -/
theorem LawfulElements.short : ∀ {elements : List Json}, LawfulElements texts floats elements →
    ∀ value ∈ elementIntegers elements, IsShort value
  | [], _, _, among => by cases among
  | _ :: _, lawful, value, among => (List.mem_append.mp among).elim
      (Lawful.short lawful.1 value) (LawfulElements.short lawful.2 value)

/-- Lawful fields hold short integers only. -/
theorem LawfulFields.short : ∀ {fields : List (Text × Json)}, LawfulFields texts floats fields →
    ∀ value ∈ fieldIntegers fields, IsShort value
  | [], _, _, among => by cases among
  | (_, _) :: _, lawful, value, among => (List.mem_append.mp among).elim
      (Lawful.short lawful.2.1 value) (LawfulFields.short lawful.2.2 value)

end

/-- A proper document with short integers is one that a text can denote. -/
theorem Proper.lawful (proper : json.Proper texts floats)
    (short : json.AllShort) : json.Lawful texts floats := by
  -- The integers of a part are among those of the whole.
  induction proper with
  | null => trivial
  | bool _ => trivial
  | int value => exact short value (List.mem_singleton.mpr rfl)
  | float allowed => exact allowed
  | str allowed => exact allowed
  | arr _ ih =>
    refine lawfulElements_iff.mpr fun element member => ih element member fun value among => ?_
    exact short value (mem_elementIntegers.mpr ⟨element, member, among⟩)
  | obj distinct named _ ih =>
    refine ⟨distinct, lawfulFields_iff.mpr fun field member => ⟨named field member, ?_⟩⟩
    exact ih field member fun value among =>
      short value (mem_fieldIntegers.mpr ⟨field, member, among⟩)

/-- A document has a written form just if all its integers are short. -/
theorem render_eq_ok_iff :
    render layout json = .ok written ↔ json.AllShort ∧ write layout json = written := by
  -- The integers are looked at before anything is written.
  by_cases short : json.AllShort
  · rw [render, if_pos short, Except.ok.injEq, and_iff_right short]
  · rw [render, if_neg short]
    exact ⟨nofun, fun found => absurd found.1 short⟩

/-- A document with a long integer has no written form. -/
theorem render_of_long (long : ¬json.AllShort) :
    render layout json = .error (.invalid .longInteger) :=
  if_neg long

/-- The text of a lawful document is its written form. -/
theorem Lawful.text (lawful : json.Lawful texts floats) :
    json.text = .ok (write plainLayout json) :=
  render_eq_ok_iff.mpr ⟨lawful.short, rfl⟩

/-- The integers of a document are all short just if they are with all fields in order. -/
theorem allShort_sorted : json.sorted.AllShort ↔ json.AllShort := by
  simp only [AllShort, mem_integers_sorted]

/-- A document has a canonical text just if all its integers are short. -/
theorem canonicalText_eq_ok_iff : json.canonicalText = .ok written ↔
    json.AllShort ∧ write asciiLayout json.sorted = written := by
  rw [canonicalText, render_eq_ok_iff, allShort_sorted]

/-- A document with a long integer has no canonical text. -/
theorem canonicalText_of_long (long : ¬json.AllShort) :
    json.canonicalText = .error (.invalid .longInteger) :=
  render_of_long (mt allShort_sorted.mp long)

/-- Where written forms tell documents apart, a canonical text is that of one sorted document. -/
theorem canonicalText_eq_iff (cancels : Cancels asciiLayout left.sorted right.sorted)
    (short : left.AllShort) :
    left.canonicalText = right.canonicalText ↔ left.sorted = right.sorted := by
  constructor
  · intro same
    -- The first document has a text, so the second one has the same text.
    rw [canonicalText_eq_ok_iff.mpr ⟨short, rfl⟩] at same
    exact cancels.eq (canonicalText_eq_ok_iff.mp same.symm).2.symm
  · intro same
    rw [canonicalText, canonicalText, same]

/-- What is read of a text holds short integers only. -/
theorem ofText_allShort {text : Text} (read : ofText text = .ok json) : json.AllShort :=
  (ofText_lawful read).short

end ConstrainedDecoding.Json
