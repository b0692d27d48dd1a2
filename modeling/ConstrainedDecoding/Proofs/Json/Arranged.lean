import Mathlib.Data.List.Sort
import ConstrainedDecoding.Proofs.Json.Lawful

/-! Documents that differ in the order of fields alone, and the order that all fields are put in. -/

namespace ConstrainedDecoding

namespace Text

/-- Of two texts one comes first, or they are the same. -/
theorem le_total (left right : Text) : (left.le right || right.le left) = true := by
  induction left generalizing right with
  | nil => rfl
  | cons first lefts ih =>
    cases right with
    | nil => rfl
    | cons second rights =>
      -- The first letters decide, unless they are the same.
      have rest := ih rights
      simp only [le, Bool.or_eq_true, Bool.and_eq_true, decide_eq_true_eq] at rest ⊢
      rcases Nat.lt_trichotomy first.number second.number with less | same | greater
      · exact .inl (.inl less)
      · exact rest.imp (fun before => .inr ⟨same, before⟩) fun before => .inr ⟨same.symm, before⟩
      · exact .inr (.inl greater)

/-- A text that comes before a second one comes before all that follow the second. -/
theorem le_trans {first second third : Text} (before : first.le second = true)
    (after : second.le third = true) : first.le third = true := by
  induction first generalizing second third with
  | nil => rfl
  | cons letter rest ih =>
    cases second with
    | nil => cases before
    | cons other others =>
      cases third with
      | nil => cases after
      | cons last lasts =>
        have rest_le := @ih others lasts
        simp only [le, Bool.or_eq_true, Bool.and_eq_true, decide_eq_true_eq] at before after ⊢
        -- Only where all three begin alike do the letters after the first one count.
        rcases before with less | ⟨same, before⟩
        · left
          omega
        · rcases after with less | ⟨alike, after⟩
          · left
            omega
          · exact .inr ⟨same.trans alike, rest_le before after⟩

/-- Two texts that both come first are the same. -/
theorem le_antisymm {left right : Text} (before : left.le right = true)
    (after : right.le left = true) : left = right := by
  induction left generalizing right with
  | nil =>
    cases right with
    | nil => rfl
    | cons letter rest => cases after
  | cons first lefts ih =>
    cases right with
    | nil => cases before
    | cons second rights =>
      simp only [le, Bool.or_eq_true, Bool.and_eq_true, decide_eq_true_eq] at before after
      -- Neither letter is below the other one, so they are the same.
      rcases before with less | ⟨number, before⟩
      · omega
      · rcases after with less | ⟨_, after⟩
        · omega
        · have same : first = second := by
            rw [← first.ofNumber_number, number, second.ofNumber_number]
          rw [same, ih before after]

end Text

namespace Fields

variable {α : Type}

/-- Under distinct names there is one value for each name. -/
theorem eq_of_mem {fields : Fields α} (distinct : fields.names.Nodup) {name : Text}
    {first second : α} (one : (name, first) ∈ fields) (other : (name, second) ∈ fields) :
    first = second :=
  (Prod.mk.inj (List.inj_on_of_nodup_map distinct one other rfl)).2

/-- A name of entries stands before one of their values. -/
theorem exists_of_mem_names {fields : Fields α} {name : Text} (named : name ∈ fields.names) :
    ∃ value, (name, value) ∈ fields := by
  obtain ⟨⟨other, value⟩, among, rfl⟩ := List.mem_map.mp named
  exact ⟨value, among⟩

/-- Entries with distinct names are distinct. -/
theorem nodup {fields : Fields α} (distinct : fields.names.Nodup) : fields.Nodup :=
  List.Nodup.of_map _ distinct

/-- The entry found under a name stands among the others. -/
theorem mem_of_get? {fields : Fields α} {name : Text} {value : α}
    (found : fields.get? name = some value) : (name, value) ∈ fields := by
  obtain ⟨⟨other, _⟩, first, rfl⟩ := Option.map_eq_some_iff.mp found
  have same : other = name := by simpa using List.find?_some first
  exact same ▸ List.mem_of_find?_eq_some first

/-- Under distinct names every entry is found under its name. -/
theorem get?_of_mem {fields : Fields α} (distinct : fields.names.Nodup) {field : Text × α}
    (member : field ∈ fields) : fields.get? field.1 = some field.2 := by
  cases found : fields.get? field.1 with
  | some value => rw [eq_of_mem distinct member (mem_of_get? found)]
  | none =>
    -- The entry itself would have been found.
    have missing := List.find?_eq_none.mp (Option.map_eq_none_iff.mp found) field member
    exact absurd (beq_self_eq_true field.1) missing

end Fields

namespace Json

/-- A document as programs hold it, with integers of any size: names are distinct in each object.

Its texts and its binary64 numbers are restricted further as the occasion demands. -/
inductive Proper (texts : Text → Prop) (floats : Binary64 → Prop) : Json → Prop
  | null : Proper texts floats null
  | bool (value : Bool) : Proper texts floats (bool value)
  | int (value : Int) : Proper texts floats (int value)
  | float {value : Binary64} (allowed : floats value) : Proper texts floats (float value)
  | str {value : Text} (allowed : texts value) : Proper texts floats (str value)
  | arr {elements : List Json} (proper : ∀ element ∈ elements, Proper texts floats element) :
    Proper texts floats (arr elements)
  | obj {fields : Fields Json} (distinct : fields.names.Nodup)
    (named : ∀ field ∈ fields, texts field.1)
    (proper : ∀ field ∈ fields, Proper texts floats field.2) : Proper texts floats (obj fields)

/-- The same document up to the order of fields in each of its objects.

A number is the same as no number of another kind: an integer is neither a binary64 number nor a
truth value. -/
inductive Rearranged : Json → Json → Prop
  | same (json : Json) : Rearranged json json
  | arr {lefts rights : List Json} (length : lefts.length = rights.length)
    (parts : ∀ pair ∈ lefts.zip rights, Rearranged pair.1 pair.2) :
    Rearranged (arr lefts) (arr rights)
  | obj {lefts rights : Fields Json} (names : lefts.names.Perm rights.names)
    (parts : ∀ name left right, (name, left) ∈ lefts → (name, right) ∈ rights →
      Rearranged left right) :
    Rearranged (obj lefts) (obj rights)

/-- The values of a name are the same up to the order of fields if their objects are. -/
theorem Rearranged.value {lefts rights : Fields Json} {name : Text} {left right : Json}
    (rearranged : (Json.obj lefts).Rearranged (.obj rights)) (distinct : rights.names.Nodup)
    (among : (name, left) ∈ lefts) (other : (name, right) ∈ rights) : left.Rearranged right := by
  -- In the same object, the name stands for one value only.
  cases rearranged with
  | same =>
    rw [Fields.eq_of_mem distinct among other]
    exact .same right
  | obj names parts => exact parts name left right among other

/-- Integers are the same up to the order of fields only if they are the same. -/
theorem Rearranged.int_eq {first second : Int}
    (rearranged : (Json.int first).Rearranged (.int second)) : first = second := by
  cases rearranged with
  | same => rfl

/-- An object of two fields with different names is proper if their parts are. -/
theorem Proper.pair {texts : Text → Prop} {floats : Binary64 → Prop} {name other : Text}
    {left right : Json} (differ : name ≠ other) (allowed : texts name) (otherAllowed : texts other)
    (proper : left.Proper texts floats) (otherProper : right.Proper texts floats) :
    (Json.obj [(name, left), (other, right)]).Proper texts floats := by
  refine .obj ?_ ?_ ?_
  · simp [Fields.names, differ]
  · simp [allowed, otherAllowed]
  · simp [proper, otherProper]

/-- Two fields with different names may change places. -/
theorem Rearranged.pair {name other : Text} {left right leftValue rightValue : Json}
    (differ : name ≠ other) (first : left.Rearranged leftValue)
    (second : right.Rearranged rightValue) :
    (Json.obj [(name, left), (other, right)]).Rearranged
      (.obj [(other, rightValue), (name, leftValue)]) := by
  refine .obj (List.Perm.swap other name []) fun key one another among otherwise => ?_
  -- A name picks one field on either side.
  simp only [List.mem_cons, Prod.mk.injEq, List.not_mem_nil, or_false] at among otherwise
  rcases among with ⟨rfl, rfl⟩ | ⟨rfl, rfl⟩
  · rcases otherwise with ⟨same, rfl⟩ | ⟨_, rfl⟩
    · exact absurd same differ
    · exact first
  · rcases otherwise with ⟨_, rfl⟩ | ⟨same, rfl⟩
    · exact second
    · exact absurd same.symm differ

/-- The elements of an array are put in order one by one. -/
theorem sortedElements_eq (elements : List Json) :
    sortedElements elements = elements.map sorted := by
  induction elements with
  | nil => rfl
  | cons element rest ih => rw [sortedElements, ih, List.map_cons]

/-- Arrays are the same in order just if their elements are, one by one. -/
theorem sortedElements_eq_iff {lefts rights : List Json} :
    sortedElements lefts = sortedElements rights ↔
      lefts.length = rights.length ∧ ∀ pair ∈ lefts.zip rights, pair.1.sorted = pair.2.sorted := by
  rw [sortedElements_eq, sortedElements_eq, ← List.forall₂_eq_eq_eq, List.forall₂_map_left_iff,
    List.forall₂_map_right_iff, List.forall₂_iff_zip]
  simp only [Prod.forall]

/-- The values of fields are put in order one by one. -/
theorem sortedFields_eq (fields : Fields Json) :
    sortedFields fields = fields.map fun field => (field.1, field.2.sorted) := by
  induction fields with
  | nil => rfl
  | cons field rest ih => rw [sortedFields, ih, List.map_cons]

/-- The names of fields stay when their values are put in order. -/
theorem names_sortedFields (fields : Fields Json) :
    Fields.names (sortedFields fields) = fields.names := by
  rw [sortedFields_eq, Fields.names, List.map_map]
  rfl

/-- The fields with values in order are the given ones. -/
theorem mem_sortedFields {fields : Fields Json} {name : Text} {value : Json} :
    (name, value) ∈ sortedFields fields ↔
      ∃ given, (name, given) ∈ fields ∧ given.sorted = value := by
  simp only [sortedFields_eq, List.mem_map, Prod.mk.injEq]
  -- Each field keeps its name, and only its value is sorted.
  constructor
  · rintro ⟨⟨_, given⟩, among, rfl, same⟩
    exact ⟨given, among, same⟩
  · rintro ⟨given, among, same⟩
    exact ⟨(name, given), among, rfl, same⟩

/-- Sorting fields leaves none of them out. -/
theorem sortFields_perm (fields : Fields Json) : (sortFields fields).Perm fields :=
  List.mergeSort_perm fields _

/-- Sorted fields stand in the order of their names. -/
theorem sortFields_ordered (fields : Fields Json) :
    (sortFields fields).Pairwise fun left right => left.1.le right.1 = true :=
  @List.pairwise_mergeSort _ (fun left right => left.1.le right.1) (fun _ _ _ => Text.le_trans)
    (fun left right => Text.le_total left.1 right.1) fields

/-- The names of sorted fields do not depend on the order in which they were given. -/
theorem names_sortFields_eq {lefts rights : Fields Json} (names : lefts.names.Perm rights.names) :
    (sortFields lefts).names = (sortFields rights).names := by
  have ordered : ∀ fields : Fields Json,
      (sortFields fields).names.Pairwise fun left right => left.le right = true :=
    fun fields => List.pairwise_map.mpr (sortFields_ordered fields)
  refine List.Perm.eq_of_pairwise (fun _ _ _ _ => Text.le_antisymm) (ordered lefts)
    (ordered rights) ?_
  -- Both are the given names in another order.
  exact ((sortFields_perm lefts).map _).trans (names.trans ((sortFields_perm rights).map _).symm)

/-- Fields with distinct names are sorted alike in whatever order they are given. -/
theorem sortFields_eq_of_perm {lefts rights : Fields Json} (distinct : lefts.names.Nodup)
    (same : lefts.Perm rights) : sortFields lefts = sortFields rights := by
  -- Both hold the same fields, and there is only one order to hold them in.
  have moved : (sortFields lefts).Perm (sortFields rights) :=
    (sortFields_perm lefts).trans (same.trans (sortFields_perm rights).symm)
  refine List.Perm.eq_of_pairwise ?_ (sortFields_ordered lefts) (sortFields_ordered rights) moved
  -- Two fields that are in order both ways have one name, so they are one field.
  rintro ⟨name, left⟩ ⟨other, right⟩ among others before after
  obtain rfl := Text.le_antisymm before after
  have member : (name, right) ∈ sortFields lefts := moved.symm.subset others
  rw [Fields.eq_of_mem distinct ((sortFields_perm lefts).subset among)
    ((sortFields_perm lefts).subset member)]

/-- Fields under the same names with the same values in order are sorted alike. -/
theorem sortFields_sortedFields_eq {lefts rights : Fields Json} (distinct : lefts.names.Nodup)
    (names : lefts.names.Perm rights.names)
    (values : ∀ name left right, (name, left) ∈ lefts → (name, right) ∈ rights →
      left.sorted = right.sorted) :
    sortFields (sortedFields lefts) = sortFields (sortedFields rights) := by
  have leftDistinct : (Fields.names (sortedFields lefts)).Nodup := by rwa [names_sortedFields]
  have rightDistinct : (Fields.names (sortedFields rights)).Nodup := by
    rw [names_sortedFields]
    exact names.nodup_iff.mp distinct
  refine sortFields_eq_of_perm leftDistinct ?_
  rw [List.perm_ext_iff_of_nodup (Fields.nodup leftDistinct) (Fields.nodup rightDistinct)]
  -- A name of the one side has a value on the other one too, and the values are the same in order.
  rintro ⟨name, value⟩
  rw [mem_sortedFields, mem_sortedFields]
  constructor
  · rintro ⟨left, among, rfl⟩
    have named : name ∈ rights.names := names.subset (List.mem_map_of_mem among)
    obtain ⟨right, other⟩ := Fields.exists_of_mem_names named
    exact ⟨right, other, (values name left right among other).symm⟩
  · rintro ⟨right, among, rfl⟩
    have named : name ∈ lefts.names := names.symm.subset (List.mem_map_of_mem among)
    obtain ⟨left, other⟩ := Fields.exists_of_mem_names named
    exact ⟨left, other, values name left right other among⟩

variable {texts : Text → Prop} {floats : Binary64 → Prop} {left right : Json}

/-- Documents that differ in the order of fields alone are the same with all fields in order. -/
theorem Rearranged.sorted_eq (rearranged : left.Rearranged right)
    (proper : left.Proper texts floats) : left.sorted = right.sorted := by
  -- By induction on the rearrangement. The names on the right are distinct too, being the same.
  induction rearranged with
  | same json => rfl
  | @arr lefts rights length parts ih =>
    cases proper with
    | arr proper =>
      rw [sorted, sorted, arr.injEq, sortedElements_eq_iff]
      exact ⟨length, fun pair member => ih pair member (proper _ (List.of_mem_zip member).1)⟩
  | obj names parts ih =>
    cases proper with
    | obj distinct named proper =>
      simp only [sorted, obj.injEq]
      exact sortFields_sortedFields_eq distinct names fun name left right among other =>
        ih name left right among other (proper _ among)

/-- Documents that are the same with all fields in order differ in the order of fields alone. -/
theorem Proper.rearranged (proper : left.Proper texts floats)
    (other : right.Proper texts floats) (same : left.sorted = right.sorted) :
    left.Rearranged right := by
  -- By induction on the first document, whatever the second one is.
  induction proper generalizing right with
  | null => cases other <;> cases same; exact .same _
  | bool _ => cases other <;> cases same; exact .same _
  | int _ => cases other <;> cases same; exact .same _
  | float _ => cases other <;> cases same; exact .same _
  | str _ => cases other <;> cases same; exact .same _
  | @arr lefts proper ih =>
    cases other with
    | @arr rights others =>
      obtain ⟨length, parts⟩ := sortedElements_eq_iff.mp (arr.inj same)
      refine .arr length fun pair member => ?_
      obtain ⟨among, otherwise⟩ := List.of_mem_zip member
      exact ih _ among (others _ otherwise) (parts pair member)
    | _ => cases same
  | @obj lefts distinct named proper ih =>
    cases other with
    | @obj rights otherDistinct otherNamed others =>
      simp only [sorted, obj.injEq] at same
      -- The sorted fields are those of both sides.
      have fields : (sortedFields lefts).Perm (sortedFields rights) :=
        (sortFields_perm _).symm.trans (same ▸ sortFields_perm _)
      have names : lefts.names.Perm rights.names := by
        rw [← names_sortedFields lefts, ← names_sortedFields rights]
        exact fields.map _
      refine .obj names fun name left right among otherwise => ?_
      refine ih (name, left) among (others _ otherwise) ?_
      have member : (name, left.sorted) ∈ sortedFields rights :=
        fields.subset (mem_sortedFields.mpr ⟨left, among, rfl⟩)
      obtain ⟨value, member, alike⟩ := mem_sortedFields.mp member
      rw [← alike, Fields.eq_of_mem otherDistinct member otherwise]
    | _ => cases same

/-- Putting all fields in order forgets nothing but the order in which they were given. -/
theorem sorted_eq_iff (proper : left.Proper texts floats) (other : right.Proper texts floats) :
    left.sorted = right.sorted ↔ left.Rearranged right :=
  ⟨proper.rearranged other, fun rearranged => rearranged.sorted_eq proper⟩

/-- A proper document is proper with all fields in order. -/
theorem Proper.sorted (proper : left.Proper texts floats) : left.sorted.Proper texts floats := by
  induction proper with
  | null => exact .null
  | bool value => exact .bool value
  | int value => exact .int value
  | float allowed => exact .float allowed
  | str allowed => exact .str allowed
  | arr _ ih =>
    refine .arr fun element member => ?_
    rw [sortedElements_eq] at member
    obtain ⟨given, among, rfl⟩ := List.mem_map.mp member
    exact ih given among
  | @obj fields distinct named _ ih =>
    -- The fields are the given ones, each with its value in order.
    have perm := sortFields_perm (sortedFields fields)
    refine .obj ?_ ?_ ?_
    · rw [Fields.names, (perm.map _).nodup_iff, ← Fields.names, names_sortedFields]
      exact distinct
    · rintro ⟨name, value⟩ member
      obtain ⟨given, among, _⟩ := mem_sortedFields.mp (perm.subset member)
      exact named (name, given) among
    · rintro ⟨name, value⟩ member
      obtain ⟨given, among, rfl⟩ := mem_sortedFields.mp (perm.subset member)
      exact ih (name, given) among

end Json

end ConstrainedDecoding
