import ConstrainedDecoding.Grammar.Interchange
import ConstrainedDecoding.Proofs.Json.Ascii
import ConstrainedDecoding.Proofs.Json.Rendered

/-! The text of a schema is a canonical form: it leaves out the order of fields and nothing else. -/

namespace ConstrainedDecoding

/-- Numbers that read back from their written forms are the same if these are. -/
theorem Binary64.ReadsBack.eq_of_written {first second : Binary64} (read : first.ReadsBack)
    (other : second.ReadsBack)
    (same : NumberLayout.written.text first = NumberLayout.written.text second) :
    first = second := by
  -- One text is read as both numbers.
  unfold ReadsBack at read other
  rw [same, other] at read
  exact (Json.float.inj (Prod.mk.inj (Except.ok.inj read)).1).symm

namespace Grammar

/-- A schema has an engine text just if it has a canonical text, and it is that text. -/
theorem engineText_schema_eq_ok_iff {schema : Fields Json} {text : Json} :
    (jsonSchema schema).engineText = .ok text ↔
      ∃ canonical, (Json.obj schema).canonicalText = .ok canonical ∧ .str canonical = text := by
  simp only [engineText, bind_eq_ok_iff, Pure.pure, Except.pure, Except.ok.injEq]

/-- Engines are given the same for two schemas just if these have the same canonical text, or none. -/
theorem engineText_schema_eq_iff {left right : Fields Json} :
    (jsonSchema left).engineText = (jsonSchema right).engineText ↔
      (Json.obj left).canonicalText = (Json.obj right).canonicalText := by
  simp only [engineText]
  -- Neither a text nor a fault is lost on the way.
  cases (Json.obj left).canonicalText <;> cases (Json.obj right).canonicalText <;>
    simp [Bind.bind, Except.bind, Pure.pure, Except.pure]

/-- Two schemas have the same text just if they are the same up to the order of fields, as long as
no integer of the first one has more digits than one may be written with. If one has, there is no
text.

Objects, arrays and values of all kinds may be nested to any depth. An integer, the binary64 number
of its value and a truth value are three different values. Strings are texts of any characters, and
even of surrogates, as long as no two of them make up a character: such a pair has the text of its
character. Of binary64 numbers no more is assumed than that those of the two schemas are written
differently if they are different. -/
theorem schemaText_eq_iff {floats : Binary64 → Prop}
    (unique : ∀ first second, floats first → floats second →
      NumberLayout.written.text first = NumberLayout.written.text second → first = second)
    {left right : Fields Json} (proper : (Json.obj left).Proper Text.IsWhole floats)
    (other : (Json.obj right).Proper Text.IsWhole floats) :
    ((Json.obj left).AllShort →
      (∃ text, (jsonSchema left).engineText = .ok (.str text)) ∧
      ((jsonSchema left).engineText = (jsonSchema right).engineText ↔
        (Json.obj left).Rearranged (.obj right))) ∧
    (¬(Json.obj left).AllShort →
      (jsonSchema left).engineText = .error (.invalid .longInteger)) := by
  refine ⟨fun short => ⟨?_, ?_⟩, fun long => ?_⟩
  · have canonical := Json.canonicalText_eq_ok_iff.mpr ⟨short, rfl⟩
    exact ⟨_, engineText_schema_eq_ok_iff.mpr ⟨_, canonical, rfl⟩⟩
  · -- A written document is told apart from any other one, and so is a sorted one.
    have cancels := proper.sorted.cancels Json.asciiLayout_reads unique other.sorted
    rw [engineText_schema_eq_iff, Json.canonicalText_eq_iff cancels short,
      Json.sorted_eq_iff proper other]
  · rw [engineText, Json.canonicalText_of_long long]
    rfl

/-- A document that holds a schema is the object of it. -/
theorem eq_of_ofSchema {json : Json} {schema : Fields Json}
    (held : ofSchema json = .ok (jsonSchema schema)) : json = .obj schema := by
  cases json with
  | obj fields =>
    cases held
    rfl
  | null | bool | int | float | str | arr => cases held

/-- A field that was required stands in the document. -/
theorem mem_of_requiredField {fields : Fields Json} {name : Text} {value : Json}
    (found : requiredField fields name = .ok value) : (name, value) ∈ fields := by
  unfold requiredField at found
  -- Without the field there would be a fault.
  split at found
  · rename_i held
    cases found
    exact Fields.mem_of_get? held
  · cases found

/-- The schema that a tagged document holds is a field of it. -/
theorem mem_of_ofJson {document : Json} {schema : Fields Json}
    (held : ofJson document = .ok (jsonSchema schema)) :
    ∃ fields, document = .obj fields ∧ (("schema" : Text), Json.obj schema) ∈ fields := by
  cases document with
  | obj fields =>
    rw [ofJson] at held
    split_ifs at held
    · obtain ⟨inner, found, held⟩ := bind_eq_ok_iff.mp held
      obtain rfl := eq_of_ofSchema held
      exact ⟨fields, rfl, mem_of_requiredField found⟩
    -- Documents of the two other kinds hold no schema.
    all_goals
      obtain ⟨_, _, held⟩ := bind_eq_ok_iff.mp held
      cases held
  | null | bool | int | float | str | arr => cases held

/-- A schema whose text is read has short integers only. -/
theorem allShort_of_ofSource {text : Text} {schema : Fields Json}
    (held : ofSource (.str text) (.str "json_schema") = .ok (jsonSchema schema)) :
    (Json.obj schema).AllShort := by
  -- The kind is that of a schema, so the text is read as a document.
  have read : ofSchemaText (.str text) = .ok (jsonSchema schema) := held
  obtain ⟨json, read, held⟩ := bind_eq_ok_iff.mp read
  exact eq_of_ofSchema held ▸ Json.ofText_allShort (mapError_eq_ok_iff.mp read)

/-- The binary64 number one. -/
def one : Binary64 :=
  .finite false (twoPow unitExponent)

/-- One is written as it is read. -/
theorem one_readsBack : one.ReadsBack := by
  have spelled : NumberLayout.written.text one = ['1', '.', '0'] := by decide +kernel
  have value : Binary64.ofDecimal false ⟨10, -1⟩ = one := by decide +kernel
  -- Both printing the number and reading its digits are evaluated.
  unfold Binary64.ReadsBack
  rw [spelled, ← value]
  rfl

/-- A schema with names beyond ASCII that holds a value two levels down. -/
def sampleSchema (value : Json) : Fields Json :=
  [("type", .str "object"), ("const", .obj [("é", value), ("😀", .null)])]

/-- The sample schema with the fields of both objects in the other order. -/
def sampleTurned (value : Json) : Fields Json :=
  [("const", .obj [("😀", .null), ("é", value)]), ("type", .str "object")]

/-- The sample schemas are proper if their value is. -/
theorem sample_proper {value : Json} (proper : value.Proper Text.IsWhole Binary64.ReadsBack) :
    (Json.obj (sampleSchema value)).Proper Text.IsWhole Binary64.ReadsBack ∧
      (Json.obj (sampleTurned value)).Proper Text.IsWhole Binary64.ReadsBack := by
  have whole : ∀ string : String, Text.IsWhole (string : Text) :=
    fun string => Text.isWhole_ofChars string.toList
  have object : (Json.str "object").Proper Text.IsWhole Binary64.ReadsBack := .str (whole _)
  -- Both objects have two names each, and these are told apart by evaluation.
  constructor
  · exact .pair (by decide) (whole _) (whole _) object
      (.pair (by decide) (whole _) (whole _) proper .null)
  · exact .pair (by decide) (whole _) (whole _)
      (.pair (by decide) (whole _) (whole _) .null proper) object

/-- The sample is told apart by its value. -/
theorem sample_value {left right : Json}
    (rearranged : (Json.obj (sampleSchema left)).Rearranged (.obj (sampleSchema right))) :
    left.Rearranged right := by
  have outer : (sampleSchema right).names.Nodup := show [("type" : Text), "const"].Nodup by decide
  -- The value stands under a name of the inner object, and that under a name of the outer one.
  have within := rearranged.value outer (List.mem_cons_of_mem _ List.mem_cons_self)
    (List.mem_cons_of_mem _ List.mem_cons_self)
  exact within.value (show [("é" : Text), "😀"].Nodup by decide) List.mem_cons_self
    List.mem_cons_self

/-- The two forms of the sample have one text, and one has another text in it than 1.0. -/
theorem schemaText_sample :
    (jsonSchema (sampleSchema (.float one))).engineText =
        (jsonSchema (sampleTurned (.float one))).engineText ∧
      ∀ other ∈ [Json.int 1, .bool true],
        (jsonSchema (sampleSchema (.float one))).engineText ≠
          (jsonSchema (sampleSchema other)).engineText := by
  have unique : ∀ first second : Binary64, first.ReadsBack → second.ReadsBack →
      NumberLayout.written.text first = NumberLayout.written.text second → first = second :=
    fun _ _ => Binary64.ReadsBack.eq_of_written
  have proper := sample_proper (Json.Proper.float one_readsBack)
  have turned : (Json.obj (sampleSchema (.float one))).Rearranged
      (.obj (sampleTurned (.float one))) :=
    .pair (by decide) (.same _) (.pair (by decide) (.same _) (.same _))
  have short : (Json.obj (sampleSchema (.float one))).AllShort := by decide
  refine ⟨((schemaText_eq_iff unique proper.1 proper.2).1 short).2.mpr turned, ?_⟩
  -- A value of another kind would have to be the same as 1.0.
  intro other among same
  simp only [List.mem_cons, List.not_mem_nil, or_false] at among
  rcases among with rfl | rfl
  · have otherProper := (sample_proper (.int 1)).1
    cases sample_value (((schemaText_eq_iff unique proper.1 otherProper).1 short).2.mp same)
  · have otherProper := (sample_proper (.bool true)).1
    cases sample_value (((schemaText_eq_iff unique proper.1 otherProper).1 short).2.mp same)

/-- The schema of an integer of 4301 digits, or of its negative. -/
def longSchema (negative : Bool) : Fields Json :=
  [("const", .int (signed negative (10 ^ Text.digitLimit)))]

/-- The integer of such a schema is too long. -/
theorem longSchema_not_short (negative : Bool) : ¬(Json.obj (longSchema negative)).AllShort := by
  intro short
  have within : IsShort (signed negative (10 ^ Text.digitLimit)) := short _ List.mem_cons_self
  -- The limit is the least number with too many digits, whatever its sign.
  rw [isShort_iff, natAbs_signed] at within
  exact Nat.lt_irrefl _ within

/-- But for the integer, there is nothing in such a schema that a text could not denote. -/
theorem longSchema_proper (negative : Bool) {texts : Text → Prop} {floats : Binary64 → Prop}
    (name : texts ("const" : Text)) : (Json.obj (longSchema negative)).Proper texts floats := by
  refine .obj (List.nodup_singleton _) ?_ ?_
  -- The name and the integer are those of its single field.
  · simpa only [longSchema, List.forall_mem_singleton] using name
  · simp only [longSchema, List.forall_mem_singleton]
    exact .int _

/-- Neither of two schemas with long integers has a text, though they are not the same. Nor is there
a text that is read as one of them. -/
theorem long_schemas_without_text :
    (∀ negative, (Json.obj (longSchema negative)).Proper Text.IsWhole Binary64.ReadsBack ∧
      (jsonSchema (longSchema negative)).engineText = .error (.invalid .longInteger) ∧
      ∀ text, ofSource (.str text) (.str "json_schema") ≠
        .ok (jsonSchema (longSchema negative))) ∧
    ¬(Json.obj (longSchema false)).Rearranged (.obj (longSchema true)) := by
  constructor
  · intro negative
    refine ⟨longSchema_proper negative (Text.isWhole_ofChars _), ?_, fun text held => ?_⟩
    · rw [engineText, Json.canonicalText_of_long (longSchema_not_short negative)]
      rfl
    · exact longSchema_not_short negative (allShort_of_ofSource held)
  · -- The two integers would have to be the same.
    intro rearranged
    have alike := rearranged.value (List.nodup_singleton _) List.mem_cons_self List.mem_cons_self
    have same := alike.int_eq
    have positive : 0 < 10 ^ Text.digitLimit := Nat.pow_pos (by decide)
    simp only [signed, Bool.false_eq_true, if_false, if_true] at same
    omega

end Grammar

end ConstrainedDecoding
