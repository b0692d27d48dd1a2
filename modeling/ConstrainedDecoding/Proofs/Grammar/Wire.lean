import ConstrainedDecoding.Grammar.Compare
import ConstrainedDecoding.Proofs.Grammar.SchemaText
import ConstrainedDecoding.Proofs.Json.Equal

/-! Grammar descriptions are sent as text: what arrives is the description that was sent. -/

namespace ConstrainedDecoding.Grammar

/-- The text that a description is sent as, if it has one. -/
def wireText (grammar : Grammar) : Except Fault Text :=
  grammar.toJson.text

/-- The description that a text was sent for. -/
def ofWireText (text : Text) : Except Fault Grammar := do
  ofJson (← (Json.ofText text).mapError .unreadable)

/-- A description of texts, or of a schema without NaN, whose integers may be of any size.

A start rule may be left out, and it may be empty. Of binary64 numbers no more is assumed than that
they are read as they are written. -/
inductive Sendable : Grammar → Prop
  | jsonSchema {schema : Fields Json}
    (proper : (Json.obj schema).Proper (fun _ => True) Binary64.ReadsBack)
    (numbers : (Json.obj schema).Proper (fun _ => True) (· ≠ .nan)) : Sendable (jsonSchema schema)
  | regex (pattern : Text) : Sendable (regex (.str pattern))
  | lark (source : Text) (startRule : Option Text) :
    Sendable (lark (.str source) (.ofText? startRule))

variable {grammar : Grammar}

/-- A description with a long integer has no text to be sent as. -/
theorem wireText_of_long (long : ¬grammar.toJson.AllShort) :
    grammar.wireText = .error (.invalid .longInteger) :=
  Json.render_of_long long

/-- The integers of a tagged document are those of the schema in it. -/
theorem allShort_schema {schema : Fields Json} :
    (jsonSchema schema).toJson.AllShort ↔ (Json.obj schema).AllShort := by
  simp [Json.AllShort, toJson, Json.integers, Json.fieldIntegers]

/-- The tagged document of a description has distinct names, and its numbers read back. -/
theorem Sendable.proper (sendable : grammar.Sendable) :
    grammar.toJson.Proper (fun _ => True) Binary64.ReadsBack := by
  have text (text : Text) : (Json.str text).Proper (fun _ => True) Binary64.ReadsBack := .str trivial
  cases sendable with
  | jsonSchema proper _ => exact .pair (by decide) trivial trivial (text _) proper
  | regex pattern => exact .pair (by decide) trivial trivial (text _) (text _)
  | lark source startRule =>
    -- The third field is there only if there is a start rule.
    cases startRule with
    | none => exact .pair (by decide) trivial trivial (text _) (text _)
    | some rule =>
      refine .obj (show [("type" : Text), "grammar", "startSymbol"].Nodup by decide)
        (fun _ _ => trivial) ?_
      exact List.forall_mem_cons.mpr ⟨text _, List.forall_mem_cons.mpr
        ⟨text _, List.forall_mem_singleton.mpr (text rule)⟩⟩

/-- A description is found in its tagged document. -/
theorem Sendable.ofJson_toJson (sendable : grammar.Sendable) :
    ofJson grammar.toJson = .ok grammar := by
  cases sendable with
  | jsonSchema _ _ => rfl
  | regex pattern => rfl
  | lark source startRule =>
    -- Without a start rule there is no field for it, and its default stands for none.
    cases startRule with
    | none => rfl
    | some rule => rfl

/-- A description equals itself. -/
theorem Sendable.same_self (sendable : grammar.Sendable) : grammar.same grammar = true := by
  have text : ∀ text : Text, (Json.str text).same (.str text) = true := by simp [Json.same]
  -- Texts equal themselves, and so do schemas, since there is no NaN in them.
  cases sendable with
  | jsonSchema _ numbers => exact numbers.same_self
  | regex pattern => exact text pattern
  | lark source startRule =>
    cases startRule with
    | none => exact Bool.and_eq_true_iff.mpr ⟨text source, rfl⟩
    | some rule => exact Bool.and_eq_true_iff.mpr ⟨text source, text rule⟩

/-- A description that is sent arrives, and it equals the one that was sent. It can be sent unless
a schema has an integer with more digits than one may be written with.

What arrives is of the same kind, and an engine is given the same text for it, or none at all for
the same reason: a start rule in conflict with the source. -/
theorem ofWireText_wireText (sendable : grammar.Sendable) :
    (grammar.toJson.AllShort →
      ∃ text, grammar.wireText = .ok text ∧ ofWireText text = .ok grammar ∧
        grammar.same grammar = true) ∧
    (¬grammar.toJson.AllShort → grammar.wireText = .error (.invalid .longInteger)) := by
  refine ⟨fun short => ?_, wireText_of_long⟩
  -- The document is one that a text can denote, so its text is read as the document.
  have lawful := sendable.proper.lawful short
  have read : Json.ofText (Json.write Json.plainLayout grammar.toJson) = .ok grammar.toJson :=
    Json.ofText_write Json.plainLayout_reads lawful
  refine ⟨_, lawful.text, ?_, sendable.same_self⟩
  rw [ofWireText, read]
  exact sendable.ofJson_toJson

/-- A schema that arrives has short integers only. -/
theorem allShort_of_ofWireText {text : Text} {schema : Fields Json}
    (arrived : ofWireText text = .ok (jsonSchema schema)) : (Json.obj schema).AllShort := by
  obtain ⟨json, read, held⟩ := bind_eq_ok_iff.mp arrived
  obtain ⟨fields, rfl, member⟩ := mem_of_ofJson held
  -- The integers of the schema are among those of the whole document.
  exact fun value among => Json.ofText_allShort (mapError_eq_ok_iff.mp read) value
    (Json.mem_fieldIntegers.mpr ⟨_, member, among⟩)

/-- A schema with letters to escape and beyond ASCII, and numbers of two kinds in an array. -/
def nestedSchema : Fields Json :=
  [("é", .str "\"\n"), ("enum", .arr [.null, .int (-12), .float one])]

/-- The nested schema can be sent. -/
theorem nestedSchema_sendable : (jsonSchema nestedSchema).Sendable := by
  -- The schema is proper for every kind of numbers that the one in it is of.
  have proper {floats : Binary64 → Prop} (real : floats one) :
      (Json.obj nestedSchema).Proper (fun _ => True) floats := by
    refine .pair (by decide) trivial trivial (.str trivial) (.arr ?_)
    exact List.forall_mem_cons.mpr ⟨.null, List.forall_mem_cons.mpr ⟨.int (-12),
      List.forall_mem_singleton.mpr (.float real)⟩⟩
  exact .jsonSchema (proper one_readsBack) (proper nofun)

/-- The nested schema arrives, and so does a source with an empty start rule. -/
theorem ofWireText_wireText_nested :
    (∃ text, (jsonSchema nestedSchema).wireText = .ok text ∧
      ofWireText text = .ok (jsonSchema nestedSchema) ∧
      (jsonSchema nestedSchema).same (jsonSchema nestedSchema) = true) ∧
    ∃ text, (lark (.str "start: A") (.str "")).wireText = .ok text ∧
      ofWireText text = .ok (lark (.str "start: A") (.str "")) := by
  refine ⟨(ofWireText_wireText nestedSchema_sendable).1 (by decide), ?_⟩
  have sendable : (lark (.str "start: A") (.str "")).Sendable := .lark "start: A" (some "")
  obtain ⟨text, sent, arrived, _⟩ := (ofWireText_wireText sendable).1 (by decide)
  exact ⟨text, sent, arrived⟩

/-- The schema of an integer of 4301 digits is such a description, and cannot be sent. Nor does it
arrive, whatever text is sent. -/
theorem long_schema_not_sent :
    (jsonSchema (longSchema false)).Sendable ∧
      (jsonSchema (longSchema false)).wireText = .error (.invalid .longInteger) ∧
      ∀ text, ofWireText text ≠ .ok (jsonSchema (longSchema false)) := by
  have long := longSchema_not_short false
  -- There are no binary64 numbers in the schema, and its name may be any text.
  have sendable : (jsonSchema (longSchema false)).Sendable :=
    .jsonSchema (longSchema_proper false trivial) (longSchema_proper false trivial)
  exact ⟨sendable, wireText_of_long (mt allShort_schema.mp long),
    fun _ arrived => long (allShort_of_ofWireText arrived)⟩

end ConstrainedDecoding.Grammar
