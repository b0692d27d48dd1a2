import ConstrainedDecoding.Grammar.Compare
import ConstrainedDecoding.Proofs.Grammar.SchemaText
import ConstrainedDecoding.Proofs.Json.Equal

/-! Equal grammar descriptions: when they are filed under the same keys. -/

namespace ConstrainedDecoding.Grammar

variable {texts : Text → Prop} {floats : Binary64 → Prop}

/-- The schema in a proper document is proper. -/
theorem proper_of_ofJson {document : Json} (proper : document.Proper texts floats)
    {schema : Fields Json} (accepted : ofJson document = .ok (jsonSchema schema)) :
    (Json.obj schema).Proper texts floats := by
  obtain ⟨fields, rfl, member⟩ := mem_of_ofJson accepted
  cases proper with
  | obj _ _ inner => exact inner _ member

/-- A part that equals one with a key has the same key. -/
theorem partKey_of_same {left right : Json} (same : left.same right = true) {key : Json.HashKey}
    (hashable : partKey left = .ok key) : partKey right = .ok key := by
  unfold partKey at hashable ⊢
  -- Equal values have equal keys, or none of them has any.
  rw [← Json.hashKey?_eq_of_same same]
  split at hashable
  · exact hashable
  · cases hashable

/-- A pattern that equals one that can be filed is filed under the same key. -/
theorem hashKeys_regex {pattern other : Json} {keys : List Json.HashKey}
    (hashable : (regex pattern).hashKeys = .ok keys) (same : pattern.same other = true) :
    (regex other).hashKeys = .ok keys := by
  obtain ⟨key, found, done⟩ := bind_eq_ok_iff.mp hashable
  exact bind_eq_ok_iff.mpr ⟨key, partKey_of_same same found, done⟩

/-- A source that equals one that can be filed is filed under the same keys, start rule included. -/
theorem hashKeys_lark {source start other otherStart : Json} {keys : List Json.HashKey}
    (hashable : (lark source start).hashKeys = .ok keys) (same : source.same other = true)
    (sameStart : start.same otherStart = true) : (lark other otherStart).hashKeys = .ok keys := by
  obtain ⟨key, found, hashable⟩ := bind_eq_ok_iff.mp hashable
  -- Both parts have keys, and each of them is also that of the other part.
  obtain ⟨startKey, startFound, done⟩ := bind_eq_ok_iff.mp hashable
  exact bind_eq_ok_iff.mpr ⟨key, partKey_of_same same found,
    bind_eq_ok_iff.mpr ⟨startKey, partKey_of_same sameStart startFound, done⟩⟩

/-- Descriptions are filed under the same keys if they have the same ones. -/
theorem sameHash_eq {left right : Grammar} {keys others : List Json.HashKey}
    (hashable : left.hashKeys = .ok keys) (otherHashable : right.hashKeys = .ok others) :
    left.sameHash right = .ok (keys = others) := by
  rw [sameHash, hashable, otherHashable]
  rfl

/-- A schema can be filed just if it has a canonical text. -/
theorem hashKeys_schema {schema : Fields Json} {keys : List Json.HashKey} :
    (jsonSchema schema).hashKeys = .ok keys ↔
      ∃ canonical, (Json.obj schema).canonicalText = .ok canonical ∧
        [.text "json_schema", .text canonical] = keys := by
  simp only [hashKeys, bind_eq_ok_iff, Pure.pure, Except.pure, Except.ok.injEq]

/-- A schema that can be filed is filed under the same keys as another one just if it has the same
canonical text. -/
theorem sameHash_schema {schema others : Fields Json} {canonical : Text}
    (written : (Json.obj schema).canonicalText = .ok canonical) :
    (jsonSchema schema).sameHash (jsonSchema others) = .ok true ↔
      (Json.obj schema).canonicalText = (Json.obj others).canonicalText := by
  cases otherWritten : (Json.obj others).canonicalText with
  | ok other =>
    rw [sameHash_eq (hashKeys_schema.mpr ⟨canonical, written, rfl⟩)
      (hashKeys_schema.mpr ⟨other, otherWritten, rfl⟩), written]
    simp
  | error fault =>
    -- The other schema cannot be filed, so nothing is compared.
    simp [sameHash, hashKeys, written, otherWritten, Bind.bind, Except.bind, Pure.pure, Except.pure]

/-- Equal descriptions that can be filed are filed under the same keys, except for schemas of which
one is not the other with its fields in another order.

Schemas are equal if their numbers are equal in value, and then one schema may have 1 where the
other has 1.0 or true, but their texts are the same only if they have the same value there. -/
theorem sameHash_of_same_iff {document other : Json} {left right : Grammar}
    (proper : document.Proper texts floats) (otherProper : other.Proper texts floats)
    (accepted : ofJson document = .ok left) (otherAccepted : ofJson other = .ok right)
    {keys : List Json.HashKey} (hashable : left.hashKeys = .ok keys)
    (equal : left.same right = true) :
    (left.sameHash right = .ok true ↔ ∀ schema others, left = jsonSchema schema →
      right = jsonSchema others → (Json.obj schema).Rearranged (.obj others)) ∧
    ∀ schema others, left = jsonSchema schema → right = jsonSchema others →
      (left.engineText = right.engineText ↔ (Json.obj schema).Rearranged (.obj others)) := by
  match left, right with
  | jsonSchema schema, jsonSchema others =>
    -- The text of a schema is what it is filed under, so there is one if it can be filed.
    obtain ⟨canonical, written, _⟩ := hashKeys_schema.mp hashable
    have texts := Json.canonicalText_eq_iff_of_same (proper_of_ofJson proper accepted)
      (proper_of_ofJson otherProper otherAccepted) equal
      (Json.canonicalText_eq_ok_iff.mp written).1
    rw [sameHash_schema written]
    constructor
    · simp [texts]
    · rintro _ _ ⟨⟩ ⟨⟩
      rw [engineText_schema_eq_iff, texts]
  | regex pattern, regex otherPattern =>
    -- There is no schema in a pattern or a source, and equal ones have equal keys.
    rw [sameHash_eq hashable (hashKeys_regex hashable equal)]
    simp
  | lark source start, lark otherSource otherStart =>
    rw [same, Bool.and_eq_true] at equal
    rw [sameHash_eq hashable (hashKeys_lark hashable equal.1 equal.2)]
    simp

/-- A document of a schema with a title beyond ASCII and a constant. -/
def titledDocument : Json :=
  .obj [("type", .str "json_schema"),
    ("schema", .obj [("title", .str "é"), ("const", .int 1)])]

/-- The document with the fields of both objects in the other order. -/
def titledTurned : Json :=
  .obj [("schema", .obj [("const", .int 1), ("title", .str "é")]),
    ("type", .str "json_schema")]

/-- A schema with its two fields in either order is filed under the same keys. -/
theorem sameHash_of_same_iff_turned :
    ∃ left right, ofJson titledDocument = .ok left ∧ ofJson titledTurned = .ok right ∧
      left.same right = true ∧ left.sameHash right = .ok true := by
  have text : ∀ value : Text, (Json.str value).Proper (fun _ => True) (fun _ => True) :=
    fun _ => .str trivial
  have integer : (Json.int 1).Proper (fun _ => True) (fun _ => True) := .int 1
  have proper : titledDocument.Proper (fun _ => True) (fun _ => True) :=
    .pair (by decide) trivial trivial (text _) (.pair (by decide) trivial trivial (text _) integer)
  have otherProper : titledTurned.Proper (fun _ => True) (fun _ => True) :=
    .pair (by decide) trivial trivial (.pair (by decide) trivial trivial integer (text _)) (text _)
  refine ⟨jsonSchema [("title", .str "é"), ("const", .int 1)],
    jsonSchema [("const", .int 1), ("title", .str "é")], rfl, rfl, rfl, ?_⟩
  -- The first schema can be written, so it can be filed.
  have short : (Json.obj [("title", .str "é"), ("const", .int 1)]).AllShort := by decide
  have written := Json.canonicalText_eq_ok_iff.mpr ⟨short, rfl⟩
  have hashable := hashKeys_schema.mpr ⟨_, written, rfl⟩
  refine (sameHash_of_same_iff proper otherProper rfl rfl hashable rfl).1.mpr ?_
  rintro _ _ ⟨⟩ ⟨⟩
  exact .pair (by decide) (.same _) (.same _)

/-- Two schemas whose constants are equal, one and true, are filed under different keys. -/
theorem equal_constants_filed_apart :
    ∃ left right,
      ofJson (.obj [("type", .str "json_schema"), ("schema", .obj [("const", .int 1)])]) =
        .ok left ∧
      ofJson (.obj [("type", .str "json_schema"), ("schema", .obj [("const", .bool true)])]) =
        .ok right ∧
      left.same right = true ∧ left.sameHash right = .ok false ∧
      left.engineText ≠ right.engineText := by
  have first : (Json.obj [("const", .int 1)]).canonicalText = .ok "\x7b\"const\": 1\x7d" :=
    Json.canonicalText_eq_ok_iff.mpr ⟨by decide, by cbv⟩
  have second : (Json.obj [("const", .bool true)]).canonicalText =
      .ok "\x7b\"const\": true\x7d" :=
    Json.canonicalText_eq_ok_iff.mpr ⟨by decide, by cbv⟩
  -- The two constants are equal by value, but they are spelled differently.
  refine ⟨jsonSchema [("const", .int 1)], jsonSchema [("const", .bool true)], rfl, rfl, rfl, ?_, ?_⟩
  · rw [sameHash_eq (hashKeys_schema.mpr ⟨_, first, rfl⟩) (hashKeys_schema.mpr ⟨_, second, rfl⟩)]
    rfl
  · rw [Ne, engineText_schema_eq_iff, first, second]
    exact fun same => absurd (Except.ok.inj same) (by decide)

end ConstrainedDecoding.Grammar
