import ConstrainedDecoding.Engine.Regular
import ConstrainedDecoding.Proofs.Engine.Setup
import ConstrainedDecoding.Proofs.Vocabulary.Walk

/-! Which control tokens text is split into: a vocabulary's own end of text may be one of them. -/

namespace ConstrainedDecoding.Matchers

variable {μ : Type} {engine : Engine μ} {state : Matchers μ} {logLevel : Except Fault Int}
  {vocabulary : Vocabulary}

/-- Text may be split into a token with bytes unless it is special, or an end that was added. -/
theorem literal_iff (made : make engine logLevel vocabulary = .ok state) {id : Nat}
    {bytes : Bytes} : state.table.Literal id bytes ↔
      state.table.tokens[id]? = some bytes ∧ bytes ≠ [] ∧ ¬vocabulary.IsSpecial id ∧
        ¬(vocabulary.roles.eos.isNull = true ∧ (id : Int) = state.table.eos) := by
  rw [ByteTable.Literal, ByteTable.isLiteral_iff, mem_special_iff_of_make made, not_or]

/--
Text is not split into special tokens, but it may be split into an end of text.

No token of a text is that of a special added token, or an end that the vocabulary lacks. A resolved
end is a token of some text just if it is not flagged as special itself, has bytes, and is the first
one with these bytes that is not special.
-/
theorem control_tokens_of_text (made : make engine logLevel vocabulary = .ok state) :
    (∀ payload ids, state.table.split payload = .ok ids → ∀ id ∈ ids,
      ¬vocabulary.IsSpecial id ∧
        (vocabulary.roles.eos.isNull = true → (id : Int) ≠ state.table.eos)) ∧
    ((∃ payload ids, state.table.split payload = .ok ids ∧
        ∃ id ∈ ids, (id : Int) = state.table.eos) ↔
      vocabulary.roles.eos.isNull = false ∧ ∃ id : Nat, (id : Int) = state.table.eos ∧
        ¬vocabulary.IsSpecial id ∧ ∃ bytes, bytes ≠ [] ∧ state.table.tokens[id]? = some bytes ∧
          ∀ other < id, state.table.tokens[other]? = some bytes → vocabulary.IsSpecial other) := by
  -- An id is emitted just if it is the first one of some bytes that text may be split into.
  have tokens {id : Nat} : (∃ payload ids, state.table.split payload = .ok ids ∧ id ∈ ids) ↔
      ∃ bytes, state.table.Literal id bytes ∧
        ∀ other, state.table.Literal other bytes → id ≤ other := by
    simp only [ByteTable.exists_split_iff, ByteTable.literal?_eq_some_iff]
  refine ⟨fun payload ids splits id member => ?_, ?_, ?_⟩
  · obtain ⟨bytes, literal, _⟩ := tokens.mp ⟨payload, ids, splits, member⟩
    obtain ⟨_, _, plain, own⟩ := (literal_iff made).mp literal
    exact ⟨plain, fun lacking same => own ⟨lacking, same⟩⟩
  · rintro ⟨payload, ids, splits, id, member, same⟩
    obtain ⟨bytes, literal, lowest⟩ := tokens.mp ⟨payload, ids, splits, member⟩
    obtain ⟨held, filled, plain, own⟩ := (literal_iff made).mp literal
    have resolved : vocabulary.roles.eos.isNull = false :=
      Bool.eq_false_iff.mpr fun lacking => own ⟨lacking, same⟩
    refine ⟨resolved, id, same, plain, bytes, filled, held, fun other before also => ?_⟩
    -- A token that comes before and is not special would be taken instead.
    by_contra ordinary
    have literal : state.table.Literal other bytes :=
      (literal_iff made).mpr ⟨also, filled, ordinary, by simp [resolved]⟩
    exact absurd (lowest other literal) (Nat.not_le.mpr before)
  · rintro ⟨resolved, id, same, plain, bytes, filled, held, first⟩
    obtain ⟨payload, ids, splits, member⟩ := tokens.mpr ⟨bytes,
      (literal_iff made).mpr ⟨held, filled, plain, by simp [resolved]⟩, fun other literal => by
        obtain ⟨also, _, ordinary, _⟩ := (literal_iff made).mp literal
        by_contra before
        exact ordinary (first other (Nat.not_le.mp before) also)⟩
    exact ⟨payload, ids, splits, id, member, same⟩

/-- A vocabulary with a letter and an end of text, which is a base token or a special added one. -/
def endedVocabulary (flagged : Bool) : Vocabulary where
  tokens := if flagged then [("a", 0)] else [("a", 0), ("</s>", 1)]
  merges := []
  added := if flagged then [.bare 1 "</s>"] else []
  modelType := .str "unknown"
  roles := { RoleIds.none with eos := .int 1 }
  explicitSize := .null

/-- An end of text that is flagged as special is not a token of any text. -/
theorem control_tokens_of_text_flagged :
    ∃ state, make Regular.engine (.ok 0) (endedVocabulary true) = .ok state ∧
      ¬∃ payload ids, state.table.split payload = .ok ids ∧
        ∃ id ∈ ids, (id : Int) = state.table.eos := by
  have made : make Regular.engine (.ok 0) (endedVocabulary true) = .ok _ := rfl
  refine ⟨_, made, fun split => ?_⟩
  -- A split into the end would show that it is not flagged.
  obtain ⟨_, id, same, plain, _⟩ := (control_tokens_of_text made).2.mp split
  exact plain ⟨_, List.mem_singleton_self _, rfl, same.symm⟩

/-- The text of an end that is a base token is split into that end. -/
theorem end_of_text_split :
    ∃ state, make Regular.engine (.ok 0) (endedVocabulary false) = .ok state ∧
      state.table.eos = 1 ∧ state.table.split (.text "</s>") = .ok [1] := by
  -- The end is no added token, so it is not special in the table.
  have plain : (endedVocabulary false).specialIds = [] := by
    simp [Vocabulary.specialIds, endedVocabulary]
  have made : make Regular.engine (.ok 0) (endedVocabulary false) = .ok ⟨⟨[[0x61],
      [0x3C, 0x2F, 0x73, 0x3E]], 1, .null, (endedVocabulary false).specialIds⟩, 2, .ok 0, none, none,
      [0], [], []⟩ := rfl
  rw [plain] at made
  exact ⟨_, made, rfl, congrArg Except.ok (ByteTable.encode_of_literal? rfl)⟩

end ConstrainedDecoding.Matchers
