import ConstrainedDecoding.Engine.Matchers
import ConstrainedDecoding.Proofs.Vocabulary.Table

/-! What an oracle is set up with: the tokens that it counts, and the table that it splits text by. -/

namespace ConstrainedDecoding

/-- A table has so many tokens, or these and an end behind them. -/
def ByteTable.Covers (table : ByteTable) (size : Nat) : Prop :=
  table.tokens.length = size ∨ table.tokens.length = size + 1 ∧ table.eos = size

/-- A table that covers tokens has a place for each of them. -/
theorem ByteTable.Covers.le {table : ByteTable} {size : Nat} (covers : table.Covers size) :
    size ≤ table.tokens.length := by
  rcases covers with same | ⟨more, _⟩ <;> omega

namespace Matchers

variable {μ : Type} {engine : Engine μ} {state : Matchers μ} {logLevel : Except Fault Int}
  {vocabulary : Vocabulary}

/-- The size behind a count of tokens is an integer, and ids are compared with that. -/
theorem isBeyond_of_tokenCount {size : Nat} (counted : tokenCount vocabulary = .ok size) :
    ∃ declared : Int, declared.toNat = size ∧
      ∀ id, vocabulary.isBeyond id = .ok (decide (declared ≤ id)) := by
  obtain ⟨declared, sized, counted⟩ := bind_eq_ok_iff.mp counted
  -- A count is taken of integers and of truth values only.
  cases declared with
  | int value =>
    simp only [Vocabulary.count, sized, Bind.bind, Except.bind] at counted
    exact ⟨value, Except.ok.inj counted, Vocabulary.isBeyond_eq sized rfl⟩
  | bool value =>
    simp only [Vocabulary.count, sized, Bind.bind, Except.bind] at counted
    refine ⟨if value then 1 else 0, ?_, Vocabulary.isBeyond_eq sized rfl⟩
    cases value <;> exact Except.ok.inj counted
  | float value => cases counted
  | _ => simp [Vocabulary.count, sized, Bind.bind, Except.bind] at counted

/-- An oracle that is made has counted the tokens, found an end, and made a table of them. -/
theorem make_table (made : make engine logLevel vocabulary = .ok state) :
    ∃ eos, tokenCount vocabulary = .ok state.size ∧ endId vocabulary state.size = .ok eos ∧
      ByteTable.make vocabulary eos (engineSize vocabulary state.size) = .ok state.table := by
  -- Each step of the making has succeeded, so the oracle has what the steps have found.
  rw [make] at made
  split at made
  · cases made
  · obtain ⟨size, counted, made⟩ := bind_eq_ok_iff.mp made
    obtain ⟨table, accepted, done⟩ := bind_eq_ok_iff.mp made
    obtain ⟨eos, ending, accepted⟩ := bind_eq_ok_iff.mp (mapError_eq_ok_iff.mp accepted)
    obtain ⟨filled, tabled, accepted⟩ := bind_eq_ok_iff.mp accepted
    obtain ⟨_, _, same⟩ := bind_eq_ok_iff.mp accepted
    cases same
    cases done
    exact ⟨eos, counted, ending, tabled⟩

/-- The table of a new oracle has its tokens, and an end behind them if the vocabulary has none. -/
theorem make_covers (made : make engine logLevel vocabulary = .ok state) :
    state.table.Covers state.size := by
  obtain ⟨eos, _, ending, tabled⟩ := make_table made
  rw [ByteTable.Covers, ByteTable.make_length tabled, ByteTable.make_eos tabled, engineSize]
  -- Without an end of text in the vocabulary, the table has one place more for it.
  cases resolved : vocabulary.roles.eos.isNull with
  | true =>
    rw [endId, if_pos resolved] at ending
    exact .inr ⟨rfl, (Except.ok.inj ending).symm⟩
  | false => exact .inl rfl

/-- Special to an oracle are the special added tokens, and the end if that was added. -/
theorem mem_special_iff_of_make (made : make engine logLevel vocabulary = .ok state) {id : Int} :
    id ∈ state.table.special ↔
      vocabulary.IsSpecial id ∨ vocabulary.roles.eos.isNull = true ∧ id = state.table.eos := by
  obtain ⟨eos, counted, ending, tabled⟩ := make_table made
  obtain ⟨declared, sized, compared⟩ := isBeyond_of_tokenCount counted
  rw [ByteTable.mem_special_iff tabled, ByteTable.make_eos tabled, compared]
  refine or_congr_right (and_congr_left fun _ => ?_)
  cases resolved : vocabulary.roles.eos.isNull with
  | true =>
    -- The added end is the first id past the tokens.
    rw [endId, if_pos resolved] at ending
    have last : (state.size : Int) = eos := Except.ok.inj ending
    have past : declared ≤ eos := by omega
    simp [past]
  | false =>
    -- A table has no place for an end past the tokens, unless that end was added.
    have below : ¬declared ≤ eos := by
      intro past
      obtain ⟨tokens, wrote, ⟨_, _, replaced, _⟩ | ⟨inside, _⟩⟩ := ByteTable.make_eq_ok_iff.mp tabled
      · have room : tokens.length = declared.toNat := by
          rw [ByteTable.write_length wrote, List.length_replicate, engineSize, resolved, sized]
          rfl
        have bounds := replaceAt_bounds replaced
        omega
      · rw [compared] at inside
        exact of_decide_eq_false (Except.ok.inj inside) past
    simp [below]

end Matchers

end ConstrainedDecoding
