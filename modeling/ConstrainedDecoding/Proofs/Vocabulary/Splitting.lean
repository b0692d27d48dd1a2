import ConstrainedDecoding.Proofs.Vocabulary.Walk

/-! A text is split from left to right by the longest tokens of a vocabulary. -/

namespace ConstrainedDecoding

namespace Vocabulary

/-- The tokens that a text may be split into: they spell something, and they are neither special
added tokens nor an end that lies beyond the vocabulary. -/
def IsLiteral (vocabulary : Vocabulary) (eos : Int) : Spelling := fun id bytes =>
  bytes ≠ [] ∧ ByteTable.Gives (ByteTable.entries vocabulary) id bytes ∧
    ¬vocabulary.IsSpecial id ∧ ¬(vocabulary.isBeyond eos = .ok true ∧ id = eos)

/-- The ids of a vocabulary, and that of its end, are places of a table. -/
structure InRange (vocabulary : Vocabulary) (eos : Int) (count : Nat) : Prop where
  entries : ∀ entry ∈ ByteTable.entries vocabulary, 0 ≤ entry.1 ∧ entry.1 < count
  ending : 0 ≤ eos ∧ eos < count

/-- The tokens of a vocabulary have bytes, and it has a size. -/
structure IsSpelled (vocabulary : Vocabulary) : Prop where
  entries : ∀ entry ∈ ByteTable.entries vocabulary, ∃ bytes, entry.2 = .ok bytes
  sized : ∃ size, vocabulary.size = .ok size

/-- What is found to be the greater one of an integer and another value is a number. -/
theorem exists_number_of_greater {first : Int} {second result : Json}
    (found : (Json.int first).greater second = .ok result) :
    ∃ bound, result.number? = some bound := by
  rw [Json.greater] at found
  split at found
  · rename_i above compared
    obtain rfl := Except.ok.inj found
    cases above with
    | false => exact ⟨_, rfl⟩
    | true =>
      -- Only a number can be above an integer.
      cases second with
      | bool value => exact ⟨_, rfl⟩
      | int value => exact ⟨_, rfl⟩
      | float value => exact ⟨_, rfl⟩
      | _ => cases compared
  · cases found

/-- The size of a vocabulary is a number, so ids can be compared with it. -/
theorem exists_isBeyond {vocabulary : Vocabulary} {size : Json}
    (sized : vocabulary.size = .ok size) (id : Int) :
    ∃ beyond, vocabulary.isBeyond id = .ok beyond := by
  -- The size is at least one more than the greatest id, which is an integer.
  obtain ⟨bound, number⟩ := exists_number_of_greater sized
  exact ⟨_, isBeyond_eq sized number id⟩

end Vocabulary

namespace ByteTable

variable {vocabulary : Vocabulary} {eos : Int} {count : Nat} {table : ByteTable}

/-- A vocabulary with ids in range has a table just if its tokens have bytes, and it has a size. -/
theorem exists_make_iff (ranged : vocabulary.InRange eos count) :
    (∃ table, make vocabulary eos count = .ok table) ↔ vocabulary.IsSpelled := by
  have written : (∃ tokens, write (List.replicate count []) (entries vocabulary) = .ok tokens) ↔
      ∀ entry ∈ entries vocabulary, ∃ bytes, entry.2 = .ok bytes :=
    exists_write_iff (by simpa using ranged.entries)
  constructor
  · rintro ⟨table, made⟩
    obtain ⟨tokens, wrote, made⟩ := make_eq_ok_iff.mp made
    -- The end has been compared with the size, whatever came of it.
    obtain ⟨beyond, compared⟩ : ∃ beyond, vocabulary.isBeyond eos = .ok beyond := by
      rcases made with ⟨beyond, _⟩ | ⟨inside, _⟩
      · exact ⟨true, beyond⟩
      · exact ⟨false, inside⟩
    obtain ⟨size, sized, _⟩ := bind_eq_ok_iff.mp compared
    exact ⟨written.mp ⟨tokens, wrote⟩, size, sized⟩
  · intro spelled
    obtain ⟨tokens, wrote⟩ := written.mpr spelled.entries
    obtain ⟨size, sized⟩ := spelled.sized
    obtain ⟨beyond, compared⟩ := Vocabulary.exists_isBeyond sized eos
    cases beyond with
    | false => exact ⟨_, make_eq_ok_iff.mpr ⟨tokens, wrote, .inr ⟨compared, rfl⟩⟩⟩
    | true =>
      -- The table has a place for the end, too.
      obtain ⟨positive, below⟩ := ranged.ending
      obtain ⟨place, rfl⟩ := Int.eq_ofNat_of_zero_le positive
      have inside : place < tokens.length := by
        rw [write_length wrote, List.length_replicate]
        omega
      have replaced : replaceAt tokens (place : Int) endMark = .ok (tokens.set place endMark) := by
        rw [replaceAt, position?_natCast inside]
      exact ⟨_, make_eq_ok_iff.mpr ⟨tokens, wrote, .inl ⟨compared, _, replaced, rfl⟩⟩⟩

/-- The place of an id holds the bytes that the vocabulary gives it, but for an added end. -/
theorem make_getElem?_iff (ranged : vocabulary.InRange eos count)
    (made : make vocabulary eos count = .ok table) {id : Nat} {bytes : Bytes} (filled : bytes ≠ [])
    (apart : ¬(vocabulary.isBeyond eos = .ok true ∧ id = eos)) :
    table.tokens[id]? = some bytes ↔ Gives (entries vocabulary) id bytes := by
  obtain ⟨tokens, wrote, made⟩ := make_eq_ok_iff.mp made
  have inside : Gives (entries vocabulary) id bytes → id < count := by
    rintro ⟨before, after, parts, _⟩
    exact Int.ofNat_lt.mp (ranged.entries (id, .ok bytes) (by simp [parts])).2
  have written : tokens[id]? = some bytes ↔ Gives (entries vocabulary) id bytes := by
    -- No place of an empty table holds anything.
    have empty : (List.replicate count ([] : Bytes))[id]? ≠ some bytes := by
      rw [List.getElem?_replicate]
      split <;> simp [filled.symm]
    rw [write_getElem?_iff (fun entry member => (ranged.entries entry member).1) wrote,
      List.length_replicate]
    simp only [empty, and_false, or_false, and_iff_left_iff_imp]
    exact inside
  rcases made with ⟨beyond, extended, replaced, rfl⟩ | ⟨_, rfl⟩
  · -- The end is written to a place of its own.
    obtain ⟨place, rfl⟩ := Int.eq_ofNat_of_zero_le ranged.ending.1
    have other : place ≠ id := fun same => apart ⟨beyond, by rw [same]⟩
    rw [← written, replaceAt_natCast replaced, List.getElem?_set_ne other]
  · exact written

/-- Text may be split into the tokens of a table just as its vocabulary tells. -/
theorem literal_iff (ranged : vocabulary.InRange eos count)
    (made : make vocabulary eos count = .ok table) (id : Nat) (bytes : Bytes) :
    table.Literal id bytes ↔ vocabulary.IsLiteral eos id bytes := by
  -- Both are not special for the same reasons, and then they have the same bytes.
  rw [Literal, isLiteral_iff, mem_special_iff made, not_or, Vocabulary.IsLiteral]
  constructor
  · rintro ⟨held, filled, plain, apart⟩
    exact ⟨filled, (make_getElem?_iff ranged made filled apart).mp held, plain, apart⟩
  · rintro ⟨filled, gives, plain, apart⟩
    exact ⟨(make_getElem?_iff ranged made filled apart).mpr gives, filled, plain, apart⟩

/-- The tokens of a text spell the text if none of its bytes was dropped. -/
theorem flatMap_tokens {pieces : List Piece}
    (covered : ∀ piece ∈ pieces, ∃ id bytes, piece = .token id bytes)
    (held : ∀ id bytes, .token id bytes ∈ pieces → table.tokens[id]? = some bytes) :
    (pieces.filterMap Piece.id?).flatMap (fun id => table.tokens.getD id []) =
      pieces.flatMap Piece.bytes := by
  -- The token of each part has the bytes of the part in its place.
  induction pieces with
  | nil => rfl
  | cons piece rest ih =>
    obtain ⟨⟨id, bytes, rfl⟩, later⟩ := List.forall_mem_cons.mp covered
    have first := held id bytes List.mem_cons_self
    rw [List.filterMap_cons_some (show Piece.id? (.token id bytes) = some id from rfl),
      List.flatMap_cons, List.flatMap_cons, List.getD_eq_getElem?_getD, first, Option.getD_some,
      ih later fun id bytes member => held id bytes (List.mem_cons_of_mem _ member)]
    rfl

/--
A text is split from left to right, each time by the longest token that it goes on with.

Of the tokens with the same bytes it is the one of the lowest id, and a byte is dropped where no
token starts. The tokens and the dropped bytes make up the text, and the tokens alone do so if each
byte of the text is a token of its own. Only a text that has no bytes cannot be split, and only a
vocabulary with a token that has no bytes, or without a size, has no table.
-/
theorem split_by_longest (ranged : vocabulary.InRange eos count) :
    ((∃ table, make vocabulary eos count = .ok table) ↔ vocabulary.IsSpelled) ∧
    ∀ table, make vocabulary eos count = .ok table →
      (∀ payload surrogates, payload.octets = .error surrogates →
        table.split payload = .error surrogates) ∧
      ∀ payload text, payload.octets = .ok text → ∃ pieces,
        Walk (vocabulary.IsLiteral eos) text pieces ∧
        (∀ others, Walk (vocabulary.IsLiteral eos) text others → others = pieces) ∧
        table.split payload = .ok (pieces.filterMap Piece.id?) ∧
        pieces.flatMap Piece.bytes = text ∧
        ((∀ byte ∈ text, ∃ id, vocabulary.IsLiteral eos id [byte]) →
          (pieces.filterMap Piece.id?).flatMap (fun id => table.tokens.getD id []) = text) := by
  refine ⟨exists_make_iff ranged, fun table made => ?_⟩
  have spelling : table.Literal = vocabulary.IsLiteral eos :=
    funext fun id => funext fun bytes => propext (literal_iff ranged made id bytes)
  constructor
  · intro payload surrogates failed
    rw [split, failed]
    rfl
  · intro payload text bytes
    obtain ⟨pieces, walk, encoded⟩ := encode_walk table text
    refine ⟨pieces, spelling ▸ walk, fun others other => ?_, ?_, walk.bytes_eq, fun single => ?_⟩
    · exact walk.unique (fun id literal => literal.ne_nil rfl) (spelling ▸ other) rfl
    · rw [split, bytes, ← encoded]
      rfl
    · -- No byte was dropped, so the bytes of the tokens are those of the parts.
      rw [← spelling] at single
      rw [flatMap_tokens (walk.covered single) fun id bytes member => ?_]
      · exact walk.bytes_eq
      · obtain ⟨_, longest⟩ := walk.longest member
        exact longest.spelled.1

/-- A vocabulary of three tokens and an end of text. -/
def shortVocabulary : Vocabulary where
  tokens := [("a", 0), ("b", 1), ("ab", 2)]
  merges := []
  added := [.bare 3 "</s>"]
  modelType := .str "unknown"
  roles := { RoleIds.none with eos := .int 3 }
  explicitSize := .null

/-- The tokens of a text spell it, if its letters are tokens. -/
theorem split_by_longest_short :
    shortVocabulary.InRange 3 4 ∧ ∃ table ids, make shortVocabulary 3 4 = .ok table ∧
      table.split (.text "aabb") = .ok ids ∧
      ids.flatMap (fun id => table.tokens.getD id []) = [0x61, 0x61, 0x62, 0x62] := by
  have listed : entries shortVocabulary = [(0, .ok [0x61]), (1, .ok [0x62]),
    (2, .ok [0x61, 0x62]), (3, .ok [0x3C, 0x2F, 0x73, 0x3E])] := rfl
  have ranged : shortVocabulary.InRange 3 4 := ⟨by simp [listed], by decide⟩
  have plain (id : Nat) (below : id < 3) : ¬shortVocabulary.IsSpecial id := by
    rintro ⟨token, member, _, same⟩
    obtain rfl := List.mem_singleton.mp member
    exact below.ne (Int.ofNat_inj.mp same).symm
  have apart (id : Nat) : ¬(shortVocabulary.isBeyond 3 = .ok true ∧ (id : Int) = 3) := by
    rintro ⟨beyond, _⟩
    have inside : shortVocabulary.isBeyond 3 = .ok false := rfl
    rw [inside] at beyond
    cases beyond
  -- Both letters are tokens that a text may be split into.
  obtain ⟨makes, splits⟩ := split_by_longest ranged
  obtain ⟨table, made⟩ := makes.mpr ⟨by simp [listed], .int 4, rfl⟩
  obtain ⟨pieces, _, _, encoded, _, covered⟩ :=
    (splits table made).2 (.text "aabb") [0x61, 0x61, 0x62, 0x62] rfl
  refine ⟨ranged, table, _, made, encoded, covered fun byte inside => ?_⟩
  have letter : byte = 0x61 ∨ byte = 0x62 := by simpa using inside
  rcases letter with rfl | rfl
  · exact ⟨0, by simp, ⟨[], _, rfl, by decide⟩, plain 0 (by decide), apart 0⟩
  · exact ⟨1, by simp, ⟨[_], _, rfl, by decide⟩, plain 1 (by decide), apart 1⟩

end ByteTable

end ConstrainedDecoding
