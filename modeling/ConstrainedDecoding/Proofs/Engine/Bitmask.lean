import ConstrainedDecoding.Proofs.Engine.Coherence
import Mathlib.Data.Int.Bitwise

/-! Masks are unpacked bit by bit: each token of an oracle has one bit of the engine's words. -/

namespace ConstrainedDecoding

/-- The bit at a place of signed words of 32 bits, in the two's complement form of its word. -/
def wordBit (words : List Int) (place : Nat) : Option Bool :=
  words[place / 32]?.map fun word => (BitVec.ofInt 32 word).getLsbD (place % 32)

/-- Fewer than 32 halvings leave the parity that they leave of the remainder modulo 2 ^ 32. -/
theorem shifted_parity (word : Int) {shift : Nat} (small : shift < 32) :
    word / 2 ^ shift % 2 = word % 2 ^ 32 / 2 ^ shift % 2 := by
  -- What the remainder leaves out is still even after that many halvings.
  have power : (2 : Int) ^ 32 = 2 ^ shift * (2 * 2 ^ (31 - shift)) := by
    rw [← pow_succ', ← pow_add]
    congr 1
    omega
  have halved : word / 2 ^ shift =
      word % 2 ^ 32 / 2 ^ shift + 2 * (2 ^ (31 - shift) * (word / 2 ^ 32)) := by
    calc word / 2 ^ shift
        = (word % 2 ^ 32 + 2 ^ shift * (2 * 2 ^ (31 - shift) * (word / 2 ^ 32))) / 2 ^ shift := by
          rw [← mul_assoc, ← power, Int.emod_add_mul_ediv]
      _ = word % 2 ^ 32 / 2 ^ shift + 2 * 2 ^ (31 - shift) * (word / 2 ^ 32) :=
          Int.add_mul_ediv_left _ _ (pow_ne_zero _ two_ne_zero)
      _ = _ := by rw [mul_assoc]
  rw [halved, Int.add_mul_emod_self_left]

/-- The bits of a word are those of its two's complement form. -/
theorem wordBits_getElem? (word : Int) {shift : Nat} (small : shift < 32) :
    (wordBits word)[shift]? = some ((BitVec.ofInt 32 word).getLsbD shift) := by
  -- As a natural number, the word is what it leaves modulo its range.
  have form : ((BitVec.ofInt 32 word).toNat : Int) = word % 2 ^ 32 := by
    rw [BitVec.toNat_ofInt, Int.toNat_of_nonneg (Int.emod_nonneg word (by decide))]
    rfl
  have shifted : Int.shiftRight word shift % 2 =
      ((BitVec.ofInt 32 word).toNat / 2 ^ shift % 2 : Nat) := by
    rw [← Int.shiftRight_eq, Int.shiftRight_eq_div_pow]
    push_cast
    rw [form, shifted_parity word small]
  rw [wordBits, List.getElem?_map, List.getElem?_range small, Option.map_some, shifted,
    ← BitVec.testBit_toNat, Nat.testBit_eq_decide_div_mod_eq]
  norm_cast

/-- The bits of words stand one after another, 32 of each word. -/
theorem flatMap_wordBits_getElem? (words : List Int) (place : Nat) :
    (words.flatMap wordBits)[place]? = wordBit words place := by
  -- A place is one of the first word, or one of the rest with that word taken away.
  induction words generalizing place with
  | nil => simp [wordBit]
  | cons word rest ih =>
    have width : (wordBits word).length = 32 := by simp [wordBits]
    rw [List.flatMap_cons]
    by_cases first : place < 32
    · rw [List.getElem?_append_left (by omega), wordBits_getElem? word first, wordBit]
      simp [Nat.div_eq_of_lt first, Nat.mod_eq_of_lt first]
    · -- In the rest the word is one earlier, and the bit in it is the same.
      have earlier : place / 32 = (place - 32) / 32 + 1 := by omega
      have same : place % 32 = (place - 32) % 32 := by omega
      rw [List.getElem?_append_right (by omega), width, ih, wordBit, wordBit, earlier, same,
        List.getElem?_cons_succ]

/-- A mask of a size has that many bits of the words, from the first on. -/
theorem unpackWords_getElem? (size : Nat) (words : List Int) (place : Nat) :
    (unpackWords size words)[place]? = if place < size then wordBit words place else none := by
  rw [unpackWords, List.getElem?_take, flatMap_wordBits_getElem?]

/-- The bits of the words behind those of a mask make no difference to it. -/
theorem unpackWords_eq_of_bits {size : Nat} {words others : List Int}
    (agree : ∀ place < size, wordBit words place = wordBit others place) :
    unpackWords size words = unpackWords size others := by
  -- Masks are the same if their entries are, and there are none beyond the size.
  apply List.ext_getElem?
  intro place
  rw [unpackWords_getElem?, unpackWords_getElem?]
  split
  · rename_i inside
    exact agree place inside
  · rfl

/-- A number that a signed word of 32 bits can hold. -/
def IsSignedWord (word : Int) : Prop :=
  -2 ^ 31 ≤ word ∧ word < 2 ^ 31

/-- The last bit of a word is its sign. -/
theorem IsSignedWord.last_bit {word : Int} (signed : IsSignedWord word) :
    (BitVec.ofInt 32 word).getLsbD 31 = decide (word < 0) := by
  have value : (BitVec.ofInt 32 word).toInt = word :=
    BitVec.toInt_ofInt_eq_self (by decide) signed.1 signed.2
  rw [← BitVec.msb_eq_getLsbD_last, BitVec.msb_eq_toInt, value]

namespace Matchers

variable {μ : Type} {engine : Engine μ} {state : Matchers μ}

/--
The mask of a cursor has one entry for each token, and that is the token's bit in the engine's words.

It does not matter how many tokens there are, whether an end was added behind them for the engine,
and which mask was remembered. All that is asked of the words is that there are enough of them for
the tokens that the engine knows. The last bit of a word is set just if the word is negative, and
words with the same bits for the tokens make the same mask, whatever stands behind these bits.
-/
theorem Used.mask_by_bits (used : Used engine state) {cursor : Nat} {matcher : μ}
    (found : state.matchers[cursor]? = some matcher)
    (enough : state.table.tokens.length ≤ 32 * (engine.words matcher).length) :
    state.table.Covers state.size ∧
    ∃ mask, (currentMask engine cursor state).answer = .ok mask ∧ mask.length = state.size ∧
      (∀ token < state.size, ∃ word, (engine.words matcher)[token / 32]? = some word ∧
        mask[token]? = some ((BitVec.ofInt 32 word).getLsbD (token % 32)) ∧
        (IsSignedWord word → token % 32 = 31 → (mask[token]? = some true ↔ word < 0))) ∧
      ∀ words, (∀ token < state.size, wordBit words token = wordBit (engine.words matcher) token) →
        unpackWords state.size words = mask := by
  have room : state.size ≤ 32 * (engine.words matcher).length := used.covers.le.trans enough
  -- Remembered or not, the answer is made of the words that the engine has now.
  refine ⟨used.covers, _, used.recalls.answer found, ?_, ?_, ?_⟩
  · rw [unpackWords_length]
    omega
  · intro token inside
    have within : token / 32 < (engine.words matcher).length := by omega
    obtain ⟨word, held⟩ : ∃ word, (engine.words matcher)[token / 32]? = some word :=
      ⟨_, List.getElem?_eq_getElem within⟩
    have bit : (unpackWords state.size (engine.words matcher))[token]? =
        some ((BitVec.ofInt 32 word).getLsbD (token % 32)) := by
      rw [unpackWords_getElem?, if_pos inside, wordBit, held, Option.map_some]
    refine ⟨word, held, bit, ?_⟩
    intro signed last
    rw [bit, last, signed.last_bit, Option.some.injEq, decide_eq_true_eq]
  · intro words agree
    exact unpackWords_eq_of_bits agree

end Matchers

namespace Script

/-- A pattern admits the last token of a word, and every bit behind the tokens is set. -/
def lastOfWord : Script := ⟨none, [
  ("regex:a", ⟨none, [], [], [[(31, 1)], []], [1], false, true⟩)]⟩

/-- A vocabulary with one token, the last one of a word, and without an end of text. -/
def lastVocabulary : Vocabulary :=
  ⟨[("a", 31)], [], [], .str "unknown", .none, .null⟩

/-- The oracle of that vocabulary, up to its special ids. An end was added behind the token. -/
def lastOracle (special : List Int) : Matchers ScriptedMatcher where
  table := ⟨List.replicate 31 [] ++ [[0x61], ByteTable.endMark], 32, .null, special⟩
  size := 32
  logLevel := .ok 1
  remembered := none
  cached := none
  words := [0, 0]
  matchers := []
  asked := []

end Script

namespace Matchers

/-- The last bit of a negative word admits its token, and the bits behind that one are left out. -/
theorem mask_by_bits_last :
    ∃ (state : Matchers ScriptedMatcher) (matcher : ScriptedMatcher) (mask : Mask),
      Used Script.lastOfWord.engine state ∧ state.table.tokens.length = 33 ∧
      state.matchers[0]? = some matcher ∧
      Script.lastOfWord.engine.words matcher = [-2147483648, -2] ∧
      (currentMask Script.lastOfWord.engine 0 state).answer = .ok mask ∧
      mask.length = 32 ∧ mask[30]? = some false ∧ mask[31]? = some true := by
  obtain ⟨special, made⟩ : ∃ special, make Script.lastOfWord.engine (.ok 1) Script.lastVocabulary =
      .ok (Script.lastOracle special) := ⟨_, rfl⟩
  let matcher := Script.lastOfWord.engine.matcher (Script.lastOracle special).table "regex:a" 1
  have words : Script.lastOfWord.engine.words matcher = [-2147483648, -2] := by
    -- Which ids are special makes no difference to the words.
    change Script.lastOfWord.engine.words
      (Script.lastOfWord.engine.matcher (Script.lastOracle []).table "regex:a" 1) = _
    decide
  have used := (Used.made made).compiled (Script.letter "a")
  have found : (compile Script.lastOfWord.engine (Script.letter "a")
      (Script.lastOracle special)).state.matchers[0]? = some matcher := rfl
  have enough : 33 ≤ 32 * (Script.lastOfWord.engine.words matcher).length := by
    rw [words]
    decide
  obtain ⟨_, mask, answer, length, bits, _⟩ := used.mask_by_bits found enough
  obtain ⟨word, first, bit, _⟩ := bits 30 (show 30 < 32 by decide)
  obtain ⟨last, same, _, negative⟩ := bits 31 (show 31 < 32 by decide)
  rw [words] at first same
  cases first
  cases same
  exact ⟨_, matcher, mask, used, rfl, found, words, answer, length, bit,
    (negative ⟨by decide, by decide⟩ rfl).mpr (by decide)⟩

end Matchers

end ConstrainedDecoding
