import ConstrainedDecoding.Oracle.Basic
import ConstrainedDecoding.Vocabulary.ByteTable

/-! Grammar engines: grammar texts become matchers, and matchers give bitmasks. -/

namespace ConstrainedDecoding

/-- An engine whose matchers are values of type `μ`. An empty error text stands for no error. -/
structure Engine (μ : Type) where
  /-- Whether the engine can work with a table of tokens. -/
  accepts : ByteTable → Except Fault Unit
  /-- The engine's own text of a grammar of a kind, or what is wrong with it. -/
  convert : Text → Text → Except Text Text
  /-- What is wrong with an engine text. -/
  validate : ByteTable → Text → Text
  /-- A matcher at the start of an engine text, with a log level. -/
  matcher : ByteTable → Text → Int → μ
  error : μ → Text
  accepting : μ → Bool
  stopReason : μ → Text
  /-- Whether a matcher takes a token, and the matcher after that. -/
  consume : Int → μ → Bool × μ
  /-- A matcher back at its start. -/
  rewind : μ → μ
  /-- The tokens that may follow, as bits of signed words of 32 bits. -/
  words : μ → List Int

/-- A use of an engine that leaves a trace. -/
inductive EngineCall where
  | convert
  | validate
  | matcher (logLevel : Int)
  | fill
  | consume
  | rewind
  deriving DecidableEq

/-- The bits of a word from the lowest on, a negative word in two's complement. -/
def wordBits (word : Int) : List Bool :=
  (List.range 32).map fun shift => Int.shiftRight word shift % 2 = 1

/-- The first bits of words as a mask. -/
def unpackWords (size : Nat) (words : List Int) : Mask :=
  (words.flatMap wordBits).take size

/-- The number that bits from the lowest on denote. -/
def bitsNumber : List Bool → Nat
  | [] => 0
  | bit :: rest => (if bit then 1 else 0) + 2 * bitsNumber rest

/-- The signed word with the given 32 bits. -/
def packWord (bits : List Bool) : Int :=
  let number := bitsNumber bits
  if number < twoPow 31 then number else number - twoPow 32

/-- The words that a table of tokens needs. -/
def wordCount (table : ByteTable) : Nat :=
  (table.tokens.length + 31) / 32

/-- The words whose bits are set where a condition holds. -/
def packWords (count : Nat) (isSet : Nat → Bool) : List Int :=
  (List.range count).map fun word =>
    packWord ((List.range 32).map fun bit => isSet (32 * word + bit))

end ConstrainedDecoding
