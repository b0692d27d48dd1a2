import ConstrainedDecoding.Text.Basic
import ConstrainedDecoding.Text.Encoding

/-! Regular languages of byte strings, followed byte by byte through their derivatives. -/

namespace ConstrainedDecoding

/-- A regular language. A symbol is any one byte out of closed ranges. -/
inductive Regular where
  | nothing
  | empty
  | symbol (ranges : List (Nat × Nat))
  | sequence (first second : Regular)
  | choice (left right : Regular)
  | many (body : Regular)
  deriving DecidableEq

namespace Regular

/-- One language and then another, without parts that make no difference. -/
def chain : Regular → Regular → Regular
  | nothing, _ => nothing
  | _, nothing => nothing
  | empty, second => second
  | first, empty => first
  | first, second => sequence first second

/-- One language or another, without parts that make no difference. -/
def either (left right : Regular) : Regular :=
  if left = nothing then right
  else if right = nothing || left = right then left
  else choice left right

/-- The empty string is in the language. -/
def isNullable : Regular → Bool
  | nothing => false
  | empty => true
  | symbol _ => false
  | sequence first second => first.isNullable && second.isNullable
  | choice left right => left.isNullable || right.isNullable
  | many _ => true

/-- What may follow a byte. -/
def derivative (byte : UInt8) : Regular → Regular
  | nothing => nothing
  | empty => nothing
  | symbol ranges => if Text.inRanges ranges byte.toNat then empty else nothing
  | sequence first second =>
    let begun := chain (first.derivative byte) second
    if first.isNullable then either begun (second.derivative byte) else begun
  | choice left right => either (left.derivative byte) (right.derivative byte)
  | many body => chain (body.derivative byte) (many body)

/-- What may follow a byte string. -/
def after (language : Regular) (bytes : Bytes) : Regular :=
  bytes.foldl (fun rest byte => rest.derivative byte) language

/-- Some string is in the language. -/
def isInhabited : Regular → Bool
  | nothing => false
  | empty => true
  | symbol ranges => !ranges.isEmpty
  | sequence first second => first.isInhabited && second.isInhabited
  | choice left right => left.isInhabited || right.isInhabited
  | many _ => true

/-- Some string other than the empty one is in the language. -/
def isExtendable : Regular → Bool
  | nothing => false
  | empty => false
  | symbol ranges => !ranges.isEmpty
  | sequence first second =>
    first.isInhabited && second.isInhabited && (first.isExtendable || second.isExtendable)
  | choice left right => left.isExtendable || right.isExtendable
  | many body => body.isExtendable

/-- A single byte string. -/
def literal : Bytes → Regular
  | [] => empty
  | byte :: rest => chain (symbol [(byte.toNat, byte.toNat)]) (literal rest)

/-- A single text. -/
def text (chars : List Char) : Regular :=
  literal (Text.encodeUtf8 chars)

/-- Any one of several languages. -/
def anyOf : List Regular → Regular
  | [] => nothing
  | first :: rest => either first (anyOf rest)

/-- A language so many times over. -/
def times (language : Regular) : Nat → Regular
  | 0 => empty
  | count + 1 => chain language (times language count)

/-- A language at most so many times over. -/
def upTo (language : Regular) : Nat → Regular
  | 0 => empty
  | count + 1 => either empty (chain language (upTo language count))

/-- A language at least once. -/
def oneOrMore (language : Regular) : Regular :=
  chain language (many language)

/-- A language at most once. -/
def optional (language : Regular) : Regular :=
  either empty language

end Regular

end ConstrainedDecoding
