import ConstrainedDecoding.Json.Payload
import ConstrainedDecoding.Position
import ConstrainedDecoding.Vocabulary.Basic
import ConstrainedDecoding.Vocabulary.Bytes

/-! Tables of the bytes of every token, and splitting text by them. -/

namespace ConstrainedDecoding

/-- The bytes of every token by id, and the ids that mark something instead of spelling it. -/
structure ByteTable where
  tokens : List Bytes
  eos : Int
  bos : Json
  special : List Int

namespace ByteTable

/-- The bytes of an added token. A special one is not read in the byte alphabet. -/
def addedBytes (byteLevel : Bool) (token : AddedToken) : Except Text.Unencodable Bytes :=
  if token.special then Text.utf8 token.content else tokenBytes byteLevel token.content

/-- What a vocabulary writes to a table: base tokens and then added ones, the last one counting. -/
def entries (vocabulary : Vocabulary) : List (Int × Except Text.Unencodable Bytes) :=
  let byteLevel := usesByteAlphabet vocabulary.tokens.names
  vocabulary.tokens.map (fun (token, id) => ((id : Int), tokenBytes byteLevel token)) ++
    vocabulary.added.map fun token => (token.id, addedBytes byteLevel token)

/-- Bytes written to the place of an id. -/
def writeEntry (tokens : List Bytes) (entry : Int × Except Text.Unencodable Bytes) :
    Except Fault (List Bytes) := do
  replaceAt tokens entry.1 (← entry.2.mapError .unencodable)

/-- Bytes written to the place of each id in turn. -/
def write (tokens : List Bytes) (entries : List (Int × Except Text.Unencodable Bytes)) :
    Except Fault (List Bytes) :=
  entries.foldlM writeEntry tokens

/-- The bytes of an end mark that the vocabulary lacks. -/
def endMark : Bytes := Text.encodeUtf8 "<|eos|>".toList

/-- The table of a vocabulary, with room for so many tokens. An end beyond it is added. -/
def make (vocabulary : Vocabulary) (eos : Int) (count : Nat) : Except Fault ByteTable := do
  let tokens ← write (List.replicate count []) (entries vocabulary)
  if ← vocabulary.isBeyond eos then
    return { tokens := ← replaceAt tokens eos endMark, eos, bos := vocabulary.roles.bos
             special := ((eos :: vocabulary.specialIds).mergeSort (· ≤ ·)).eraseDups }
  else return { tokens, eos, bos := vocabulary.roles.bos, special := vocabulary.specialIds }

/-- A token that text may be split into: it spells something, and is not special. -/
def isLiteral (table : ByteTable) (id : Nat) (bytes : Bytes) : Bool :=
  !bytes.isEmpty && !table.special.contains id

/-- The lowest id, from one on, of a literal token with the given bytes. -/
def findFrom? (table : ByteTable) (wanted : Bytes) : Nat → List Bytes → Option Nat
  | _, [] => none
  | id, bytes :: rest =>
    if bytes = wanted && table.isLiteral id bytes then some id
    else findFrom? table wanted (id + 1) rest

/-- The lowest id of a literal token with the given bytes. -/
def literal? (table : ByteTable) (wanted : Bytes) : Option Nat :=
  table.findFrom? wanted 0 table.tokens

/-- The length of the longest token. -/
def longest (table : ByteTable) : Nat :=
  table.tokens.foldl (fun length bytes => max length bytes.length) 0

/-- The literal token that matches most of a text's beginning, up to a length, and its length. -/
def match? (table : ByteTable) (text : Bytes) : Nat → Option (Nat × Nat)
  | 0 => none
  | length + 1 =>
    match table.literal? (text.take (length + 1)) with
    | some id => some (id, length + 1)
    | none => table.match? text length

/-- A text split from left to right by the longest match. A byte without a match is dropped. -/
def encode (table : ByteTable) : Bytes → List Nat
  | [] => []
  | byte :: rest =>
    match table.match? (byte :: rest) (min table.longest (rest.length + 1)) with
    | some (id, length) => id :: encode table (rest.drop (length - 1))
    | none => encode table rest
  termination_by text => text.length
  decreasing_by
    · simp only [List.length_drop, List.length_cons]
      omega
    · exact Nat.lt_succ_self rest.length

/-- The tokens of a payload, split by its bytes. -/
def split (table : ByteTable) (payload : Payload) : Except Text.Unencodable (List Nat) :=
  payload.octets.map table.encode

end ByteTable

end ConstrainedDecoding
