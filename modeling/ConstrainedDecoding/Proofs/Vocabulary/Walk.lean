import Mathlib.Data.List.Infix
import ConstrainedDecoding.Proofs.Vocabulary.Table

/-! Walking a text from left to right by the longest of the tokens that it may be split into. -/

namespace ConstrainedDecoding

/-- A part of a text: a token with its bytes, or a byte that was dropped. -/
inductive Piece where
  | token (id : Nat) (bytes : Bytes)
  | dropped (byte : UInt8)

namespace Piece

/-- The bytes of a text that a part stands for. -/
def bytes : Piece → Bytes
  | token _ bytes => bytes
  | dropped byte => [byte]

/-- The token of a part, unless the part was dropped. -/
def id? : Piece → Option Nat
  | token id _ => some id
  | dropped _ => none

end Piece

/-- Which tokens a text may be split into, with the bytes that they spell. -/
abbrev Spelling : Type :=
  Nat → Bytes → Prop

/-- The token of the lowest id among those that spell most of the beginning of a text. -/
structure Spelling.IsLongest (spelling : Spelling) (text : Bytes) (id : Nat) (bytes : Bytes) :
    Prop where
  spelled : spelling id bytes
  starts : bytes <+: text
  longest : ∀ other spelled, spelling other spelled → spelled <+: text →
    spelled.length ≤ bytes.length
  lowest : ∀ other, spelling other bytes → id ≤ other

/-- A text begins with one longest token at most. -/
theorem Spelling.IsLongest.unique {spelling : Spelling} {text : Bytes} {id other : Nat}
    {bytes others : Bytes} (first : spelling.IsLongest text id bytes)
    (second : spelling.IsLongest text other others) : id = other ∧ bytes = others := by
  have shorter := second.longest id bytes first.spelled first.starts
  have longer := first.longest other others second.spelled second.starts
  -- Two beginnings of one text are the same if they are as long as each other.
  obtain rfl : bytes = others :=
    (List.prefix_of_prefix_length_le first.starts second.starts shorter).eq_of_length
      (Nat.le_antisymm shorter longer)
  exact ⟨Nat.le_antisymm (first.lowest other second.spelled) (second.lowest id first.spelled), rfl⟩

/-- A text is taken from left to right by its longest tokens. A byte is dropped where none starts. -/
inductive Walk (spelling : Spelling) : Bytes → List Piece → Prop
  | done : Walk spelling [] []
  | token {id : Nat} {bytes rest : Bytes} {pieces : List Piece}
      (longest : spelling.IsLongest (bytes ++ rest) id bytes) (walk : Walk spelling rest pieces) :
      Walk spelling (bytes ++ rest) (.token id bytes :: pieces)
  | dropped {byte : UInt8} {rest : Bytes} {pieces : List Piece}
      (uncovered : ∀ id bytes, spelling id bytes → ¬bytes <+: byte :: rest)
      (walk : Walk spelling rest pieces) :
      Walk spelling (byte :: rest) (.dropped byte :: pieces)

namespace Walk

variable {spelling : Spelling} {text : Bytes} {pieces : List Piece}

/-- A walk begins with the longest token, and goes on with what comes after its bytes. -/
theorem take {id : Nat} {bytes rest : Bytes} (parts : bytes ++ rest = text)
    (longest : spelling.IsLongest text id bytes) (walk : Walk spelling rest pieces) :
    Walk spelling text (.token id bytes :: pieces) := by
  subst parts
  exact .token longest walk

/-- The parts of a text make up the text. -/
theorem bytes_eq (walk : Walk spelling text pieces) : pieces.flatMap Piece.bytes = text := by
  -- Each part stands for the bytes that it was taken for.
  induction walk with
  | done => rfl
  | token _ _ ih => rw [List.flatMap_cons, ih, Piece.bytes]
  | dropped _ _ ih => rw [List.flatMap_cons, ih, Piece.bytes, List.singleton_append]

/-- Each token among the parts is the longest one that what was left of the text begins with. -/
theorem longest (walk : Walk spelling text pieces) {id : Nat} {bytes : Bytes}
    (member : .token id bytes ∈ pieces) : ∃ left, spelling.IsLongest left id bytes := by
  -- The token is the first part, or one of those that come later.
  induction walk with
  | done => cases member
  | token longest _ ih =>
    rcases List.mem_cons.mp member with same | later
    · cases same
      exact ⟨_, longest⟩
    · exact ih later
  | dropped _ _ ih =>
    rcases List.mem_cons.mp member with same | later
    · cases same
    · exact ih later

/-- No byte is dropped from a text whose bytes are tokens of their own. -/
theorem covered (walk : Walk spelling text pieces)
    (single : ∀ byte ∈ text, ∃ id, spelling id [byte]) :
    ∀ piece ∈ pieces, ∃ id bytes, piece = .token id bytes := by
  induction walk with
  | done => nofun
  | @token id bytes rest pieces _ _ ih =>
    intro piece member
    rcases List.mem_cons.mp member with rfl | later
    · exact ⟨id, bytes, rfl⟩
    · exact ih (fun byte inside => single byte (List.mem_append_right _ inside)) piece later
  | @dropped byte rest pieces uncovered _ _ =>
    -- The token of the byte itself would start here.
    obtain ⟨id, spells⟩ := single byte List.mem_cons_self
    exact absurd (List.prefix_append [byte] rest) (uncovered id [byte] spells)

/-- Texts that are the same are walked in the same way, if no token is empty. -/
theorem unique (filled : ∀ id, ¬spelling id []) (walk : Walk spelling text pieces) {same : Bytes}
    {others : List Piece} (other : Walk spelling same others) (equal : same = text) :
    others = pieces := by
  induction walk generalizing same others with
  | done =>
    cases other with
    | done => rfl
    | token longest _ =>
      obtain ⟨rfl, -⟩ := List.append_eq_nil_iff.mp equal
      exact absurd longest.spelled (filled _)
    | dropped _ _ => cases equal
  | token longest _ ih =>
    cases other with
    | done =>
      obtain ⟨rfl, -⟩ := List.append_eq_nil_iff.mp equal.symm
      exact absurd longest.spelled (filled _)
    | token otherLongest otherWalk =>
      -- Both walks begin with the same token, and so they have the same text left.
      rw [equal] at otherLongest
      obtain ⟨rfl, rfl⟩ := otherLongest.unique longest
      rw [ih otherWalk (List.append_cancel_left equal)]
    | dropped uncovered _ =>
      rw [equal] at uncovered
      exact absurd longest.starts (uncovered _ _ longest.spelled)
  | dropped uncovered _ ih =>
    cases other with
    | done => cases equal
    | token longest _ =>
      rw [← equal] at uncovered
      exact absurd longest.starts (uncovered _ _ longest.spelled)
    | dropped _ otherWalk =>
      obtain ⟨rfl, rest⟩ := List.cons.inj equal
      rw [ih otherWalk rest]

end Walk

namespace ByteTable

variable {table : ByteTable}

/-- The tokens that a text may be split into: those that spell something and are not special. -/
def Literal (table : ByteTable) : Spelling := fun id bytes =>
  table.tokens[id]? = some bytes ∧ table.isLiteral id bytes = true

/-- Literal are the tokens with bytes that are not special. -/
theorem isLiteral_iff {id : Nat} {bytes : Bytes} :
    table.isLiteral id bytes = true ↔ bytes ≠ [] ∧ (id : Int) ∉ table.special := by
  simp [isLiteral]

/-- A token that a text may be split into spells something. -/
theorem Literal.ne_nil {id : Nat} {bytes : Bytes} (literal : table.Literal id bytes) :
    bytes ≠ [] :=
  (isLiteral_iff.mp literal.2).1

/-- A token that is found has the wanted bytes, and no other with these comes before it. -/
theorem findFrom?_some {wanted : Bytes} {start id : Nat} {tokens : List Bytes}
    (found : table.findFrom? wanted start tokens = some id) :
    (∃ place, id = start + place ∧ tokens[place]? = some wanted) ∧
      table.isLiteral id wanted = true ∧
      ∀ place, tokens[place]? = some wanted → table.isLiteral (start + place) wanted = true →
        id ≤ start + place := by
  -- The search moves on with the id that the tokens are counted from.
  induction tokens generalizing start with
  | nil => cases found
  | cons bytes rest ih =>
    rw [findFrom?] at found
    split at found
    · rename_i met
      obtain rfl := Option.some.inj found
      obtain ⟨rfl, literal⟩ : bytes = wanted ∧ table.isLiteral start bytes = true := by
        simpa using met
      exact ⟨⟨0, rfl, rfl⟩, literal, fun place _ _ => Nat.le_add_right start place⟩
    · rename_i unmet
      obtain ⟨⟨place, rfl, inside⟩, literal, lowest⟩ := ih found
      refine ⟨⟨place + 1, by omega, inside⟩, literal, fun other spelled also => ?_⟩
      cases other with
      | zero =>
        -- The first token is not what is wanted.
        obtain rfl := Option.some.inj spelled
        exact absurd also (by simpa using unmet)
      | succ other =>
        have le := lowest other spelled (by rwa [Nat.add_assoc, Nat.add_comm 1])
        omega

/-- If no token is found, none has the wanted bytes. -/
theorem findFrom?_none {wanted : Bytes} {start : Nat} {tokens : List Bytes}
    (missing : table.findFrom? wanted start tokens = none) (place : Nat)
    (spelled : tokens[place]? = some wanted) : table.isLiteral (start + place) wanted ≠ true := by
  -- A token that is passed over has other bytes, or it is not literal.
  induction tokens generalizing start place with
  | nil => cases spelled
  | cons bytes rest ih =>
    rw [findFrom?] at missing
    split at missing
    · cases missing
    · rename_i unmet
      cases place with
      | zero =>
        obtain rfl := Option.some.inj spelled
        simpa using unmet
      | succ place =>
        have later := ih missing place spelled
        rwa [Nat.add_assoc, Nat.add_comm 1] at later

/-- The token of some bytes is the lowest one that text may be split into. -/
theorem literal?_eq_some_iff {wanted : Bytes} {id : Nat} :
    table.literal? wanted = some id ↔
      table.Literal id wanted ∧ ∀ other, table.Literal other wanted → id ≤ other := by
  -- The search goes through all tokens, counted from zero.
  constructor
  · intro found
    obtain ⟨⟨place, rfl, spelled⟩, literal, lowest⟩ := findFrom?_some found
    rw [Nat.zero_add] at literal lowest ⊢
    exact ⟨⟨spelled, literal⟩, fun other also => by
      simpa using lowest other also.1 (by simpa using also.2)⟩
  · rintro ⟨literal, lowest⟩
    cases found : table.literal? wanted with
    | none => exact absurd (by simpa using literal.2) (findFrom?_none found id literal.1)
    | some other =>
      obtain ⟨⟨place, rfl, spelled⟩, also, least⟩ := findFrom?_some found
      have le := least id literal.1 (by simpa using literal.2)
      have ge := lowest (0 + place) ⟨by simpa using spelled, also⟩
      congr
      omega

/-- There is no token of some bytes if text may be split into none that spells them. -/
theorem literal?_eq_none_iff {wanted : Bytes} :
    table.literal? wanted = none ↔ ∀ id, ¬table.Literal id wanted := by
  -- A search that ends without a token has passed over all of them.
  constructor
  · intro missing id literal
    exact findFrom?_none missing id literal.1 (by simpa using literal.2)
  · intro absent
    cases found : table.literal? wanted with
    | none => rfl
    | some id => exact absurd (literal?_eq_some_iff.mp found).1 (absent id)

/-- No token is longer than the longest one. -/
theorem Literal.length_le {id : Nat} {bytes : Bytes} (literal : table.Literal id bytes) :
    bytes.length ≤ table.longest :=
  (le_foldl_max List.length table.tokens 0).2 bytes (List.mem_of_getElem? literal.1)

/-- A match is that of a token, and there is none for more of the text up to the limit. -/
theorem match?_some {text : Bytes} {limit id length : Nat}
    (found : table.match? text limit = some (id, length)) :
    0 < length ∧ length ≤ limit ∧ table.literal? (text.take length) = some id ∧
      ∀ longer, length < longer → longer ≤ limit → table.literal? (text.take longer) = none := by
  induction limit with
  | zero => cases found
  | succ limit ih =>
    rw [match?] at found
    split at found
    · rename_i literal
      obtain ⟨rfl, rfl⟩ := Prod.mk.inj (Option.some.inj found)
      exact ⟨Nat.succ_pos limit, le_rfl, literal, fun longer above within => by omega⟩
    · -- The limit itself is not matched, so the search goes on below it.
      rename_i unmatched
      obtain ⟨positive, within, literal, longest⟩ := ih found
      refine ⟨positive, by omega, literal, fun longer above inside => ?_⟩
      rcases Nat.lt_or_ge limit longer with atLimit | below
      · obtain rfl : longer = limit + 1 := by omega
        exact unmatched
      · exact longest longer above below

/-- Without a match, no part of the text up to the limit is a token. -/
theorem match?_none {text : Bytes} {limit : Nat} (missing : table.match? text limit = none)
    {length : Nat} (positive : 0 < length) (within : length ≤ limit) :
    table.literal? (text.take length) = none := by
  -- Every length up to the limit is looked at before the search gives up.
  induction limit with
  | zero => omega
  | succ limit ih =>
    rw [match?] at missing
    split at missing
    · cases missing
    · rename_i unmatched
      rcases Nat.lt_or_ge limit length with atLimit | below
      · obtain rfl : length = limit + 1 := by omega
        exact unmatched
      · exact ih missing below

/-- Tokens that a text begins with are looked for: none of them is empty or beyond the limit. -/
theorem Literal.within {text : Bytes} {id : Nat} {bytes : Bytes}
    (literal : table.Literal id bytes) (starts : bytes <+: text) :
    0 < bytes.length ∧ bytes.length ≤ min table.longest text.length ∧
      text.take bytes.length = bytes :=
  ⟨List.length_pos_iff.mpr literal.ne_nil, Nat.le_min.mpr ⟨literal.length_le, starts.length_le⟩,
    (List.prefix_iff_eq_take.mp starts).symm⟩

/-- What is matched is the longest token that the text begins with. -/
theorem isLongest_of_match? {text : Bytes} {id length : Nat}
    (found : table.match? text (min table.longest text.length) = some (id, length)) :
    table.Literal.IsLongest text id (text.take length) := by
  obtain ⟨_, within, matched, longest⟩ := match?_some found
  obtain ⟨literal, lowest⟩ := literal?_eq_some_iff.mp matched
  refine ⟨literal, List.take_prefix length text, fun other spelled also starts => ?_, lowest⟩
  have inside := also.within starts
  rw [List.length_take]
  by_contra longer
  -- A longer token would have been matched before.
  have absent := longest spelled.length (by omega) inside.2.1
  rw [inside.2.2, literal?_eq_none_iff] at absent
  exact absent other also

/-- Without a match, the text begins with no token. -/
theorem uncovered_of_match? {text : Bytes}
    (missing : table.match? text (min table.longest text.length) = none) (id : Nat) (bytes : Bytes)
    (literal : table.Literal id bytes) : ¬bytes <+: text := by
  -- A token at the beginning of the text would be within the limit, and so it would be matched.
  intro starts
  obtain ⟨positive, within, taken⟩ := literal.within starts
  have absent := match?_none missing positive within
  rw [taken, literal?_eq_none_iff] at absent
  exact absent id literal

/-- Splitting a text is walking it by its longest tokens. -/
theorem encode_walk (table : ByteTable) (text : Bytes) :
    ∃ pieces, Walk table.Literal text pieces ∧ table.encode text = pieces.filterMap Piece.id? := by
  -- The cases are those of a turn of the loop: the end, a match, and a byte without one.
  induction text using encode.induct table with
  | case1 => exact ⟨[], .done, by simp [encode]⟩
  | case2 byte rest id length found ih =>
    obtain ⟨pieces, walk, encoded⟩ := ih
    have longest : table.Literal.IsLongest (byte :: rest) id ((byte :: rest).take length) :=
      isLongest_of_match? found
    have positive := (match?_some found).1
    -- Moving past the match leaves what comes after its bytes.
    have left : rest.drop (length - 1) = (byte :: rest).drop length := by
      obtain ⟨length, rfl⟩ := Nat.exists_eq_add_one_of_ne_zero positive.ne'
      rfl
    rw [left] at walk encoded
    refine ⟨_, .take (List.take_append_drop length (byte :: rest)) longest walk, ?_⟩
    rw [encode]
    simp only [found, left, encoded]
    rfl
  | case3 byte rest missing ih =>
    obtain ⟨pieces, walk, encoded⟩ := ih
    refine ⟨_, .dropped (uncovered_of_match? missing) walk, ?_⟩
    rw [encode]
    simp only [missing, encoded]
    rfl

/-- The bytes of a token are split into that token if it is the lowest one that spells them. -/
theorem encode_of_literal? {bytes : Bytes} {id : Nat} (found : table.literal? bytes = some id) :
    table.encode bytes = [id] := by
  obtain ⟨literal, lowest⟩ := literal?_eq_some_iff.mp found
  have longest : table.Literal.IsLongest bytes id bytes :=
    ⟨literal, List.prefix_rfl, fun _ _ _ starts => starts.length_le, lowest⟩
  obtain ⟨pieces, walk, encoded⟩ := encode_walk table bytes
  -- There is one walk only, and taking the token at once is a walk.
  have one : Walk table.Literal bytes [.token id bytes] :=
    .take (List.append_nil bytes) longest .done
  rw [encoded, one.unique (fun _ empty => empty.ne_nil rfl) walk rfl]
  rfl

/-- Some payload is split into a token just if that is the lowest one that spells its bytes. -/
theorem exists_split_iff {id : Nat} :
    (∃ payload ids, table.split payload = .ok ids ∧ id ∈ ids) ↔
      ∃ bytes, table.literal? bytes = some id := by
  constructor
  · -- Each id of a text is that of a part of the walk, which took the lowest one.
    rintro ⟨payload, ids, splits, member⟩
    rw [split] at splits
    cases octets : payload.octets with
    | error surrogates => simp [octets, Except.map] at splits
    | ok text =>
      obtain ⟨pieces, walk, encoded⟩ := encode_walk table text
      rw [octets, Except.map, encoded] at splits
      obtain rfl := Except.ok.inj splits
      obtain ⟨piece, inside, own⟩ := List.mem_filterMap.mp member
      cases piece with
      | token other bytes =>
        obtain rfl := Option.some.inj own
        obtain ⟨_, longest⟩ := walk.longest inside
        exact ⟨bytes, literal?_eq_some_iff.mpr ⟨longest.spelled, longest.lowest⟩⟩
      | dropped byte => cases own
  · -- The bytes themselves are such a payload.
    rintro ⟨bytes, found⟩
    exact ⟨.bytes bytes, [id], congrArg Except.ok (encode_of_literal? found),
      List.mem_singleton_self id⟩

end ByteTable

end ConstrainedDecoding
