import ConstrainedDecoding.Position
import ConstrainedDecoding.Proofs.Vocabulary.RoundTrip
import ConstrainedDecoding.Proofs.Vocabulary.Table
import ConstrainedDecoding.Tokenizer.File
import ConstrainedDecoding.Tokenizer.Running
import ConstrainedDecoding.Vocabulary.ByteTable
import ConstrainedDecoding.Vocabulary.Loose

/-! The ids of accepted vocabularies, as positions in masks and in tables of tokens. -/

namespace ConstrainedDecoding

/-- The place of an index that fits is that of its number just if it is not negative. -/
theorem position?_own {room : Nat} {index : Int} (fits : index < room) :
    (∃ place : Nat, position? room index = some place ∧ (place : Int) = index) ↔ 0 ≤ index := by
  -- Only a negative index is counted from the end.
  constructor
  · rintro ⟨place, _, rfl⟩
    exact Int.natCast_nonneg place
  · intro positive
    obtain ⟨place, rfl⟩ := Int.eq_ofNat_of_zero_le positive
    exact ⟨place, position?_natCast (Int.ofNat_lt.mp fits), rfl⟩

namespace Json

variable {left right : Json} {first second : Int}

/-- The value is an integer. A truth value counts as zero or one. -/
def IsInteger (json : Json) (value : Int) : Prop :=
  json.number? = some (.int value)

/-- A value is one integer at most. -/
theorem IsInteger.unique (one : left.IsInteger first) (other : left.IsInteger second) :
    first = second :=
  Number.int.inj (Option.some.inj (one.symm.trans other))

/-- Integers are equal by value. -/
theorem IsInteger.same_iff (one : left.IsInteger first) (other : right.IsInteger second) :
    left.same right = true ↔ first = second := by
  have values : left.same right = (Number.int first).matches (.int second) := by
    -- Truth values and integers are all that counts as an integer.
    cases left <;> cases one <;> cases right <;> cases other <;> rfl
  simp only [values, Number.matches, Number.same, Number.le, Bool.and_eq_true, decide_eq_true_eq]
  omega

/-- The greater one of two integers is the second one only if that is above the first. -/
theorem IsInteger.greater_eq (one : left.IsInteger first) (other : right.IsInteger second) :
    left.greater right = .ok (if first < second then right else left) := by
  -- Truth values count as integers, so there are four cases that compare alike.
  have above : right.above? left =
      some ((Number.int first).le (.int second) && !(Number.int second).le (.int first)) := by
    cases left <;> cases one <;> cases right <;> cases other <;> rfl
  rw [Json.greater, above]
  by_cases less : first < second
  · simp [Number.le, less, less.le]
  · simp [Number.le, less, not_lt.mp less]

/-- The greater one of two integers, both written as such. -/
theorem greater_int (first second : Int) :
    (int first).greater (int second) = .ok (int (max first second)) := by
  have one : (int first).IsInteger first := rfl
  have other : (int second).IsInteger second := rfl
  rw [one.greater_eq other]
  -- The greater one is the maximum, in either order.
  split
  · rename_i less
    rw [max_eq_right less.le]
  · rename_i notLess
    rw [max_eq_left (not_lt.mp notLess)]

/-- The greater one of two integers is an integer. -/
theorem IsInteger.greater (one : left.IsInteger first) (other : right.IsInteger second) :
    ∃ result, left.greater right = .ok result ∧ result.IsInteger (max first second) := by
  rw [one.greater_eq other]
  refine ⟨_, rfl, ?_⟩
  -- The greater one is the maximum, in either order.
  split
  · rename_i less
    rwa [max_eq_right less.le]
  · rename_i notLess
    rwa [max_eq_left (not_lt.mp notLess)]

end Json

/-- The id of a role that was checked is known. -/
theorem Vocabulary.isKnown_of_checkRole {isKnown : Json → Bool} {role : Text × Json}
    (checked : checkRole isKnown role = .ok ()) : isKnown role.2 = true := by
  obtain ⟨_, _, checked⟩ := bind_eq_ok_iff.mp checked
  split at checked
  · assumption
  · cases checked

namespace LooseVocabulary

/-- The greatest of some integers, each written as such, is the greatest of their values. -/
theorem greatest_int (first : Int) (rest : List Int) :
    greatest (.int first) (rest.map .int) = .ok (.int (rest.foldl max first)) := by
  -- By induction: the greatest one so far goes on.
  induction rest generalizing first with
  | nil => rfl
  | cons second rest ih =>
    rw [List.map_cons, greatest, List.foldlM_cons, Json.greater_int]
    exact ih (max first second)

/-- The greatest of some integers is an integer that none of them is above. -/
theorem greatest_spec {first : Json} {rest : List Json}
    (integers : ∀ value ∈ first :: rest, ∃ number, value.IsInteger number) :
    ∃ result number, greatest first rest = .ok result ∧ result.IsInteger number ∧
      ∀ value ∈ first :: rest, ∀ other, value.IsInteger other → other ≤ number := by
  induction rest generalizing first with
  | nil =>
    obtain ⟨number, integer⟩ := integers first List.mem_cons_self
    refine ⟨first, number, rfl, integer, fun value member other isOther => ?_⟩
    obtain rfl := List.mem_singleton.mp member
    exact (isOther.unique integer).le
  | cons second rest ih =>
    obtain ⟨number, integer⟩ := integers first List.mem_cons_self
    obtain ⟨other, otherInteger⟩ := integers second (by simp)
    obtain ⟨top, greater, topInteger⟩ := integer.greater otherInteger
    -- The greater one of the first two takes their place.
    obtain ⟨result, last, found, isLast, above⟩ := @ih top (by
      intro value member
      rcases List.mem_cons.mp member with rfl | later
      · exact ⟨_, topInteger⟩
      · exact integers value (by simp [later]))
    refine ⟨result, last, ?_, isLast, ?_⟩
    · rw [greatest, List.foldlM_cons, greater]
      exact found
    · have top_le := above top List.mem_cons_self _ topInteger
      intro value member given isGiven
      rcases List.mem_cons.mp member with rfl | member
      · obtain rfl := isGiven.unique integer
        exact (le_max_left _ _).trans top_le
      · rcases List.mem_cons.mp member with rfl | later
        · obtain rfl := isGiven.unique otherInteger
          exact (le_max_right _ _).trans top_le
        · exact above value (List.mem_cons_of_mem _ later) given isGiven

/-- The greatest id is an integer that no id is above, if the added tokens have integers as ids. -/
theorem greatestId_spec {vocabulary : LooseVocabulary}
    (integers : ∀ token ∈ vocabulary.added, ∃ number, token.id.IsInteger number) :
    ∃ result number, vocabulary.greatestId = .ok result ∧ result.IsInteger number ∧
      (∀ token ∈ vocabulary.tokens, (token.2 : Int) ≤ number) ∧
      ∀ token ∈ vocabulary.added, ∀ other, token.id.IsInteger other → other ≤ number := by
  -- The greatest id of the added tokens, if there are any, is compared with that of the others.
  obtain ⟨_, base_le⟩ := le_foldl_max (fun token => (token.2 : Int)) vocabulary.tokens (-1)
  cases listed : vocabulary.added with
  | nil =>
    refine ⟨vocabulary.greatestBase, _, ?_, rfl, base_le, nofun⟩
    rw [greatestId, listed]
    rfl
  | cons first rest =>
    rw [listed] at integers
    have ids : ∀ value ∈ first.id :: rest.map (·.id), ∃ number, value.IsInteger number := by
      rw [← List.map_cons, List.forall_mem_map]
      exact integers
    obtain ⟨top, number, found, integer, above⟩ := greatest_spec ids
    have base : vocabulary.greatestBase.IsInteger _ := rfl
    obtain ⟨result, greater, isInteger⟩ := base.greater integer
    refine ⟨result, _, ?_, isInteger, fun token member => ?_, fun token member other isOther => ?_⟩
    · rw [greatestId, listed, List.map_cons]
      simp only [found]
      exact greater
    · exact (base_le token member).trans (le_max_left _ _)
    · have among : token.id ∈ first.id :: rest.map (·.id) := by
        rw [← List.map_cons]
        exact List.mem_map_of_mem member
      exact (above token.id among other isOther).trans (le_max_right _ _)

/-- What a vocabulary needs for its size to be an integer: ids and explicit sizes that are. -/
structure IsIntegral (vocabulary : LooseVocabulary) : Prop where
  added : ∀ token ∈ vocabulary.added, ∃ number, token.id.IsInteger number
  roles : ∀ role ∈ vocabulary.roles.resolved, ∃ number, role.2.IsInteger number
  explicitSize : vocabulary.explicitSize.isNull = true ∨
    ∃ number, vocabulary.explicitSize.IsInteger number

/-- The size is an integer, and every token has an id below it. -/
theorem size_spec {vocabulary : LooseVocabulary} (integral : vocabulary.IsIntegral) :
    ∃ result size, vocabulary.size = .ok result ∧ result.IsInteger size ∧
      (∀ token ∈ vocabulary.tokens, (token.2 : Int) < size) ∧
      ∀ token ∈ vocabulary.added, ∀ number, token.id.IsInteger number → number < size := by
  obtain ⟨greatest, number, found, integer, base_le, added_le⟩ := greatestId_spec integral.added
  -- One more than the greatest id is an integer, and so is what it is compared with.
  have next : successor greatest = .ok (.int (number + 1)) := by
    cases greatest with
    | bool flag => cases integer; cases flag <;> rfl
    | int value => cases integer; rfl
    | _ => cases integer
  -- Without an explicit size, or with zero for one, nothing is declared.
  have explicit : ∃ declared, (vocabulary.explicitSize.orElse (.int 0)).IsInteger declared := by
    unfold Json.orElse
    split
    · rename_i truthy
      refine integral.explicitSize.resolve_left fun isNull => ?_
      cases given : vocabulary.explicitSize <;> simp_all [Json.isNull, Json.isTruthy]
    · exact ⟨0, rfl⟩
  obtain ⟨declared, isDeclared⟩ := explicit
  have isNext : (Json.int (number + 1)).IsInteger (number + 1) := rfl
  obtain ⟨result, greater, isResult⟩ := isNext.greater isDeclared
  refine ⟨result, _, ?_, isResult, fun token member => ?_, fun token member id isId => ?_⟩
  · rw [size, found]
    simp only [Bind.bind, Except.bind, next]
    exact greater
  · have le := base_le token member
    omega
  · have le := added_le token member id isId
    omega

/-- The id of every resolved role is that of a base token or of an added one. -/
def RolesKnown (vocabulary : LooseVocabulary) : Prop :=
  ∀ role ∈ vocabulary.roles.resolved,
    isKnownId vocabulary.tokens vocabulary.added role.2 = true

/-- The ids that a vocabulary carries: of its base tokens, its added tokens and its roles. -/
def ids (vocabulary : LooseVocabulary) : List Json :=
  vocabulary.tokens.map (fun token => .int token.2) ++ vocabulary.added.map (·.id) ++
    vocabulary.roles.resolved.map (·.2)

/-- Every id is an integer, and it is that of a base token or of an added one. -/
theorem RolesKnown.exists_token {vocabulary : LooseVocabulary} (known : vocabulary.RolesKnown)
    (integral : vocabulary.IsIntegral) {id : Json} (carried : id ∈ vocabulary.ids) :
    ∃ number, id.IsInteger number ∧ ((∃ token ∈ vocabulary.tokens, number = token.2) ∨
      ∃ token ∈ vocabulary.added, token.id.IsInteger number) := by
  rw [ids, List.mem_append, List.mem_append, List.mem_map, List.mem_map, List.mem_map] at carried
  rcases carried with (⟨token, member, rfl⟩ | ⟨token, member, rfl⟩) | ⟨role, resolved, rfl⟩
  · exact ⟨token.2, rfl, .inl ⟨token, member, rfl⟩⟩
  · obtain ⟨number, integer⟩ := integral.added token member
    exact ⟨number, integer, .inr ⟨token, member, integer⟩⟩
  · -- The id of a role was looked for among those of the tokens.
    obtain ⟨number, integer⟩ := integral.roles role resolved
    refine ⟨number, integer, ?_⟩
    have found := known role resolved
    rw [isKnownId, Bool.or_eq_true, List.any_eq_true, List.any_eq_true] at found
    rcases found with ⟨token, member, same⟩ | ⟨token, member, same⟩
    · have isToken : (Json.int token.2).IsInteger token.2 := rfl
      exact .inl ⟨token, member, ((isToken.same_iff integer).mp same).symm⟩
    · obtain ⟨other, isOther⟩ := integral.added token member
      obtain rfl := (isOther.same_iff integer).mp same
      exact .inr ⟨token, member, isOther⟩

/-- The roles of a vocabulary are known if it was made from its parts. -/
theorem rolesKnown_of_make {tokens merges : Json} {added : List LooseToken} {modelType : Json}
    {roles : RoleIds} {explicitSize : Json} {vocabulary : LooseVocabulary}
    (made : make tokens merges added modelType roles explicitSize = .ok vocabulary) :
    vocabulary.RolesKnown := by
  obtain ⟨entries, _, made⟩ := bind_eq_ok_iff.mp made
  obtain ⟨ids, _, made⟩ := bind_eq_ok_iff.mp made
  obtain ⟨rules, _, made⟩ := bind_eq_ok_iff.mp made
  obtain ⟨_, _, made⟩ := bind_eq_ok_iff.mp made
  obtain ⟨_, checked, done⟩ := bind_eq_ok_iff.mp made
  cases done
  -- The roles were checked last, one after the other.
  intro role resolved
  exact Vocabulary.isKnown_of_checkRole (forM_eq_ok_iff.mp checked role resolved)

/-- The roles of a vocabulary are known if it was put together by hand. -/
theorem rolesKnown_of_ofFields {fields : Fields Json} {vocabulary : LooseVocabulary}
    (made : ofFields fields = .ok vocabulary) : vocabulary.RolesKnown := by
  obtain ⟨entries, _, made⟩ := bind_eq_ok_iff.mp made
  obtain ⟨added, _, made⟩ := bind_eq_ok_iff.mp made
  -- The roles are checked when the vocabulary is made, whatever was read before.
  split at made
  · exact rolesKnown_of_make made
  · cases made
  · cases made

end LooseVocabulary

namespace Vocabulary

/-- An added token with parts of any kind. -/
def looseToken (token : AddedToken) : LooseToken :=
  ⟨.int token.id, .str token.content, .bool token.singleWord, .bool token.lstrip,
    .bool token.rstrip, .bool token.normalized, .bool token.special⟩

/-- A vocabulary as one whose parts may be of any kind. -/
def asLoose (vocabulary : Vocabulary) : LooseVocabulary :=
  ⟨vocabulary.tokens.map fun token => (.str token.1, token.2), vocabulary.merges,
    vocabulary.added.map looseToken, vocabulary.modelType, vocabulary.roles,
    vocabulary.explicitSize⟩

/-- The roles of a vocabulary are known if they were checked. -/
theorem rolesKnown_of_checked {vocabulary : Vocabulary}
    (checked : vocabulary.roles.resolved.forM
      (checkRole (isKnownId vocabulary.tokens vocabulary.added)) = .ok ()) :
    vocabulary.asLoose.RolesKnown := by
  intro role resolved
  have known := isKnown_of_checkRole (forM_eq_ok_iff.mp checked role resolved)
  simpa [LooseVocabulary.isKnownId, asLoose, looseToken, isKnownId, Function.comp_def] using known

/-- The roles of a vocabulary are known if it was made from its parts. -/
theorem rolesKnown_of_make {tokens : Fields Json} {merges : Live} {added : List AddedToken}
    {modelType explicitSize : Json} {roles : RoleIds} {vocabulary : Vocabulary}
    (made : make tokens merges added modelType roles explicitSize = .ok vocabulary) :
    vocabulary.asLoose.RolesKnown := by
  obtain ⟨ids, rules, _, _, checked, rfl⟩ := make_eq_ok_iff.mp made
  exact rolesKnown_of_checked checked

/-- The size is the same if parts may be of any kind. -/
theorem size_asLoose (vocabulary : Vocabulary) : vocabulary.asLoose.size = vocabulary.size := by
  have ids : vocabulary.asLoose.added.map (·.id) =
      (vocabulary.added.map (·.id)).map .int := by
    simp [asLoose, looseToken]
  have base : vocabulary.asLoose.greatestBase = .int
      (vocabulary.tokens.foldl (fun greatest token => max greatest (token.2 : Int)) (-1)) := by
    rw [LooseVocabulary.greatestBase, asLoose, List.foldl_map]
  have greatest : vocabulary.greatestId = (vocabulary.added.map (·.id)).foldl max
      (vocabulary.tokens.foldl (fun greatest token => max greatest (token.2 : Int)) (-1)) := by
    rw [Vocabulary.greatestId, List.foldl_map]
  have greatestId : vocabulary.asLoose.greatestId = .ok (.int vocabulary.greatestId) := by
    rw [LooseVocabulary.greatestId, ids, base, greatest]
    cases vocabulary.added.map (·.id) with
    | nil => rfl
    | cons first rest =>
      -- The greatest added id is found first, and compared with the base tokens' afterwards.
      simp only [List.map_cons, LooseVocabulary.greatest_int, Bind.bind, Except.bind,
        Json.greater_int]
      rw [List.foldl_cons, List.foldl_assoc]
  rw [LooseVocabulary.size, greatestId]
  rfl

end Vocabulary

/-- The vocabularies that are accepted, by the ways in which they are. -/
inductive Accepted : LooseVocabulary → Prop
  | constructed {fields : Fields Json} {vocabulary : LooseVocabulary}
    (made : LooseVocabulary.ofFields fields = .ok vocabulary) : Accepted vocabulary
  | interchanged {data : Json} {vocabulary : Vocabulary}
    (read : Vocabulary.ofJson data = .ok vocabulary) : Accepted vocabulary.asLoose
  | parsed {document : Json} {vocabulary : Vocabulary}
    (read : (readTokenizer document).answer = .ok vocabulary) : Accepted vocabulary.asLoose
  | received {payload : Payload} {vocabulary : Vocabulary}
    (read : (readTokenizerPayload payload).answer = .ok vocabulary) : Accepted vocabulary.asLoose
  | extracted {tokenizer : Live} {vocabulary : Vocabulary}
    (taken : (extractVocabulary tokenizer).answer = .ok vocabulary) : Accepted vocabulary.asLoose

namespace Accepted

/-- The roles of a vocabulary that was read from a document are known. -/
theorem rolesKnown_of_ofJson {data : Json} {vocabulary : Vocabulary}
    (read : Vocabulary.ofJson data = .ok vocabulary) : vocabulary.asLoose.RolesKnown := by
  obtain ⟨_, _, reads⟩ := Vocabulary.readsFrom_of_ofJson read
  exact Vocabulary.rolesKnown_of_checked reads.known

/-- The roles of a vocabulary that was read from a tokenizer file are known. -/
theorem rolesKnown_of_readTokenizer {document : Json} {vocabulary : Vocabulary}
    (read : (readTokenizer document).answer = .ok vocabulary) :
    vocabulary.asLoose.RolesKnown := by
  unfold readTokenizer at read
  -- Reading ends by making the vocabulary, which checks the roles.
  split at read
  · cases read
  · exact Vocabulary.rolesKnown_of_make read

/-- The roles of every accepted vocabulary are known. -/
theorem rolesKnown {vocabulary : LooseVocabulary} (accepted : Accepted vocabulary) :
    vocabulary.RolesKnown := by
  -- Every way to a vocabulary ends by making it from its parts.
  cases accepted with
  | constructed made => exact LooseVocabulary.rolesKnown_of_ofFields made
  | interchanged read => exact rolesKnown_of_ofJson read
  | parsed read => exact rolesKnown_of_readTokenizer read
  | received read =>
    unfold readTokenizerPayload at read
    split at read
    · cases read
    · exact rolesKnown_of_readTokenizer read
  | extracted taken =>
    unfold extractVocabulary at taken
    split at taken
    · cases taken
    · split at taken
      · cases taken
      · rename_i made
        cases taken
        exact Vocabulary.rolesKnown_of_make made

/-- Every id of an accepted vocabulary is below its size, and none is negative but those of added
tokens and of the roles that these carry.

In a table with room for the vocabulary, the place of an id is the place of that number just if the
id is not negative: a negative one has the place of another token, or none. -/
theorem ids_below_size {vocabulary : LooseVocabulary} (accepted : Accepted vocabulary)
    (integral : vocabulary.IsIntegral) :
    ∃ result size, vocabulary.size = .ok result ∧ result.IsInteger size ∧
      (∀ id ∈ vocabulary.ids, ∃ number, id.IsInteger number ∧ number < size ∧
        ∀ room : Nat, size ≤ room →
          ((∃ place : Nat, position? room number = some place ∧ (place : Int) = number) ↔
            0 ≤ number)) ∧
      ((∀ id ∈ vocabulary.ids, ∀ number, id.IsInteger number → 0 ≤ number) ↔
        ∀ token ∈ vocabulary.added, ∀ number, token.id.IsInteger number → 0 ≤ number) := by
  obtain ⟨result, size, found, integer, base_lt, added_lt⟩ := LooseVocabulary.size_spec integral
  have token : ∀ id ∈ vocabulary.ids, ∃ number, id.IsInteger number ∧
      ((∃ token ∈ vocabulary.tokens, number = token.2) ∨
        ∃ token ∈ vocabulary.added, token.id.IsInteger number) :=
    fun _ => accepted.rolesKnown.exists_token integral
  refine ⟨result, size, found, integer, fun id carried => ?_, ?_, ?_⟩
  · obtain ⟨number, isNumber, held⟩ := token id carried
    -- Whatever token carries the id, the size counts it in.
    have below : number < size := by
      rcases held with ⟨token, member, rfl⟩ | ⟨token, member, isToken⟩
      · exact base_lt token member
      · exact added_lt token member number isToken
    exact ⟨number, isNumber, below, fun room fits => position?_own (below.trans_le fits)⟩
  · -- The added tokens' ids are among those of the vocabulary.
    intro positive token member
    refine positive token.id ?_
    simp only [LooseVocabulary.ids, List.mem_append]
    exact .inl (.inr (List.mem_map_of_mem member))
  · intro positive id carried number isNumber
    obtain ⟨other, isOther, held⟩ := token id carried
    obtain rfl := isNumber.unique isOther
    rcases held with ⟨token, _, rfl⟩ | ⟨token, member, isToken⟩
    · exact Int.natCast_nonneg token.2
    · exact positive token member number isToken

/-- A document with an added token beyond its base tokens, two roles and a size. -/
def numberedDocument : Json :=
  .obj [("vocab", .obj [("a", .int 0), ("b", .int 1)]),
    ("added_tokens", .arr [.obj [("id", .int 5), ("content", .str "<pad>")]]),
    ("bos_token_id", .bool true), ("pad_token_id", .int 5), ("vocab_size", .int 9)]

/-- The vocabulary of the document. -/
def numbered : Vocabulary where
  tokens := [("a", 0), ("b", 1)]
  merges := []
  added := [⟨5, "<pad>", false, false, false, true, false⟩]
  modelType := .str "unknown"
  roles := ⟨.null, .bool true, .int 5, .null⟩
  explicitSize := .int 9

/-- The ids of the vocabulary are below its size, and none of them is negative. -/
theorem ids_below_size_numbered :
    Vocabulary.ofJson numberedDocument = .ok numbered ∧ numbered.size = .ok (.int 9) ∧
      ∀ id ∈ numbered.asLoose.ids, ∃ number, id.IsInteger number ∧ 0 ≤ number ∧ number < 9 := by
  have read : Vocabulary.ofJson numberedDocument = .ok numbered := rfl
  have size : numbered.size = .ok (.int 9) := rfl
  have integral : numbered.asLoose.IsIntegral := {
    added := by
      intro token member
      obtain rfl := List.mem_singleton.mp member
      exact ⟨5, rfl⟩
    roles := by
      intro role resolved
      simp [Vocabulary.asLoose, numbered, RoleIds.resolved, RoleIds.named, Json.isNull] at resolved
      rcases resolved with rfl | rfl
      · exact ⟨1, rfl⟩
      · exact ⟨5, rfl⟩
    explicitSize := .inr ⟨9, rfl⟩ }
  obtain ⟨result, bound, found, isBound, below, positive⟩ :=
    ids_below_size (.interchanged read) integral
  -- The size that was found is nine.
  rw [Vocabulary.size_asLoose, size] at found
  cases found
  have isNine : (Json.int 9).IsInteger 9 := rfl
  obtain rfl := isNine.unique isBound
  have added : ∀ token ∈ numbered.asLoose.added, ∀ number, token.id.IsInteger number →
      0 ≤ number := by
    intro token member number isNumber
    obtain rfl := List.mem_singleton.mp member
    cases isNumber
    decide
  refine ⟨read, size, fun id carried => ?_⟩
  obtain ⟨number, isNumber, less, _⟩ := below id carried
  exact ⟨number, isNumber, positive.mpr added id carried number isNumber, less⟩

/-- A document with an added token whose id is negative. -/
def negativeDocument : Json :=
  .obj [("vocab", .obj [("a", .int 0), ("b", .int 1)]),
    ("added_tokens", .arr [.obj [("id", .int (-1)), ("content", .str "x")]]),
    ("eos_token_id", .int 0)]

/-- An added token may have a negative id, and then its bytes take the place of another token's. -/
theorem negative_id_accepted :
    ∃ vocabulary, Vocabulary.ofJson negativeDocument = .ok vocabulary ∧
      Json.int (-1) ∈ vocabulary.asLoose.ids ∧ vocabulary.size = .ok (.int 2) ∧
      (ByteTable.make vocabulary 0 2).map (·.tokens) = .ok [[0x61], [0x78]] :=
  ⟨_, rfl, by simp [LooseVocabulary.ids, Vocabulary.asLoose, Vocabulary.looseToken], rfl, rfl⟩

end Accepted

end ConstrainedDecoding
