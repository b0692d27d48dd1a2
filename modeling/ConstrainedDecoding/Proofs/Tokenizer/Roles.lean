import ConstrainedDecoding.Proofs.Vocabulary.RoundTrip
import ConstrainedDecoding.Tokenizer.Draft

/-! The roles of a draft: every id that is resolved is carried by a token of the vocabulary. -/

namespace ConstrainedDecoding.Draft

variable {draft : Draft}

/-- An id is carried by a base token, or by one of the contents known so far. -/
theorem isCarried_iff {contents : Fields Int} {id : Int} :
    draft.isCarried contents id = true ↔
      (∃ token ∈ draft.tokens, token.2 = id) ∨ ∃ entry ∈ contents, entry.2 = id := by
  simp [isCarried]

/-- The id of a role is that of a base token, of a token known by its content, or of a bare one. -/
theorem exists_of_roleId {contents : Fields Int} {roles : List Text} {role : Text} {id : Int}
    (among : role ∈ roles) (resolved : draft.roleId role = some id) :
    (∃ token ∈ draft.tokens, token.2 = id) ∨ (∃ entry ∈ contents, entry.2 = id) ∨
      ∃ bare ∈ draft.bareRoles contents roles, bare.2 = id := by
  -- By induction on the roles, while the contents grow by those of the bare tokens.
  induction roles generalizing contents with
  | nil => cases among
  | cons first rest ih =>
    rw [bareRoles]
    cases found : draft.roleId first with
    | none =>
      rcases List.mem_cons.mp among with rfl | later
      · rw [found] at resolved
        cases resolved
      · exact ih later
    | some other =>
      simp only
      by_cases carried : draft.isCarried contents other = true
      · rw [if_pos carried]
        rcases List.mem_cons.mp among with rfl | later
        · obtain rfl := Option.some.inj (found.symm.trans resolved)
          exact (isCarried_iff.mp carried).imp_right .inl
        · exact ih later
      · rw [if_neg carried]
        have bare : (first, other) ∈ (first, other) ::
            draft.bareRoles (contents.put (bareContent first other) other) rest :=
          List.mem_cons_self
        rcases List.mem_cons.mp among with rfl | later
        · obtain rfl := Option.some.inj (found.symm.trans resolved)
          exact .inr (.inr ⟨_, bare, rfl⟩)
        · rcases @ih (contents.put (bareContent first other) other) later with
            base | ⟨entry, known, rfl⟩ | ⟨token, among, rfl⟩
          · exact .inl base
          · -- The content that was put is that of the bare token.
            rcases Fields.mem_put known with rfl | old
            · exact .inr (.inr ⟨_, bare, rfl⟩)
            · exact .inr (.inl ⟨entry, old, rfl⟩)
          · exact .inr (.inr ⟨token, List.mem_cons_of_mem _ among, rfl⟩)

/-- The id of every role is carried by a base token or by an added one. -/
theorem exists_carrier {role : Text} {id : Int} (special : role ∈ specialRoles)
    (resolved : draft.roleId role = some id) :
    (∃ token ∈ draft.tokens, token.2 = id) ∨ ∃ token ∈ draft.allAdded, token.id = id := by
  rcases @exists_of_roleId draft draft.contents _ _ _ special resolved with
    base | ⟨entry, known, rfl⟩ | ⟨bare, among, rfl⟩
  · exact .inl base
  · -- Contents are known with the ids of the added tokens that have them.
    obtain ⟨token, member, rfl⟩ := List.mem_map.mp ((Fields.ofList_spec _).2 entry known)
    exact .inr ⟨token, List.mem_append_left _ member, rfl⟩
  · exact .inr ⟨.bare bare.2 (bareContent bare.1 bare.2),
      List.mem_append_right _ (List.mem_map_of_mem among), rfl⟩

/-- A resolved role of a draft is a special one, and its id is an integer. -/
theorem exists_of_mem_resolved {role : Text × Json} (member : role ∈ draft.roleIds.resolved) :
    role.1 ∈ specialRoles ∧ ∃ id, role.2 = .int id ∧ draft.roleId role.1 = some id := by
  -- Each of the four roles stands under its own name, and is resolved unless it is null.
  have resolved : ∀ {name : Text}, name ∈ specialRoles → role = (name, draft.roleJson name) →
      role.1 ∈ specialRoles ∧ ∃ id, role.2 = .int id ∧ draft.roleId role.1 = some id := by
    rintro name special rfl
    refine ⟨special, ?_⟩
    have some : (draft.roleJson name).isNull = false := by
      simpa using (List.mem_filter.mp member).2
    unfold roleJson at some ⊢
    cases found : draft.roleId name with
    | none =>
      rw [found] at some
      cases some
    | some id => exact ⟨id, rfl, rfl⟩
  have among := List.mem_of_mem_filter member
  simp only [RoleIds.named, roleIds, List.mem_cons, List.not_mem_nil, or_false] at among
  rcases among with same | same | same | same
  · exact resolved (by decide) same
  · exact resolved (by decide) same
  · exact resolved (by decide) same
  · exact resolved (by decide) same

/-- The base tokens of a draft with ids that are not negative, as a vocabulary holds them. -/
def naturalTokens (draft : Draft) : Fields Nat :=
  draft.tokens.map fun token => (token.1, token.2.toNat)

/-- An id is known if a token carries it. -/
theorem isKnownId_of_carrier {id : Int} (natural : ∀ token ∈ draft.tokens, 0 ≤ token.2)
    (carrier : (∃ token ∈ draft.tokens, token.2 = id) ∨ ∃ token ∈ draft.allAdded, token.id = id) :
    Vocabulary.isKnownId draft.naturalTokens draft.allAdded (.int id) = true := by
  have same : (Json.int id).same (.int id) = true := by
    simp [Json.same, Json.number?, Json.Number.matches, Json.Number.same, Json.Number.le]
  rw [Vocabulary.isKnownId, Bool.or_eq_true, List.any_eq_true, List.any_eq_true]
  -- The id is compared with those of the base tokens, and then with those of the added ones.
  rcases carrier with ⟨token, member, rfl⟩ | ⟨token, member, rfl⟩
  · refine .inl ⟨(token.1, token.2.toNat), List.mem_map_of_mem member, ?_⟩
    rw [Int.toNat_of_nonneg (natural token member)]
    exact same
  · exact .inr ⟨token, member, same⟩

/-- No role of a draft is unknown, as long as no base token has a negative id. -/
theorem roles_known (natural : ∀ token ∈ draft.tokens, 0 ≤ token.2) :
    draft.roleIds.resolved.forM
      (Vocabulary.checkRole (Vocabulary.isKnownId draft.naturalTokens draft.allAdded)) =
        .ok () := by
  rw [forM_eq_ok_iff]
  -- Each id that is resolved is carried by a token, if need be by a bare one.
  rintro ⟨role, value⟩ member
  obtain ⟨special, id, rfl, resolved⟩ := exists_of_mem_resolved member
  have known := isKnownId_of_carrier natural (exists_carrier special resolved)
  rw [Vocabulary.checkRole, known]
  rfl

/-- An integer is taken as the id of a token if it is not negative. -/
theorem tokenId_int (token : Text × Int) :
    Vocabulary.tokenId (token.1, .int token.2) =
      if token.2 < 0 then .error (.invalid (.tokenId (.str token.1) (.int token.2)))
      else .ok (token.1, token.2.toNat) := by
  rw [Vocabulary.tokenId, Vocabulary.checkId]
  split <;> rfl

/-- The ids of a draft are those of a vocabulary if none of them is negative. -/
theorem mapM_tokenId (natural : ∀ token ∈ draft.tokens, 0 ≤ token.2) :
    (draft.tokens.map fun token => (token.1, Json.int token.2)).mapM Vocabulary.tokenId =
      .ok draft.naturalTokens := by
  rw [mapM_eq_ok_iff, naturalTokens, List.forall₂_map_left_iff, List.forall₂_map_right_iff,
    List.forall₂_same]
  -- Each id is taken as it is, since it is not negative.
  intro token member
  rw [tokenId_int, if_neg (not_lt.mpr (natural token member))]

/-- No id of a draft is negative if all of them are taken. -/
theorem natural_of_mapM_tokenId {ids : Fields Nat}
    (taken : (draft.tokens.map fun token => (token.1, Json.int token.2)).mapM Vocabulary.tokenId =
      .ok ids) : ∀ token ∈ draft.tokens, 0 ≤ token.2 := by
  intro token member
  obtain ⟨id, _, taken⟩ := exists_of_mapM_ok taken (List.mem_map_of_mem member)
  rw [tokenId_int] at taken
  -- A negative id would not have been taken.
  split at taken
  · cases taken
  · rename_i positive
    exact not_lt.mp positive

/-- A draft without negative ids makes the vocabulary of its parts. -/
theorem vocabulary_eq (natural : ∀ token ∈ draft.tokens, 0 ≤ token.2) :
    draft.vocabulary = .ok ⟨draft.naturalTokens, draft.merges, draft.allAdded,
      .str draft.modelType, draft.roleIds, draft.explicitSize⟩ :=
  Vocabulary.make_eq_ok_iff.mpr ⟨_, _, mapM_tokenId natural, normalizeMerges_written draft.merges,
    roles_known natural, rfl⟩

/-- A draft makes a vocabulary just if none of its ids is negative: no role is ever unknown. -/
theorem exists_vocabulary_iff :
    (∃ vocabulary, draft.vocabulary = .ok vocabulary) ↔ ∀ token ∈ draft.tokens, 0 ≤ token.2 := by
  -- The ids are checked when the vocabulary is made, and nothing else can fail.
  constructor
  · rintro ⟨vocabulary, made⟩
    obtain ⟨ids, _, taken, _⟩ := Vocabulary.make_eq_ok_iff.mp made
    exact natural_of_mapM_tokenId taken
  · exact fun natural => ⟨_, vocabulary_eq natural⟩

/-- The vocabulary that a draft makes is that of its parts, and no base token has a negative id. -/
theorem vocabulary_eq_ok_iff {vocabulary : Vocabulary} :
    draft.vocabulary = .ok vocabulary ↔ (∀ token ∈ draft.tokens, 0 ≤ token.2) ∧
      vocabulary = ⟨draft.naturalTokens, draft.merges, draft.allAdded, .str draft.modelType,
        draft.roleIds, draft.explicitSize⟩ := by
  -- Building fails at negative ids only.
  constructor
  · intro made
    have natural := exists_vocabulary_iff.mp ⟨_, made⟩
    exact ⟨natural, Except.ok.inj (made.symm.trans (vocabulary_eq natural))⟩
  · rintro ⟨natural, rfl⟩
    exact vocabulary_eq natural

/-- A draft that makes no vocabulary has a base token with a negative id, and that is to blame. -/
theorem exists_token_of_error {fault : Fault} (failed : draft.vocabulary = .error fault) :
    ∃ token ∈ draft.tokens, token.2 < 0 ∧
      fault = .invalid (.tokenId (.str token.1) (.int token.2)) := by
  rcases bind_eq_error_iff.mp failed with badId | ⟨ids, idsRead, failed⟩
  · obtain ⟨entry, among, refused⟩ := exists_of_mapM_error badId
    obtain ⟨token, member, rfl⟩ := List.mem_map.mp among
    rw [tokenId_int] at refused
    split at refused
    · rename_i negative
      exact ⟨token, member, negative, (Except.error.inj refused).symm⟩
    · cases refused
  · -- With ids that were all taken, nothing else goes wrong.
    have made := vocabulary_eq (natural_of_mapM_tokenId idsRead)
    rw [Draft.vocabulary, Vocabulary.make, idsRead] at made
    exact absurd (failed.symm.trans made) nofun

end ConstrainedDecoding.Draft
