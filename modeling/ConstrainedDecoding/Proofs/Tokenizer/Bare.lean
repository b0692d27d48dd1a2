import Mathlib.Data.List.Induction
import ConstrainedDecoding.Proofs.Json.Arranged
import ConstrainedDecoding.Proofs.Tokenizer.Lookup

/-! The tokens that are added for roles: which ids need one of their own, and which get one. -/

namespace ConstrainedDecoding

/-- The roles before a role, in their fixed order. -/
def earlierRoles (role : Text) : List Text :=
  specialRoles.takeWhile fun other => other ≠ role

/-- Roles that come first are some of the special ones, in their order. -/
theorem sublist_specialRoles {before after : List Text} (split : specialRoles = before ++ after) :
    before.Sublist specialRoles :=
  split ▸ List.sublist_append_left before after

/-- The roles before a role are those that it stands behind. -/
theorem earlierRoles_eq {before after : List Text} {role : Text}
    (split : specialRoles = before ++ role :: after) : earlierRoles role = before := by
  have distinct : (before ++ role :: after).Nodup := split ▸ by decide
  -- No role stands twice, so the role itself is not among those before it.
  have others : ∀ other ∈ before, decide (other ≠ role) = true := by
    intro other among
    rw [decide_eq_true_eq]
    exact (List.nodup_append.mp distinct).2.2 other among role List.mem_cons_self
  rw [earlierRoles, split, List.takeWhile_append_of_pos others,
    List.takeWhile_cons_of_neg (by simp), List.append_nil]

namespace Draft

variable {draft : Draft}

/-- The token that is added for a role and its id. -/
def bareToken (bare : Text × Int) : AddedToken :=
  .bare bare.2 (bareContent bare.1 bare.2)

/-- A base token carries an id. -/
def IsBaseId (draft : Draft) (id : Int) : Prop :=
  ∃ token ∈ draft.tokens, token.2 = id

/-- An added token of the source carries an id. -/
def IsAddedId (draft : Draft) (id : Int) : Prop :=
  ∃ token ∈ draft.added, token.id = id

instance (draft : Draft) (id : Int) : Decidable (draft.IsBaseId id) :=
  inferInstanceAs (Decidable (∃ token ∈ draft.tokens, token.2 = id))

instance (draft : Draft) (id : Int) : Decidable (draft.IsAddedId id) :=
  inferInstanceAs (Decidable (∃ token ∈ draft.added, token.id = id))

/-- An id needs a token for a role: no source token carries it, and no earlier role has it. -/
def Needs (draft : Draft) (role : Text) (id : Int) : Prop :=
  ¬draft.IsBaseId id ∧ ¬draft.IsAddedId id ∧
    ∀ other ∈ earlierRoles role, draft.roleId other ≠ some id

instance (draft : Draft) (role : Text) (id : Int) : Decidable (draft.Needs role id) :=
  inferInstanceAs (Decidable (_ ∧ _ ∧ _))

/-- Of some roles, those whose ids need a token, with these ids. -/
def missing (draft : Draft) (roles : List Text) : Fields Int :=
  roles.filterMap fun role =>
    ((draft.roleId role).filter fun id => draft.Needs role id).map fun id => (role, id)

/-- An id stands out among added tokens: it is that of the last one with some content. -/
def StandsOut (tokens : List AddedToken) (id : Int) : Prop :=
  ∃ content, firstId? tokens.reverse content = some id

/-- The contents of added tokens with their ids, the last of a content counting. -/
def known (tokens : List AddedToken) : Fields Int :=
  Fields.ofList (tokens.map fun token => (token.content, token.id))

/-- One more token is put among the contents of the others. -/
theorem known_append (tokens : List AddedToken) (token : AddedToken) :
    known (tokens ++ [token]) = (known tokens).put token.content token.id := by
  rw [known, List.map_append, Fields.ofList, List.foldl_append]
  rfl

/-- Among known contents, an id is carried if it is that of a base token or stands out. -/
theorem isCarried_known_iff {tokens : List AddedToken} {id : Int} :
    draft.isCarried (known tokens) id = true ↔ draft.IsBaseId id ∨ StandsOut tokens id := by
  rw [isCarried_iff]
  refine or_congr Iff.rfl ?_
  -- The contents have distinct names, so an entry is what is found under its name.
  have distinct : (known tokens).names.Nodup := (Fields.ofList_spec _).1
  have found (content : Text) : (known tokens).get? content = firstId? tokens.reverse content :=
    get?_contents tokens content
  constructor
  · rintro ⟨entry, member, rfl⟩
    exact ⟨entry.1, found entry.1 ▸ Fields.get?_of_mem distinct member⟩
  · rintro ⟨content, last⟩
    exact ⟨(content, id), Fields.mem_of_get? ((found content).trans last), rfl⟩

/-- A single role gets a token just if nothing carries its id so far. -/
theorem mem_bareRoles_single {tokens : List AddedToken} {role : Text} {bare : Text × Int} :
    bare ∈ draft.bareRoles (known tokens) [role] ↔
      bare.1 = role ∧ draft.roleId role = some bare.2 ∧ ¬draft.IsBaseId bare.2 ∧
        ¬StandsOut tokens bare.2 := by
  obtain ⟨name, id⟩ := bare
  rw [bareRoles, bareRoles]
  cases held : draft.roleId role with
  | none => simp
  | some other =>
    simp only [Option.some.injEq]
    by_cases carried : draft.isCarried (known tokens) other = true
    · -- The id is carried, and there is no token for it.
      rw [if_pos carried]
      have known := isCarried_known_iff.mp carried
      constructor
      · intro member
        cases member
      · rintro ⟨_, rfl, noBase, hidden⟩
        exact absurd known (not_or.mpr ⟨noBase, hidden⟩)
    · rw [if_neg carried, bareRoles, List.mem_singleton, Prod.mk.injEq]
      have unknown := not_or.mp (mt isCarried_known_iff.mpr carried)
      constructor
      · rintro ⟨rfl, rfl⟩
        exact ⟨rfl, rfl, unknown⟩
      · rintro ⟨rfl, rfl, _⟩
        exact ⟨rfl, rfl⟩

/-- Roles get their tokens one after the other, and each token is known to the roles after it. -/
theorem bareRoles_append (tokens : List AddedToken) (before after : List Text) :
    draft.bareRoles (known tokens) (before ++ after) =
      draft.bareRoles (known tokens) before ++
        draft.bareRoles
          (known (tokens ++ (draft.bareRoles (known tokens) before).map bareToken)) after := by
  induction before generalizing tokens with
  | nil => simp [bareRoles]
  | cons role rest ih =>
    rw [List.cons_append, bareRoles, bareRoles]
    cases draft.roleId role with
    | none => exact ih tokens
    | some id =>
      simp only
      by_cases carried : draft.isCarried (known tokens) id = true
      · rw [if_pos carried, if_pos carried]
        exact ih tokens
      · -- The token of this role is known from here on.
        rw [if_neg carried, if_neg carried]
        have grown : (known tokens).put (bareContent role id) id =
            known (tokens ++ [bareToken (role, id)]) :=
          (known_append tokens (bareToken (role, id))).symm
        rw [grown, ih, List.cons_append, List.map_cons, List.append_assoc, List.singleton_append]

/-- The content of the token for a role begins with the name of the role. -/
theorem take_bareContent {role : Text} (special : role ∈ specialRoles) (id : Int) :
    (bareContent role id).take 5 = "<|" ++ role := by
  simp only [specialRoles, List.mem_cons, List.not_mem_nil, or_false] at special
  -- All roles have names of three letters, and two letters stand before them.
  rcases special with rfl | rfl | rfl | rfl <;> rfl

/-- Tokens for different roles have different contents. -/
theorem bareContent_role {role other : Text} (special : role ∈ specialRoles)
    (otherSpecial : other ∈ specialRoles) {id otherId : Int}
    (same : bareContent role id = bareContent other otherId) : role = other := by
  have begins := congrArg (List.take 5) same
  rw [take_bareContent special, take_bareContent otherSpecial] at begins
  exact List.append_cancel_left begins

/-- In two lists of added tokens, the first one with a content is in the first list, if that has
one. -/
theorem firstId?_append (first second : List AddedToken) (content : Text) :
    firstId? (first ++ second) content = (firstId? first content).or (firstId? second content) := by
  rw [firstId?, List.find?_append, Option.map_or]
  rfl

/-- The id of the first added token with a content is that of some token with this content. -/
theorem exists_of_firstId? {tokens : List AddedToken} {content : Text} {id : Int}
    (first : firstId? tokens content = some id) :
    ∃ token ∈ tokens, token.content = content ∧ token.id = id := by
  obtain ⟨token, found, rfl⟩ := Option.map_eq_some_iff.mp first
  have same : token.content = content := by simpa using List.find?_some found
  exact ⟨token, List.mem_of_find?_eq_some found, same, rfl⟩

/-- After tokens for different roles, an id stands out if it is that of one of them, or if it stood
out before by a content that none of them has. -/
theorem standsOut_append_iff {tokens : List AddedToken} {bares : Fields Int}
    (roles : bares.names.Sublist specialRoles) {id : Int} :
    StandsOut (tokens ++ bares.map bareToken) id ↔
      (∃ bare ∈ bares, bare.2 = id) ∨ ∃ content, firstId? tokens.reverse content = some id ∧
        ∀ bare ∈ bares, bareContent bare.1 bare.2 ≠ content := by
  have distinct : bares.names.Nodup := roles.nodup (by decide)
  have special : ∀ bare ∈ bares, bare.1 ∈ specialRoles := fun bare member =>
    roles.subset (List.mem_map_of_mem member)
  -- The last token of a content is one of the new ones, if any of these has the content.
  have last (content : Text) : firstId? (tokens ++ bares.map bareToken).reverse content =
      (firstId? (bares.map bareToken).reverse content).or (firstId? tokens.reverse content) := by
    rw [List.reverse_append, firstId?_append]
  constructor
  · rintro ⟨content, found⟩
    rw [last] at found
    rcases Option.or_eq_some_iff.mp found with new | ⟨none, old⟩
    · obtain ⟨token, member, _, rfl⟩ := exists_of_firstId? new
      obtain ⟨bare, among, rfl⟩ := List.mem_map.mp (List.mem_reverse.mp member)
      exact .inl ⟨bare, among, rfl⟩
    · refine .inr ⟨content, old, fun bare among same => ?_⟩
      have hidden := List.find?_eq_none.mp (Option.map_eq_none_iff.mp none) (bareToken bare)
        (List.mem_reverse.mpr (List.mem_map_of_mem among))
      exact hidden (beq_iff_eq.mpr same)
  · rintro (⟨bare, among, rfl⟩ | ⟨content, old, others⟩)
    · -- No other new token has the content of this one, since they are for different roles.
      refine ⟨bareContent bare.1 bare.2, ?_⟩
      have some : (firstId? (bares.map bareToken).reverse
          (bareContent bare.1 bare.2)).isSome := by
        rw [firstId?, Option.isSome_map, List.find?_isSome]
        exact ⟨bareToken bare, List.mem_reverse.mpr (List.mem_map_of_mem among), beq_self_eq_true _⟩
      obtain ⟨id, new⟩ := Option.isSome_iff_exists.mp some
      obtain ⟨token, member, same, rfl⟩ := exists_of_firstId? new
      obtain ⟨⟨role, id⟩, within, rfl⟩ := List.mem_map.mp (List.mem_reverse.mp member)
      have role_eq : role = bare.1 := bareContent_role (special _ within) (special _ among) same
      subst role_eq
      have id_eq : id = bare.2 := Fields.eq_of_mem distinct within among
      rw [last, new, ← id_eq]
      rfl
    · refine ⟨content, ?_⟩
      have none : firstId? (bares.map bareToken).reverse content = none := by
        rw [firstId?, Option.map_eq_none_iff, List.find?_eq_none]
        intro token member
        obtain ⟨bare, among, rfl⟩ := List.mem_map.mp (List.mem_reverse.mp member)
        exact fun same => others bare among (beq_iff_eq.mp same)
      rw [last, none, old]
      rfl

/-- The added tokens after some roles have got theirs. -/
def addedAfter (draft : Draft) (before : List Text) : List AddedToken :=
  draft.added ++ (draft.bareRoles draft.contents before).map bareToken

/-- One more role gets a token if none of the tokens before it carries its id. -/
theorem bareRoles_snoc (before : List Text) (role : Text) :
    draft.bareRoles draft.contents (before ++ [role]) =
      draft.bareRoles draft.contents before ++
        draft.bareRoles (known (draft.addedAfter before)) [role] :=
  bareRoles_append draft.added before [role]

/-- After some roles have got their tokens, an id stands out if it is that of one of these, or if it
is that of the last added token of the source with a content that none of them has. -/
theorem standsOut_addedAfter_iff {before : List Text} (among : before.Sublist specialRoles)
    {id : Int} :
    StandsOut (draft.addedAfter before) id ↔
      (∃ bare ∈ draft.bareRoles draft.contents before, bare.2 = id) ∨
        ∃ content, firstId? draft.added.reverse content = some id ∧
          ∀ bare ∈ draft.bareRoles draft.contents before,
            bareContent bare.1 bare.2 ≠ content :=
  standsOut_append_iff ((names_bareRoles_sublist _ _).trans among)

/-- An id that stands out among the source's added tokens is that of one of them. -/
theorem isAddedId_of_last {content : Text} {id : Int}
    (last : firstId? draft.added.reverse content = some id) : draft.IsAddedId id := by
  obtain ⟨token, member, _, carries⟩ := exists_of_firstId? last
  exact ⟨token, List.mem_reverse.mp member, carries⟩

/-- An id that nothing carries when its role comes needs a token, unless an added token of the
source carries it. -/
theorem needs_iff {before after : List Text} {role : Text} {id : Int}
    (split : specialRoles = before ++ role :: after) (noBase : ¬draft.IsBaseId id)
    (hidden : ¬StandsOut (draft.addedAfter before) id) :
    draft.Needs role id ↔ ¬draft.IsAddedId id := by
  constructor
  · exact fun needs => needs.2.1
  · intro notAdded
    refine ⟨noBase, notAdded, fun other earlier held => ?_⟩
    rw [earlierRoles_eq split] at earlier
    have among := sublist_specialRoles split
    -- If an earlier role had the id, a token for it would have been there by now.
    rcases @exists_of_roleId draft draft.contents _ _ _ earlier held with
      base | ⟨entry, known, carries⟩ | bare
    · exact noBase base
    · obtain ⟨token, member, rfl⟩ := List.mem_map.mp ((Fields.ofList_spec _).2 entry known)
      exact notAdded ⟨token, member, carries⟩
    · exact hidden ((standsOut_addedAfter_iff among).mpr (.inl bare))

/-- An id that needs a token does not stand out when its role comes. -/
theorem Needs.hidden {before after : List Text} {role : Text} {id : Int}
    (split : specialRoles = before ++ role :: after) (needs : draft.Needs role id) :
    ¬StandsOut (draft.addedAfter before) id := by
  intro standsOut
  have among := sublist_specialRoles split
  rcases (standsOut_addedAfter_iff among).mp standsOut with ⟨bare, member, rfl⟩ | ⟨_, last, _⟩
  · -- The token is for an earlier role, which has the id then.
    have earlier : bare.1 ∈ before :=
      (names_bareRoles_sublist _ _).subset (List.mem_map_of_mem member)
    refine needs.2.2 bare.1 ?_ (roleId_of_mem_bareRoles member)
    rwa [earlierRoles_eq split]
  · exact needs.2.1 (isAddedId_of_last last)

/-- A single role that gets a token, and whose id no added token of the source carries, is one that
needs a token. -/
theorem filter_bareRoles_single {before after : List Text} {role : Text}
    (split : specialRoles = before ++ role :: after) :
    (draft.bareRoles (known (draft.addedAfter before)) [role]).filter
        (fun bare => ¬draft.IsAddedId bare.2) = draft.missing [role] := by
  rw [bareRoles, bareRoles, missing, List.filterMap_cons, List.filterMap_nil]
  cases held : draft.roleId role with
  | none => rfl
  | some id =>
    by_cases carried : draft.isCarried (known (draft.addedAfter before)) id = true
    · -- The id is carried by now, so it needs no token.
      have needless : ¬draft.Needs role id := fun needs =>
        (isCarried_known_iff.mp carried).elim needs.1 (needs.hidden split)
      simp [carried, needless, Option.filter]
    · -- Nothing shows the id, so it depends on the source's added tokens whether it is needed.
      obtain ⟨noBase, hidden⟩ := not_or.mp (mt isCarried_known_iff.mpr carried)
      have needs := needs_iff split noBase hidden
      by_cases isAdded : draft.IsAddedId id
      · simp [carried, needs, isAdded, Option.filter, bareRoles]
      · simp [carried, needs, isAdded, Option.filter, bareRoles]

/-- Of the roles that get a token, those whose id no added token of the source carries are those
that need one. -/
theorem filter_bareRoles {before after : List Text} (split : specialRoles = before ++ after) :
    (draft.bareRoles draft.contents before).filter (fun bare => ¬draft.IsAddedId bare.2) =
      draft.missing before := by
  -- By induction on the roles that have come so far, the last one of them being the next.
  induction before using List.reverseRecOn generalizing after with
  | nil => rfl
  | append_singleton before role ih =>
    have next := split.trans (List.append_cons before role after).symm
    rw [bareRoles_snoc, List.filter_append, ih next, filter_bareRoles_single next, missing,
      missing, missing, List.filterMap_append]

/-- No id gets two tokens. -/
theorem nodup_bareRoles {before after : List Text} (split : specialRoles = before ++ after) :
    ((draft.bareRoles draft.contents before).map (·.2)).Nodup := by
  induction before using List.reverseRecOn generalizing after with
  | nil => exact List.nodup_nil
  | append_singleton before role ih =>
    have next := split.trans (List.append_cons before role after).symm
    have among := sublist_specialRoles next
    rw [bareRoles_snoc, List.map_append, List.nodup_append]
    refine ⟨ih next, ?_, ?_⟩
    · -- A single role gets one token at most.
      rcases List.sublist_singleton.mp
        (@names_bareRoles_sublist draft (known (draft.addedAfter before)) [role]) with none | one
      · rw [Fields.names, List.map_eq_nil_iff] at none
        rw [none]
        exact List.nodup_nil
      · rw [Fields.names, List.map_eq_singleton_iff] at one
        obtain ⟨bare, one, _⟩ := one
        rw [one]
        exact List.nodup_singleton _
    · -- The id of an earlier token stands out, and that of the new one does not.
      intro id old other new same
      subst same
      obtain ⟨bare, member, rfl⟩ := List.mem_map.mp new
      obtain ⟨_, _, _, hidden⟩ := mem_bareRoles_single.mp member
      exact hidden ((standsOut_addedAfter_iff among).mpr (.inl (List.mem_map.mp old)))

/-- An id of the source's added tokens can be seen when a role comes: it is that of the last one
with some content, and no earlier role needs a token with this content. -/
def IsVisible (draft : Draft) (role : Text) (id : Int) : Prop :=
  ∃ content, firstId? draft.added.reverse content = some id ∧
    ∀ bare ∈ draft.missing (earlierRoles role), bareContent bare.1 bare.2 ≠ content

/-- No role gets a token for the id of an added token of the source, just if every such id is that
of a base token, too, or can be seen when its role comes. -/
theorem no_added_iff {before after : List Text} (split : specialRoles = before ++ after) :
    (∀ bare ∈ draft.bareRoles draft.contents before, ¬draft.IsAddedId bare.2) ↔
      ∀ role ∈ before, ∀ id, draft.roleId role = some id → draft.IsAddedId id →
        draft.IsBaseId id ∨ draft.IsVisible role id := by
  induction before using List.reverseRecOn generalizing after with
  | nil => simp [bareRoles]
  | append_singleton before role ih =>
    have next := split.trans (List.append_cons before role after).symm
    have among := sublist_specialRoles next
    rw [bareRoles_snoc, List.forall_mem_append, List.forall_mem_append, ← ih next]
    refine and_congr_right fun noneAdded => ?_
    -- So far the roles that got a token are those that need one.
    have needed : draft.bareRoles draft.contents before = draft.missing (earlierRoles role) := by
      rw [earlierRoles_eq next, ← filter_bareRoles next]
      exact (List.filter_eq_self.mpr fun bare member => decide_eq_true (noneAdded bare member)).symm
    have standsOut {id : Int} (isAdded : draft.IsAddedId id) :
        StandsOut (draft.addedAfter before) id ↔ draft.IsVisible role id := by
      rw [standsOut_addedAfter_iff among, IsVisible, ← needed]
      refine or_iff_right ?_
      rintro ⟨bare, member, rfl⟩
      exact noneAdded bare member isAdded
    constructor
    · intro notAdded other single id held isAdded
      obtain rfl := List.mem_singleton.mp single
      by_contra unseen
      obtain ⟨noBase, hidden⟩ := not_or.mp unseen
      exact notAdded (other, id) (mem_bareRoles_single.mpr
        ⟨rfl, held, noBase, mt (standsOut isAdded).mp hidden⟩) isAdded
    · intro seen bare member isAdded
      obtain ⟨rfl, held, noBase, hidden⟩ := mem_bareRoles_single.mp member
      rcases seen _ (List.mem_singleton.mpr rfl) _ held isAdded with base | visible
      · exact noBase base
      · exact hidden ((standsOut isAdded).mpr visible)

end Draft

/-- The added tokens of an accepted vocabulary are those of the source, and then tokens for roles:
one for each id that is that of a role and that no token of the source carries, in the order of the
roles, and besides these only some for ids that added tokens of the source alone carry.

There are none of the latter just if every such id can be seen when its role comes: it is that of
the last added token with some content, and no token was added with this content before. -/
theorem bare_tokens_of_missing {source : TokenizerSource} {vocabulary : Vocabulary}
    (accepted : source.vocabulary = .ok vocabulary) :
    ∃ draft bares, source.draft = .ok draft ∧
      vocabulary.tokens.map (fun token => (token.1, (token.2 : Int))) = draft.tokens ∧
      (∀ role ∈ specialRoles,
        vocabulary.roles.named.get? role = some (Draft.idJson (draft.roleId role))) ∧
      vocabulary.added = draft.added ++ bares.map Draft.bareToken ∧
      bares.names.Sublist specialRoles ∧ (bares.map (·.2)).Nodup ∧
      (∀ bare ∈ bares, draft.roleId bare.1 = some bare.2) ∧
      bares.filter (fun bare => ¬draft.IsAddedId bare.2) = draft.missing specialRoles ∧
      (bares = draft.missing specialRoles ↔
        ∀ role ∈ specialRoles, ∀ id, draft.roleId role = some id → draft.IsAddedId id →
          draft.IsBaseId id ∨ draft.IsVisible role id) := by
  rw [TokenizerSource.vocabulary_eq_draft] at accepted
  obtain ⟨draft, drafted, made⟩ := bind_eq_ok_iff.mp accepted
  obtain ⟨natural, rfl⟩ := Draft.vocabulary_eq_ok_iff.mp made
  have whole : specialRoles = specialRoles ++ [] := (List.append_nil _).symm
  have needed := @Draft.filter_bareRoles draft specialRoles [] whole
  refine ⟨draft, draft.uncarried, drafted, Draft.map_naturalTokens natural,
    fun role special => Draft.named_roleIds special, rfl, Draft.names_bareRoles_sublist _ _,
    Draft.nodup_bareRoles whole, fun bare => Draft.roleId_of_mem_bareRoles, needed, ?_⟩
  -- The tokens are those that are needed just if nothing is taken from them.
  rw [← Draft.no_added_iff whole, ← needed]
  constructor
  · intro same bare member
    exact of_decide_eq_true (List.filter_eq_self.mp same.symm bare member)
  · intro noneAdded
    exact (List.filter_eq_self.mpr fun bare member => decide_eq_true (noneAdded bare member)).symm

/-- A running tokenizer in which two roles have the same id, which no token carries. -/
def sharingTokenizer : Live :=
  .dict [(.str "vocab", .dict [(.str "a", .int 0), (.str "<pad>", .int 2)]),
    (.str "added_tokens", .list [.dict [(.str "id", .int 3), (.str "content", .str "<s>")]]),
    (.str "eos_token_id", .int 9), (.str "unk_token_id", .int 9)]

/-- The draft of the tokenizer in which two roles have the same id. -/
def sharingDraft : Draft where
  source := sharingTokenizer
  tokens := [("a", 0), ("<pad>", 2)]
  merges := []
  added := [⟨3, "<s>", false, false, false, true, false⟩]
  modelType := "unknown"
  size := .null

/-- The id that two roles have gets one token, for the first of them, and no other id gets one. -/
theorem bare_tokens_of_missing_shared :
    ∃ vocabulary, (TokenizerSource.running sharingTokenizer).vocabulary = .ok vocabulary ∧
      vocabulary.added = sharingDraft.added ++ [.bare 9 "<|eos_9|>"] := by
  obtain ⟨vocabulary, accepted⟩ :
      ∃ vocabulary, (TokenizerSource.running sharingTokenizer).vocabulary = .ok vocabulary :=
    ⟨_, rfl⟩
  obtain ⟨draft, bares, drafted, _, _, added, _, _, _, _, needed⟩ := bare_tokens_of_missing accepted
  have drawn : draft = sharingDraft := Except.ok.inj (drafted.symm.trans rfl)
  subst drawn
  have missing : sharingDraft.missing specialRoles = [(("eos" : Text), 9)] := by decide +kernel
  -- Only the start has the id of an added token, which is the last one with its content.
  have seen : ∀ role ∈ specialRoles, ∀ id, sharingDraft.roleId role = some id →
      sharingDraft.IsAddedId id → sharingDraft.IsBaseId id ∨ sharingDraft.IsVisible role id := by
    intro role special id _ isAdded
    obtain ⟨token, member, rfl⟩ := isAdded
    obtain rfl := List.mem_singleton.mp member
    refine .inr ⟨"<s>", rfl, ?_⟩
    revert role
    decide +kernel
  refine ⟨vocabulary, accepted, ?_⟩
  rw [added, needed.mpr seen, missing]
  rfl

/-- A running tokenizer with two added tokens of one content, the first of them for the end. -/
def shadowingTokenizer : Live :=
  .dict [(.str "vocab", .dict [(.str "a", .int 0)]),
    (.str "added_tokens", .list [.dict [(.str "id", .int 1), (.str "content", .str "x")],
      .dict [(.str "id", .int 2), (.str "content", .str "x")]]),
    (.str "eos_token_id", .int 1)]

/-- The id of an added token gets a second token if another one has taken its content. -/
theorem shadowed_id_added_again :
    ∃ draft vocabulary, (TokenizerSource.running shadowingTokenizer).draft = .ok draft ∧
      (TokenizerSource.running shadowingTokenizer).vocabulary = .ok vocabulary ∧
      draft.IsAddedId 1 ∧ draft.missing specialRoles = [] ∧
      vocabulary.added = draft.added ++ [.bare 1 "<|eos_1|>"] := by
  refine ⟨_, _, rfl, rfl, ⟨_, List.mem_cons_self, rfl⟩, ?_, rfl⟩
  decide +kernel

end ConstrainedDecoding
