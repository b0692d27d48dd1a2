import ConstrainedDecoding.Proofs.Tokenizer.Roles

/-! How the roles of a draft are resolved: by a stated id, through a token string, or not at all. -/

namespace ConstrainedDecoding

namespace Fields

variable {α : Type}

/-- The first entry of a name in two lists is in the first list, if that has one. -/
theorem get?_append (first second : Fields α) (name : Text) :
    get? (first ++ second) name = (first.get? name).or (second.get? name) := by
  rw [get?, List.find?_append, Option.map_or]
  rfl

/-- A first entry is found under its own name. -/
theorem get?_cons (field : Text × α) (rest : Fields α) (name : Text) :
    get? (field :: rest) name = if field.1 = name then some field.2 else rest.get? name := by
  by_cases same : field.1 = name
  · rw [get?, List.find?_cons_of_pos (by simpa using same), if_pos same]
    rfl
  · rw [get?, List.find?_cons_of_neg (by simpa using same), if_neg same]
    rfl

/-- An entry that is put among others is the one of its name, and no other name's entry changes. -/
theorem get?_put (name : Text) (value : α) (fields : Fields α) (other : Text) :
    (fields.put name value).get? other =
      if name = other then some value else fields.get? other := by
  induction fields with
  | nil => exact get?_cons (name, value) [] other
  | cons field rest ih =>
    obtain ⟨first, old⟩ := field
    rw [put]
    split
    · -- The entry takes the place of the one that had its name.
      rename_i same
      subst same
      rw [get?_cons, get?_cons]
      split <;> rfl
    · rename_i differ
      rw [get?_cons, get?_cons, ih]
      split
      · rename_i same
        rw [if_neg fun equal => differ (same.trans equal.symm)]
      · rfl

/-- Of entries given one after the other, the last one of a name counts. -/
theorem get?_ofList (given : Fields α) (name : Text) :
    (ofList given).get? name = get? given.reverse name := by
  -- The fold may start from any entries, and those given go before them.
  have general : ∀ fields : Fields α,
      get? (given.foldl (fun fields field => put field.1 field.2 fields) fields) name =
        (get? given.reverse name).or (fields.get? name) := by
    induction given with
    | nil =>
      intro fields
      rfl
    | cons field rest ih =>
      intro fields
      rw [List.foldl_cons, ih, List.reverse_cons, get?_append, get?_put, get?_cons, Option.or_assoc]
      congr 1
      split <;> rfl
  exact (general []).trans Option.or_none

end Fields

/-- A source names a token string for a role, as a text or as the content of a token. -/
inductive Names (source : Live) (role : Text) : Text → Prop
  | text {content : Text} (given : source.get (role ++ "_token") = .str content)
    (filled : content ≠ []) : Names source role content
  | token {token : Live} {content : Text} (given : source.get (role ++ "_token") = token)
    (other : token.text? = none) (held : token.get "content" = .str content)
    (filled : content ≠ []) : Names source role content

/-- The id of the first added token with a content. -/
def firstId? (added : List AddedToken) (content : Text) : Option Int :=
  (added.find? fun token => token.content == content).map (·.id)

namespace Draft

variable {draft : Draft} {role content : Text} {id : Int}

/-- The id that the source has for a token string: of the base token, or of the last added one. -/
def found? (draft : Draft) (content : Text) : Option Int :=
  (draft.tokens.get? content).or (firstId? draft.added.reverse content)

/-- The source states no id for a role. -/
def Unstated (draft : Draft) (role : Text) : Prop :=
  ∀ id, draft.source.get (role ++ "_token_id") ≠ .int id

/-- The source names no token string for a role that it has an id for. -/
def Unnamed (draft : Draft) (role : Text) : Prop :=
  ∀ content, Names draft.source role content → draft.found? content = none

/-- A role is resolved through a token string: that of the token that the source names for it, or
else the first usual spelling that the source has an id for. -/
inductive ResolvedThrough (draft : Draft) (role : Text) : Text → Int → Prop
  | named {content : Text} {id : Int} (unstated : draft.Unstated role)
    (names : Names draft.source role content) (found : draft.found? content = some id) :
    ResolvedThrough draft role content id
  | spelled {before after : List Text} {content : Text} {id : Int} (unstated : draft.Unstated role)
    (unnamed : draft.Unnamed role)
    (usual : (conventionalSpellings.get? role).getD [] = before ++ content :: after)
    (first : ∀ other ∈ before, draft.found? other = none)
    (found : draft.found? content = some id) : ResolvedThrough draft role content id

/-- What a role is resolved to: the id that the source states for it, or else one through a token
string, or else nothing. -/
inductive Resolved (draft : Draft) (role : Text) : Option Int → Prop
  | stated {id : Int} (states : draft.source.get (role ++ "_token_id") = .int id) :
    Resolved draft role (some id)
  | through {content : Text} {id : Int} (resolved : draft.ResolvedThrough role content id) :
    Resolved draft role (some id)
  | unresolved (unstated : draft.Unstated role) (unnamed : draft.Unnamed role)
    (unspelled : ∀ content ∈ (conventionalSpellings.get? role).getD [],
      draft.found? content = none) : Resolved draft role none

/-- Among the contents of added tokens, a content has the id of the last token with it. -/
theorem get?_contents (added : List AddedToken) (content : Text) :
    Fields.get? (Fields.ofList (added.map fun token => (token.content, token.id))) content =
      firstId? added.reverse content := by
  rw [Fields.get?_ofList, ← List.map_reverse, Fields.get?, List.find?_map, Option.map_map]
  rfl

/-- A draft looks up a token string as the source has an id for it. -/
theorem lookup_eq (draft : Draft) : draft.lookup = draft.found? := by
  funext content
  rw [lookup, found?, contents, get?_contents]
  cases draft.tokens.get? content <;> rfl

/-- A role has a stated id just if the source states it. -/
theorem statedId_eq_some_iff {source : Live} {lookup : Lookup} :
    statedId source role lookup = some id ↔ source.get (role ++ "_token_id") = .int id := by
  unfold statedId
  -- An id is stated only as an integer.
  split
  · rename_i stated
    simp [stated]
  · rename_i unstated
    simpa using unstated id

/-- A value is a text just if it is that of the text. -/
theorem text?_eq_some_iff {value : Live} : value.text? = some content ↔ value = .str content := by
  cases value <;> simp [Live.text?]

/-- The token string that a source names for a role, unless it is empty. -/
theorem namedToken?_eq_some_iff {source : Live} :
    (namedToken? source role).filter (!·.isEmpty) = some content ↔ Names source role content := by
  rw [Option.filter_eq_some_iff, namedToken?]
  constructor
  · rintro ⟨found, filled⟩
    have filled : content ≠ [] := by simpa using filled
    split at found
    · rename_i given
      cases found
      exact .text given filled
    · cases found
    · rename_i noText _
      refine .token rfl ?_ (text?_eq_some_iff.mp found) filled
      exact Option.eq_none_iff_forall_ne_some.mpr fun text same =>
        noText text (text?_eq_some_iff.mp same)
  · intro names
    cases names with
    | text given filled => simp [given, filled]
    | @token token _ given other held filled =>
      -- Neither a text nor nothing has a content that is a text.
      cases token with
      | str text => cases other
      | null => cases held
      | _ => simp [given, held, filled, Live.text?]

/-- A role has the id of its named token just if that is found. -/
theorem namedId_eq_some_iff {source : Live} {lookup : Lookup} :
    namedId source role lookup = some id ↔
      ∃ content, Names source role content ∧ lookup content = some id := by
  simp only [namedId, Option.bind_eq_bind, Option.bind_eq_some_iff, namedToken?_eq_some_iff]

/-- The strategies for a role, one after the other. -/
theorem roleId_eq (draft : Draft) (role : Text) :
    draft.roleId role = (statedId draft.source role draft.found?).or
      ((namedId draft.source role draft.found?).or
        (conventionalId draft.source role draft.found?)) := by
  rw [roleId, resolveRole, roleStrategies, lookup_eq]
  simp only [List.findSome?_cons, List.findSome?_nil]
  -- The first of the three ways that gives an id is taken.
  cases statedId draft.source role draft.found? with
  | some id => rfl
  | none =>
    cases namedId draft.source role draft.found? with
    | some id => rfl
    | none => cases conventionalId draft.source role draft.found? <;> rfl

/-- No id is stated for a role just if its strategy finds none. -/
theorem unstated_iff : draft.Unstated role ↔ statedId draft.source role draft.found? = none := by
  rw [Option.eq_none_iff_forall_ne_some]
  exact forall_congr' fun id => not_congr statedId_eq_some_iff.symm

/-- No token with an id is named for a role just if its strategy finds none. -/
theorem unnamed_iff : draft.Unnamed role ↔ namedId draft.source role draft.found? = none := by
  rw [Option.eq_none_iff_forall_ne_some]
  -- A role is named by a content that is found.
  constructor
  · intro unnamed id found
    obtain ⟨content, names, found⟩ := namedId_eq_some_iff.mp found
    cases (unnamed content names).symm.trans found
  · intro notFound content names
    exact Option.eq_none_iff_forall_ne_some.mpr fun id found =>
      notFound id (namedId_eq_some_iff.mpr ⟨content, names, found⟩)

/-- A role of a draft is resolved to the id that its strategies find. -/
theorem resolved_iff {held : Option Int} : draft.Resolved role held ↔ draft.roleId role = held := by
  rw [roleId_eq]
  constructor
  · -- A strategy that finds the id is reached, since those before it find none.
    intro resolved
    cases resolved with
    | stated states => rw [statedId_eq_some_iff.mpr states, Option.some_or]
    | through through =>
      cases through with
      | named unstated names found =>
        rw [unstated_iff.mp unstated, namedId_eq_some_iff.mpr ⟨_, names, found⟩]
        rfl
      | spelled unstated unnamed usual first found =>
        have spelled := List.findSome?_eq_some_iff.mpr ⟨_, _, _, usual, found, first⟩
        rw [unstated_iff.mp unstated, unnamed_iff.mp unnamed, conventionalId, spelled]
        rfl
    | unresolved unstated unnamed unspelled =>
      rw [unstated_iff.mp unstated, unnamed_iff.mp unnamed, conventionalId,
        List.findSome?_eq_none_iff.mpr unspelled]
      rfl
  · -- The first strategy that finds an id says how the role is resolved.
    rintro rfl
    cases stated : statedId draft.source role draft.found? with
    | some id => exact .stated (statedId_eq_some_iff.mp stated)
    | none =>
      have unstated := unstated_iff.mpr stated
      cases named : namedId draft.source role draft.found? with
      | some id =>
        obtain ⟨content, names, found⟩ := namedId_eq_some_iff.mp named
        exact .through (.named unstated names found)
      | none =>
        have unnamed := unnamed_iff.mpr named
        cases spelled : conventionalId draft.source role draft.found? with
        | some id =>
          obtain ⟨before, content, after, usual, found, first⟩ :=
            List.findSome?_eq_some_iff.mp spelled
          exact .through (.spelled unstated unnamed usual first found)
        | none => exact .unresolved unstated unnamed (List.findSome?_eq_none_iff.mp spelled)

/-- The roles that need a token of their own are some of the special ones, in their order. -/
theorem names_bareRoles_sublist (contents : Fields Int) (roles : List Text) :
    (draft.bareRoles contents roles).names.Sublist roles := by
  -- A role is left out if it has no id, or one that something carries.
  induction roles generalizing contents with
  | nil => exact .slnil
  | cons first rest ih =>
    rw [bareRoles]
    split
    · exact (ih contents).cons first
    · split
      · exact (ih contents).cons first
      · exact (ih _).cons_cons first

/-- A role that needs a token of its own has the id that it is resolved to. -/
theorem roleId_of_mem_bareRoles {contents : Fields Int} {roles : List Text} {bare : Text × Int}
    (member : bare ∈ draft.bareRoles contents roles) : draft.roleId bare.1 = some bare.2 := by
  -- By induction on the roles: each entry is for a role whose id was just resolved.
  induction roles generalizing contents with
  | nil => cases member
  | cons first rest ih =>
    rw [bareRoles] at member
    split at member
    · exact ih member
    · rename_i id found
      split at member
      · exact ih member
      · rcases List.mem_cons.mp member with rfl | later
        · exact found
        · exact ih later

/-- An id as a part of a document, null if there is none. -/
def idJson : Option Int → Json
  | some id => .int id
  | none => .null

/-- The id of a special role stands under its name. -/
theorem named_roleIds {role : Text} (special : role ∈ specialRoles) :
    draft.roleIds.named.get? role = some (idJson (draft.roleId role)) := by
  have json (role : Text) : draft.roleJson role = idJson (draft.roleId role) := by
    rw [roleJson]
    cases draft.roleId role <;> rfl
  rw [← json]
  simp only [specialRoles, List.mem_cons, List.not_mem_nil, or_false] at special
  -- The four roles are the fields of the record.
  rcases special with rfl | rfl | rfl | rfl <;> rfl

/-- The base tokens of a vocabulary are those of its draft, which has no negative id. -/
theorem map_naturalTokens (natural : ∀ token ∈ draft.tokens, 0 ≤ token.2) :
    draft.naturalTokens.map (fun token => (token.1, (token.2 : Int))) = draft.tokens := by
  rw [naturalTokens, List.map_map]
  conv_rhs => rw [← List.map_id draft.tokens]
  -- No id loses its sign, since none is negative.
  refine List.map_congr_left fun token member => ?_
  show (token.1, (token.2.toNat : Int)) = token
  rw [Int.toNat_of_nonneg (natural token member)]

end Draft

end ConstrainedDecoding
