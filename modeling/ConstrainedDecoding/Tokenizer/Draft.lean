import ConstrainedDecoding.Fault
import ConstrainedDecoding.Tokenizer.AddedTokens
import ConstrainedDecoding.Tokenizer.Roles

/-! Drafts of vocabularies: what a tokenizer shows, before its special roles are resolved. -/

namespace ConstrainedDecoding

/-- The parts of a vocabulary, and the source in which its special roles are looked up. -/
structure Draft where
  source : Live
  tokens : Fields Int
  merges : List Text
  added : List AddedToken
  modelType : Text
  size : Json

/-- A token with its id, both given loosely. -/
def tokenEntry (item : Live) : Except Fault (Text × Int) := do
  let (token, id) ← item.pair
  return (token.display, ← id.toInt)

/-- The ids of tokens in whatever lists its items. A token listed again takes the later id. -/
def tokenMap (source : Live) : Except Fault (Fields Int) := do
  return Fields.ofList (← (← source.items).mapM tokenEntry)

namespace Draft

/-- The ids of the source's added tokens by content, the last of a content counting. -/
def contents (draft : Draft) : Fields Int :=
  Fields.ofList (draft.added.map fun token => (token.content, token.id))

/-- The id of a token string: of a base token, or else of an added one. -/
def lookup (draft : Draft) : Lookup := fun content =>
  match draft.tokens.get? content with
  | some id => some id
  | none => draft.contents.get? content

/-- The id of a role. -/
def roleId (draft : Draft) (role : Text) : Option Int :=
  resolveRole roleStrategies draft.source role draft.lookup

/-- The name of a token that is known only as the token of a role. -/
def bareContent (role : Text) (id : Int) : Text :=
  "<|" ++ role ++ "_" ++ toString id ++ "|>"

/-- An id is that of a base token, or of a token known by its content. -/
def isCarried (draft : Draft) (contents : Fields Int) (id : Int) : Bool :=
  draft.tokens.any (fun token => token.2 == id) || contents.any fun token => token.2 == id

/-- The roles whose ids nothing carries, with these ids, given the contents known so far. -/
def bareRoles (draft : Draft) : Fields Int → List Text → Fields Int
  | _, [] => []
  | contents, role :: rest =>
    match draft.roleId role with
    | none => bareRoles draft contents rest
    | some id =>
      if draft.isCarried contents id then bareRoles draft contents rest
      else (role, id) :: bareRoles draft (contents.put (bareContent role id) id) rest

/-- The roles that need a token of their own. -/
def uncarried (draft : Draft) : Fields Int :=
  draft.bareRoles draft.contents specialRoles

/-- The added tokens of the source, and then one for each role that needs it. -/
def allAdded (draft : Draft) : List AddedToken :=
  draft.added ++ draft.uncarried.map fun (role, id) => .bare id (bareContent role id)

/-- The id of a role, null if there is none. -/
def roleJson (draft : Draft) (role : Text) : Json :=
  match draft.roleId role with
  | some id => .int id
  | none => .null

/-- The ids of all roles. -/
def roleIds (draft : Draft) : RoleIds :=
  ⟨draft.roleJson "eos", draft.roleJson "bos", draft.roleJson "pad", draft.roleJson "unk"⟩

/-- The explicit size. Only an integer counts. -/
def explicitSize (draft : Draft) : Json :=
  match draft.size with
  | .int size => .int size
  | _ => .null

/-- The vocabulary of a draft. -/
def vocabulary (draft : Draft) : Except Fault Vocabulary :=
  Vocabulary.make (draft.tokens.map fun (token, id) => (token, .int id))
    (.list (draft.merges.map .str)) draft.allAdded (.str draft.modelType) draft.roleIds
    draft.explicitSize

/-- A warning for each role whose id nothing carries. -/
def warnings (draft : Draft) : List Record :=
  draft.uncarried.map fun (role, id) => ⟨.warning,
    role ++ " token id " ++ toString id ++
      " is not in the vocabulary; recording it as an added token"⟩

/-- The vocabulary of a draft and the records of building it. -/
def build (draft : Draft) : Turn (List Record) Vocabulary :=
  ⟨draft.vocabulary, draft.warnings⟩

end Draft

end ConstrainedDecoding
