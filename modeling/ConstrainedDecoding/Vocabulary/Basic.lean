import ConstrainedDecoding.Json.Order
import ConstrainedDecoding.Live.Convert
import ConstrainedDecoding.Vocabulary.AddedToken

/-! The canonical vocabulary that binds a grammar to a model. -/

namespace ConstrainedDecoding

/-- One merge rule in its canonical form, "left right": a text as it is, the texts of a list with
spaces between them. -/
def normalizeMerge : Live → Except Fault Text
  | .str text => .ok text
  | .list parts => .ok (Text.joinWith " " (parts.filterMap Live.text?))
  | other => .error (.invalid (.merge other))

/-- The rules that a value holds. Nothing, zero and the empty text hold none. -/
def normalizeMerges (merges : Live) : Except Fault (List Text) := do
  if merges.isTruthy then (← merges.iterate).mapM normalizeMerge else return []

/-- The ids of the special roles, null where a role is unresolved. -/
structure RoleIds where
  eos : Json
  bos : Json
  pad : Json
  unk : Json

/-- A normalized vocabulary. Ids need not be dense, and loosely typed fields are kept as given. -/
structure Vocabulary where
  tokens : Fields Nat
  merges : List Text
  added : List AddedToken
  modelType : Json
  roles : RoleIds
  explicitSize : Json

namespace RoleIds

/-- No role resolved. -/
def none : RoleIds := ⟨.null, .null, .null, .null⟩

/-- The roles by name, in their fixed order. -/
def named (roles : RoleIds) : Fields Json :=
  [("eos", roles.eos), ("bos", roles.bos), ("pad", roles.pad), ("unk", roles.unk)]

/-- The resolved roles, in their fixed order. -/
def resolved (roles : RoleIds) : Fields Json :=
  roles.named.filter fun role => !role.2.isNull

end RoleIds

namespace Vocabulary

/-- The id of a token, which has to be an integer that is not negative. -/
def checkId (token id : Json) : Except Fault Nat :=
  match id with
  | .int number =>
    if number < 0 then .error (.invalid (.tokenId token id)) else .ok number.toNat
  | _ => .error (.invalid (.tokenId token id))

/-- A token with its id. -/
def tokenId (entry : Text × Json) : Except Fault (Text × Nat) := do
  return (entry.1, ← checkId (.str entry.1) entry.2)

/-- An id is that of a base token or of an added token. -/
def isKnownId (tokens : Fields Nat) (added : List AddedToken) (id : Json) : Bool :=
  tokens.any (fun token => (Json.int token.2).same id) ||
    added.any fun token => (Json.int token.id).same id

/-- The id of a role has to be known. -/
def checkRole (isKnown : Json → Bool) : Text × Json → Except Fault Unit
  | (role, id) => do
    id.checkHashable
    if isKnown id then return () else .error (.invalid (.roleId role id))

/-- The vocabulary of the given parts: ids are checked, merges normalized, and roles checked. -/
def make (tokens : Fields Json) (merges : Live) (added : List AddedToken) (modelType : Json)
    (roles : RoleIds) (explicitSize : Json) : Except Fault Vocabulary := do
  let tokens ← tokens.mapM tokenId
  let merges ← normalizeMerges merges
  roles.resolved.forM (checkRole (isKnownId tokens added))
  return { tokens, merges, added, modelType, roles, explicitSize }

/-- The greatest id of any token, or minus one. -/
def greatestId (vocabulary : Vocabulary) : Int :=
  let base := vocabulary.tokens.foldl (fun greatest token => max greatest (token.2 : Int)) (-1)
  vocabulary.added.foldl (fun greatest token => max greatest token.id) base

/-- The size: one more than the greatest id, or the explicit size when that is greater. -/
def size (vocabulary : Vocabulary) : Except Fault Json :=
  Json.greater (.int (vocabulary.greatestId + 1)) (vocabulary.explicitSize.orElse (.int 0))

/-- The size as a count of mask entries. -/
def count (vocabulary : Vocabulary) : Except Fault Nat := do
  match ← vocabulary.size with
  | .int value => return value.toNat
  | .bool value => return if value then 1 else 0
  | other => .error (.operand ("'" ++ other.live.kindName ++ "' object is not an integer"))

/-- Whether an id is at the size of the vocabulary or past it. Any number may be the size. -/
def isBeyond (vocabulary : Vocabulary) (id : Int) : Except Fault Bool := do
  let size ← vocabulary.size
  match size.number? with
  | some bound => return bound.le (.int id)
  | none =>
    .error (.operand ("'>=' not supported between instances of 'int' and '" ++
      size.live.kindName ++ "'"))

/-- The ids of the special added tokens, each once and in order. -/
def specialIds (vocabulary : Vocabulary) : List Int :=
  (((vocabulary.added.filter (·.special)).map (·.id)).mergeSort (· ≤ ·)).eraseDups

/-- The id of a token string: of a base token, or else of the first added token. -/
def lookup? (vocabulary : Vocabulary) (content : Text) : Option Int :=
  match vocabulary.tokens.get? content with
  | some id => some id
  | none => (vocabulary.added.find? fun token => token.content == content).map (·.id)

/-- Two maps hold the same ids, whatever the order of the tokens. -/
def sameTokens (left right : Fields Nat) : Bool :=
  left.length = right.length && left.all fun token => right.get? token.1 == some token.2

/-- Two vocabularies are equal. The explicit size is not compared. -/
def same (left right : Vocabulary) : Bool :=
  sameTokens left.tokens right.tokens && left.merges = right.merges && left.added = right.added &&
    left.modelType.same right.modelType && left.roles.eos.same right.roles.eos &&
    left.roles.bos.same right.roles.bos && left.roles.pad.same right.roles.pad &&
    left.roles.unk.same right.roles.unk

end Vocabulary

end ConstrainedDecoding
