import ConstrainedDecoding.Live.Convert

/-! Tokens added on top of a base vocabulary. -/

namespace ConstrainedDecoding

/-- An added token, usually a special one. Its id may lie outside the base vocabulary. -/
structure AddedToken where
  id : Int
  content : Text
  singleWord : Bool
  lstrip : Bool
  rstrip : Bool
  normalized : Bool
  special : Bool
  deriving DecidableEq

namespace AddedToken

/-- A special token known by its id alone. -/
def bare (id : Int) (content : Text) : AddedToken :=
  ⟨id, content, false, false, false, true, true⟩

/-- A required entry of a mapping. -/
def required (entries : List (Live × Live)) (name : Text) : Except Fault Live :=
  match Live.entry? name entries with
  | some value => .ok value
  | none => .error (.missingKey name)

/-- An optional entry of a mapping as a flag. -/
def optional (entries : List (Live × Live)) (name : Text) (default : Bool) : Bool :=
  ((Live.entry? name entries).getD .null).flag default

/-- The token that a mapping describes, with the default for every flag it leaves open. -/
def ofLive : Live → Except Fault AddedToken
  | .dict entries => do
    let id ← (← required entries "id").toInt
    let content ← required entries "content"
    return {
      id, content := content.display
      singleWord := optional entries "single_word" false
      lstrip := optional entries "lstrip" false
      rstrip := optional entries "rstrip" false
      normalized := optional entries "normalized" true
      special := optional entries "special" false }
  | other => .error (.operand ("'" ++ other.kindName ++ "' object is not subscriptable"))

/-- The token in the interchange form. -/
def toJson (token : AddedToken) : Json :=
  .obj [("id", .int token.id), ("content", .str token.content),
    ("single_word", .bool token.singleWord), ("lstrip", .bool token.lstrip),
    ("rstrip", .bool token.rstrip), ("normalized", .bool token.normalized),
    ("special", .bool token.special)]

end AddedToken

end ConstrainedDecoding
