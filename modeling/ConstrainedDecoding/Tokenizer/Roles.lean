import ConstrainedDecoding.Live.Basic

/-! The ids of special roles, found by strategies in order. -/

namespace ConstrainedDecoding

/-- The id that a vocabulary has for a token string. -/
abbrev Lookup := Text → Option Int

/-- A way to find the id of a role in a source, if it succeeds. -/
abbrev RoleStrategy (β : Type) := Live → Text → Lookup → Option β

/-- The special roles, in their fixed order. -/
def specialRoles : List Text := ["eos", "bos", "pad", "unk"]

/-- How the token of a role is usually spelled, the most likely spelling first. -/
def conventionalSpellings : Fields (List Text) :=
  [("eos", ["</s>", "<|endoftext|>", "<eos>", "<|eos|>", "[SEP]"]),
   ("bos", ["<s>", "<|startoftext|>", "<bos>", "<|bos|>", "[CLS]"]),
   ("pad", ["<pad>", "<|pad|>", "[PAD]"]),
   ("unk", ["<unk>", "<|unk|>", "[UNK]"])]

/-- The id that the source states for a role. A truth value is no id. -/
def statedId : RoleStrategy Int := fun source role _ =>
  match source.get (role ++ "_token_id") with
  | .int id => some id
  | _ => none

/-- The token string that the source names for a role, directly or as the content of a token. -/
def namedToken? (source : Live) (role : Text) : Option Text :=
  match source.get (role ++ "_token") with
  | .str content => some content
  | .null => none
  | token => (token.get "content").text?

/-- The id of the token that the source names for a role. -/
def namedId : RoleStrategy Int := fun source role lookup => do
  let content ← (namedToken? source role).filter (!·.isEmpty)
  lookup content

/-- The id of the first usual spelling that the vocabulary has. -/
def conventionalId : RoleStrategy Int := fun _ role lookup =>
  ((conventionalSpellings.get? role).getD []).findSome? lookup

/-- The strategies in their usual order. -/
def roleStrategies : List (RoleStrategy Int) :=
  [statedId, namedId, conventionalId]

/-- The id of a role by the first strategy that finds one. -/
def resolveRole {β : Type} (strategies : List (RoleStrategy β)) (source : Live) (role : Text)
    (lookup : Lookup) : Option β :=
  strategies.findSome? fun strategy => strategy source role lookup

end ConstrainedDecoding
