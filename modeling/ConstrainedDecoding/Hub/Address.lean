/-! Addresses of documents: their parts, and their text. -/

namespace ConstrainedDecoding

/-- An address in parts. A reference relative to another address leaves out scheme and host. -/
structure Address where
  scheme : List Char
  userinfo : List Char
  host : List Char
  portNumber : Option (List Char)
  path : List Char
  query : Option (List Char)
  fragment : Option (List Char)
  deriving DecidableEq

namespace Address

/-- A text up to the first of some marks, and the text from there on. -/
def upTo (marks : List Char) (text : List Char) : List Char × List Char :=
  (text.takeWhile (!marks.contains ·), text.dropWhile (!marks.contains ·))

/-- A character that a scheme may hold. -/
def isSchemeChar (char : Char) : Bool :=
  char.isAlphanum || char = '+' || char = '.' || char = '-'

/-- The scheme that a text begins with, and what follows its colon. -/
def splitScheme (text : List Char) : List Char × List Char :=
  let scheme := text.takeWhile isSchemeChar
  match text.dropWhile isSchemeChar with
  | ':' :: rest => if (scheme.head?.map Char.isAlpha).getD true then (scheme, rest) else ([], text)
  | _ => ([], text)

/-- The server that a text begins with after two slashes, and what follows it. -/
def splitServer : List Char → List Char × List Char
  | '/' :: '/' :: rest => upTo ['/', '?', '#'] rest
  | text => ([], text)

/-- The text before the last of some mark, and the text after it. -/
def splitLast (mark : Char) (text : List Char) : List Char × List Char :=
  if text.contains mark then
    let after := (text.reverse.takeWhile (· ≠ mark)).reverse
    (text.take (text.length - after.length - 1), after)
  else ([], text)

/-- The host that a server begins with, and what follows it. Brackets may hold colons. -/
def splitHost (server : List Char) : List Char × List Char :=
  match server with
  | '[' :: _ =>
    match splitLast ']' server with
    | ([], _) => upTo [':'] server
    | (before, after) => (before ++ [']'], after)
  | _ => upTo [':'] server

/-- The parts of an address as they are written. -/
def split (text : List Char) : Address :=
  let (scheme, rest) := splitScheme text
  let (server, rest) := splitServer rest
  let (userinfo, server) := splitLast '@' server
  let (host, marked) := splitHost server
  let digits := if marked.head? = some ':' then marked.drop 1 else marked
  let (path, rest) := upTo ['?', '#'] rest
  let (query, rest) := upTo ['#'] rest
  { scheme, userinfo, host, path
    portNumber := if digits.isEmpty then none else some digits
    query := if query.isEmpty then none else some (query.drop 1)
    fragment := if rest.isEmpty then none else some (rest.drop 1) }

/-- The address names a server or something about it. -/
def hasServer (address : Address) : Bool :=
  !address.userinfo.isEmpty || !address.host.isEmpty || address.portNumber.isSome

/-- A host between brackets if it holds colons and has none yet. -/
def bracketed (host : List Char) : List Char :=
  if host.contains ':' && host.head? ≠ some '[' then '[' :: (host ++ [']']) else host

/-- The server of an address with all that is said about it. -/
def server (address : Address) : List Char :=
  (if address.userinfo.isEmpty then [] else address.userinfo ++ ['@']) ++
    bracketed address.host ++ (address.portNumber.map (':' :: ·)).getD []

/-- The text of an address. -/
def text (address : Address) : List Char :=
  (if address.scheme.isEmpty then [] else address.scheme ++ [':']) ++
    (if address.server.isEmpty then [] else '/' :: '/' :: address.server) ++ address.path ++
    (address.query.map ('?' :: ·)).getD [] ++ (address.fragment.map ('#' :: ·)).getD []

/-- The address says how and where its document is found. -/
def isAbsolute (address : Address) : Bool :=
  !address.scheme.isEmpty && !address.host.isEmpty

/-- The text begins with something before a colon that says what kind of address it is. -/
def statesKind (address : Address) : Bool :=
  let (kind, rest) := upTo ['/', ':'] { address with fragment := none }.text
  !kind.isEmpty && rest.head? = some ':'

/-- A reference that is taken to begin at the root of whatever server it is sent to. -/
def rooted (reference : Address) : Address where
  scheme := []
  userinfo := []
  host := []
  portNumber := none
  path := '/' :: reference.path.dropWhile (· = '/')
  query := reference.query
  fragment := none

end Address

end ConstrainedDecoding
