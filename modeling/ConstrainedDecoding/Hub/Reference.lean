import ConstrainedDecoding.Hub.Canonical

/-! References to documents, made at an address. -/

namespace ConstrainedDecoding.Address

/-- The schemes whose addresses can be referred to in part. So can addresses without a scheme. -/
def hierarchicalSchemes : List String :=
  ["", "ftp", "http", "gopher", "nntp", "imap", "wais", "file", "https", "shttp", "mms", "prospero",
    "rtsp", "rtsps", "rtspu", "sftp", "svn", "svn+ssh", "ws", "wss"]

/-- The schemes among them whose names have no parameters. -/
def plainSchemes : List String :=
  ["gopher", "nntp", "wais", "file", "svn", "svn+ssh", "ws", "wss"]

/-- The marks after which a name has parameters. -/
def parameterMarks (scheme : List Char) : List Char :=
  if plainSchemes.contains (String.ofList scheme) then [] else [';']

/-- A path up to its last slash, the name after it, and the parameters after the name. -/
def splitParameters (marks path : List Char) : List Char × List Char × List Char :=
  let name := (path.reverse.takeWhile (· ≠ '/')).reverse
  let (plain, parameters) := upTo marks name
  (path.take (path.length - name.length), plain, parameters.drop 1)

/-- Parameters after their mark, unless there are none. -/
def markedParameters (parameters : List Char) : List Char :=
  if parameters.isEmpty then [] else ';' :: parameters

/-- A text that is there, unless it is empty. -/
def unlessEmpty (text : Option (List Char)) : Option (List Char) :=
  text.filter (!·.isEmpty)

/-- Segments with those dropped that stand for their own place or take back the one before. -/
def climb : List (List Char) → List (List Char) → List (List Char)
  | kept, [] => kept.reverse
  | kept, ['.'] :: rest => climb kept rest
  | kept, ['.', '.'] :: rest => climb kept.tail rest
  | kept, segment :: rest => climb (segment :: kept) rest

/-- Segments without the empty ones between the first and the last. -/
def dropEmptyInner : List (List Char) → List (List Char)
  | [] => []
  | first :: rest => first :: (rest.dropLast.filter (!·.isEmpty) ++ rest.getLast?.toList)

/-- The segments that a path means in a folder. -/
def segmentsIn (folder path : List Char) : List (List Char) :=
  if path.head? = some '/' then Text.parts '/' path
  else dropEmptyInner ((if folder.isEmpty then [[]] else (Text.parts '/' folder).dropLast) ++
    Text.parts '/' path)

/-- A path of segments. One that ends in steps leads to a folder. -/
def pathOf (segments : List (List Char)) : List Char :=
  let isFolder := segments.getLast? = some ['.'] || segments.getLast? = some ['.', '.']
  let path := ((climb [] segments ++ if isFolder then [[]] else []).intersperse ['/']).flatten
  if path.isEmpty then ['/'] else path

/-- The path that a reference means at a base, the reference having a path of its own. -/
def joinPaths (marks base reference : List Char) : List Char :=
  let (folder, _, _) := splitParameters marks base
  let (inner, name, parameters) := splitParameters marks reference
  pathOf (segmentsIn folder (inner ++ name)) ++ markedParameters parameters

/-- A path behind a scheme begins with a slash. -/
def behindScheme (scheme path : List Char) : List Char :=
  if scheme.isEmpty || path.head? = some '/' then path else '/' :: path

/-- A path without a mark for parameters that are not there. -/
def tidyPath (marks path : List Char) : List Char :=
  let (folder, name, parameters) := splitParameters marks path
  folder ++ name ++ markedParameters parameters

/-- A reference that can only stand for itself. -/
def standsAlone (base reference : Address) : Bool :=
  (!reference.scheme.isEmpty && reference.scheme.map Char.toLower ≠ base.scheme) ||
    !hierarchicalSchemes.contains (String.ofList base.scheme)

/-- The address in parts that a reference means at a base.

What counts is how the reference is written: its path may begin like an address. -/
def join (base written : Address) : Address :=
  let reference := split written.text
  let marks := parameterMarks base.scheme
  let query := unlessEmpty reference.query
  let fragment := unlessEmpty reference.fragment
  if reference.text.isEmpty then base
  else if standsAlone base reference then reference
  else if reference.hasServer then
    { reference with scheme := base.scheme, path := tidyPath marks reference.path, query, fragment }
  else if (tidyPath marks reference.path).isEmpty then
    { base with
      path := tidyPath marks base.path
      query := query.orElse fun _ => unlessEmpty base.query
      fragment }
  else { base with
    path := behindScheme base.scheme (joinPaths marks base.path reference.path)
    query
    fragment }

/-- The host of an address that names none but has a scheme is that of the base. -/
def borrowHost (base reference : Address) : Except AddressProblem Address :=
  if !reference.scheme.isEmpty && reference.host.isEmpty then
    canonical { reference with host := base.host }
  else .ok reference

/-- The fragment of the base is carried over to an address that has none. -/
def carryFragment (base address : Address) : Except AddressProblem Address :=
  let carried := Text.percentDecode (base.fragment.getD [])
  if carried.isEmpty || !(address.fragment.getD []).isEmpty then .ok address
  else do
    checkText carried
    canonical { address with fragment := some carried }

/-- The address that a reference means at a base. -/
def resolve (base reference : Address) : Except AddressProblem Address := do
  let reference ← borrowHost base reference
  if reference.isAbsolute then carryFragment base reference
  else carryFragment base (← canonical (join base reference))

end ConstrainedDecoding.Address
