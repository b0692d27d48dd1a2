import ConstrainedDecoding.Hub.Address
import ConstrainedDecoding.Hub.Host
import ConstrainedDecoding.Text.Base64
import ConstrainedDecoding.Text.Integer

/-! The one form in which an address is written, and what two addresses in that form share. -/

namespace ConstrainedDecoding.Address

/-- A visible ASCII character other than some marks. -/
def isVisibleBut (marks : List Char) (char : Char) : Bool :=
  0x21 ≤ char.toNat && char.toNat ≤ 0x7E && !marks.contains char

/-- The marks that a query does not show. -/
def queryMarks : List Char := ['"', '#', '<', '>']

/-- The marks that a path does not show. -/
def pathMarks : List Char := queryMarks ++ ['?', '\x60', '\x7b', '\x7d']

/-- The marks that the part about the user does not show. -/
def userinfoMarks : List Char := pathMarks ++ ['/', ';', '=', '@', '[', '\\', ']', '^', '|']

/-- The marks that a fragment does not show. -/
def fragmentMarks : List Char := ['"', '<', '>', '\x60']

/-- The ports that schemes imply. -/
def usualPorts : List (List Char × Int) :=
  [("ftp".toList, 21), ("http".toList, 80), ("https".toList, 443), ("ws".toList, 80),
    ("wss".toList, 443)]

/-- Which of the ports a scheme implies. -/
def usualPort? (scheme : List Char) : Option Int :=
  (usualPorts.find? fun entry => entry.1 == scheme).map (·.2)

/-- The number of one of the ports in digits, unless the scheme implies it. -/
def canonicalPort (scheme : List Char) :
    Option (List Char) → Except AddressProblem (Option (List Char))
  | none => .ok none
  | some text =>
    if (Text.excessDigits? (Text.ofChars text)).isSome then .error (.portNumber text)
    else match Text.integer? 10 (Text.ofChars text) with
      | none => .error (.portNumber text)
      | some number =>
        .ok (if usualPort? scheme = some number then none else some (toString number).toList)

/-- Segments without those that stand for their own place or take back the one before. -/
def dropDots : List (List Char) → List (List Char) → List (List Char)
  | kept, [] => kept.reverse
  | kept, ['.'] :: rest => dropDots kept rest
  | kept, ['.', '.'] :: rest => dropDots (if kept = [[]] then kept else kept.tail) rest
  | kept, segment :: rest => dropDots (segment :: kept) rest

/-- A path without dots for segments. -/
def withoutDots (path : List Char) : List Char :=
  ((dropDots [] (Text.parts '/' path)).intersperse ['/']).flatten

/-- A path has to fit what stands before it. -/
def checkPath (address : Address) : Except AddressProblem Unit :=
  match address.hasServer, address.scheme.isEmpty, address.path with
  | true, _, [] => .ok ()
  | true, _, first :: _ => if first = '/' then .ok () else .error .attachedPath
  | false, true, '/' :: '/' :: _ => .error .doubleSlash
  | false, true, ':' :: _ => .error .leadingColon
  | false, _, _ => .ok ()

/-- The form in which an address is written. -/
def canonical (written : Address) : Except AddressProblem Address := do
  let host ← Host.canonical (bracketed written.host)
  let portNumber ← canonicalPort written.scheme written.portNumber
  let address := { written with
    scheme := written.scheme.map Char.toLower
    userinfo := Text.percentEncode (isVisibleBut userinfoMarks) written.userinfo
    host, portNumber }
  address.checkPath
  let path := if address.hasServer || !address.scheme.isEmpty then withoutDots address.path
    else address.path
  return { address with
    path := Text.percentEncode (isVisibleBut pathMarks) path
    query := address.query.map (Text.percentEncode (isVisibleBut queryMarks))
    fragment := address.fragment.map (Text.percentEncode (isVisibleBut fragmentMarks)) }

/-- A control character of ASCII. -/
def isControl (char : Char) : Bool :=
  char.toNat < 0x20 || char.toNat = 0x7F

/-- The most characters that an address may be written with. -/
def lengthLimit : Nat := 65536

/-- A text has to be short enough, and free of control characters. -/
def checkText (text : List Char) : Except AddressProblem Unit :=
  if lengthLimit < text.length then .error .tooLong
  else match text.find? isControl with
    | some char => .error (.control char (text.idxOf char))
    | none => .ok ()

/-- The address that a text spells. -/
def ofText (text : List Char) : Except AddressProblem Address := do
  checkText text
  canonical (split text)

/-- The number that a scheme implies, in digits. -/
def usualDigits? (scheme : List Char) : Option (List Char) :=
  (usualPort? scheme).map fun number => (toString number).toList

/-- Which of the server's ports an address goes to, whether stated or implied. -/
def effectivePort (address : Address) : Option (List Char) :=
  address.portNumber.orElse fun _ => usualDigits? address.scheme

/-- The address is of a scheme and goes where the scheme implies. -/
def isUsual (scheme : List Char) (address : Address) : Bool :=
  address.scheme = scheme && address.effectivePort = usualDigits? scheme

/-- Two addresses are of one server, reached in one way or by then in a safer one. -/
def sharesSecrets (before after : Address) : Bool :=
  before.host = after.host &&
    ((before.scheme = after.scheme && before.effectivePort = after.effectivePort) ||
      (before.isUsual "http".toList && after.isUsual "https".toList))

/-- The credentials that the part about the user holds: a name, a colon and a secret. -/
def credentials? (address : Address) : Option (List Char) :=
  let (name, secret) := upTo [':'] address.userinfo
  let (name, secret) := (Text.percentDecode name, Text.percentDecode (secret.drop 1))
  if name.isEmpty && secret.isEmpty then none
  else some ("Basic ".toList ++ Text.base64 (Text.encodeUtf8 (name ++ ':' :: secret)))

end ConstrainedDecoding.Address
