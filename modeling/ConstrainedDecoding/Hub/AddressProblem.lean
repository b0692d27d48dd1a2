import ConstrainedDecoding.Text.Quoted

/-! Why a text is no address. -/

namespace ConstrainedDecoding

/-- Why a text is no address. -/
inductive AddressProblem where
  | tooLong
  | control (char : Char) (position : Nat)
  | fourNumbers (host : List Char)
  | bracketed (host : List Char)
  | international (host : List Char)
  | portNumber (text : List Char)
  /-- A path after a server that does not begin with a slash. -/
  | attachedPath
  /-- Two slashes at the beginning of a path without a server. -/
  | doubleSlash
  /-- A colon at the beginning of a path without a server. -/
  | leadingColon
  deriving DecidableEq

/-- The wording of a reason why a text is no address. -/
def AddressProblem.message : AddressProblem → Text
  | tooLong => "URL too long"
  | control char position =>
    "Invalid non-printable ASCII character in URL, " ++ Text.quoted [.char char] ++ " at position " ++
      toString position ++ "."
  | fourNumbers host => "Invalid IPv4 address: " ++ Text.quoted (.ofChars host)
  | bracketed host => "Invalid IPv6 address: " ++ Text.quoted (.ofChars host)
  | international host => "Invalid IDNA hostname: " ++ Text.quoted (.ofChars host)
  | portNumber text => "Invalid port: " ++ Text.quoted (.ofChars text)
  | attachedPath => "For absolute URLs, path must be empty or begin with '/'"
  | doubleSlash => "Relative URLs cannot have a path starting with '//'"
  | leadingColon => "Relative URLs cannot have a path starting with ':'"

end ConstrainedDecoding
