import ConstrainedDecoding.Fault
import ConstrainedDecoding.Hub.Reference
import ConstrainedDecoding.Hub.Status
import ConstrainedDecoding.Json.Fields

/-! Requests to servers, what comes of them, and redirects from one address to another. -/

namespace ConstrainedDecoding

/-- A request for what is at an address. -/
structure HubRequest where
  address : Text
  authorization : Option Text
  deriving DecidableEq

/-- What comes of a request: a response, a failure on the way, or one that is not the hub's. -/
inductive HubAnswer where
  | response (status : Nat) (location : Option (List Char)) (body : Bytes)
  | failure (text : Text)
  | collapse (fault : Fault)

namespace HubAnswer

/-- A letter outside ASCII. -/
def isForeign (letter : Letter) : Bool :=
  0x80 ≤ letter.number

/-- The locations that headers state, one after the other. -/
def locationOf (headers : List (Text × Text)) : Option (List Char) :=
  match headers.filter fun header => header.1 == Text.ofString "location" with
  | [] => none
  | stated => Text.chars? (Text.joinWith ", " (stated.map (·.2)))

/-- A response with headers, which have to be plain ASCII. Their names are in lower case. -/
def ofHeaders (status : Nat) (headers : List (Text × Text)) (body : Bytes) : HubAnswer :=
  match headers.findSome? fun header => Text.firstRun? isForeign 0 (header.1 ++ header.2) with
  | some run => .collapse (.unencodable run)
  | none => .response status (locationOf headers) body

end HubAnswer

/-- How many redirects are followed. -/
def redirectLimit : Nat := 20

/-- The address that a response leads to, or what comes of the request if it leads nowhere. -/
def redirectTarget (address : Address) (location : List Char) : Except HubAnswer Address :=
  match Address.ofText location with
  | .error problem => .error (.failure ("Invalid URL in location header: " ++ problem.message ++ "."))
  | .ok reference =>
    (address.resolve reference).mapError fun problem => .collapse (.address problem.message)

/-- The request that an address and a secret make. -/
def hubRequest (address : Address) (authorization : Option Text) : HubRequest :=
  ⟨.ofChars address.text, authorization⟩

/-- The requests made for an address, and what came of the last one.

Redirects are followed while any are left to follow; the secret does not leave its server. -/
def exchange (follows : Bool) : Nat → Address → Option Text → List HubAnswer →
    List HubRequest × HubAnswer
  | _, address, authorization, [] =>
    ([hubRequest address authorization], .collapse (.outOfRange "no answer is left"))
  | left, address, authorization, answer :: answers =>
    let sent := hubRequest address authorization
    match answer with
    | .response status location _ =>
      if !address.statesKind then
        ([sent], .collapse (.invalid (.addressKind sent.address)))
      else match location.filter fun _ => isRedirect status with
        | none => ([sent], answer)
        | some location =>
          match redirectTarget address location, follows, left with
          | .error ending, _, _ => ([sent], ending)
          | .ok _, false, _ => ([sent], answer)
          | .ok _, true, 0 => ([sent], .failure "Exceeded maximum allowed redirects.")
          | .ok next, true, left + 1 =>
            let kept := if address.sharesSecrets next then authorization else none
            let (later, last) := exchange follows left next kept answers
            (sent :: later, last)
    | _ => ([sent], answer)

end ConstrainedDecoding
