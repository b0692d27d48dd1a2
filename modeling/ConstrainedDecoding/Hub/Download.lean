import ConstrainedDecoding.Hub.Exchange
import ConstrainedDecoding.Settings
import ConstrainedDecoding.Tokenizer.File

/-! Serialized tokenizers fetched from a hub. -/

namespace ConstrainedDecoding

/-- A vocabulary that was to be fetched, the requests made for it, and the records written. -/
structure Download where
  answer : Except Fault Vocabulary
  requests : List HubRequest
  records : List Record

/-- A failure to fetch what is at an address. -/
def fetchFault (url text : Text) (status : Json) : Fault :=
  .fetch ("Failed to fetch tokenizer from " ++ url ++ ": " ++ text) status (.str url)

/-- The vocabulary in what came of a request. -/
def readAnswer (url : Text) : HubAnswer → Turn (List Record) Vocabulary
  | .failure text => ⟨.error (fetchFault url text .null), []⟩
  | .collapse fault => ⟨.error fault, []⟩
  | .response status _ body =>
    if isSuccess status then readTokenizerPayload (.bytes body)
    else ⟨.error (fetchFault url (toString status ++ " " ++ statusPhrase status) (.int status)), []⟩

/-- The address that a text spells. One that names no server begins at the root of any. -/
def hubAddress (url : Text) : Except Fault Address :=
  match Text.firstRun? Text.isSurrogate 0 url with
  | some run => .error (.unencodable run)
  | none =>
    match Address.ofText ((Text.chars? url).getD []) with
    | .ok address => .ok (if address.isAbsolute then address else address.rooted)
    | .error problem => .error (.address problem.message)

/-- What authorizes a request: the credentials in its address, or else a secret. -/
def authorization (address : Address) (secret : Json) : Except Fault (Option Text) :=
  let bearer : Text := if secret.isTruthy then "Bearer " ++ secret.display else []
  match Text.firstRun? HubAnswer.isForeign 0 bearer with
  | some run => .error (.unencodable run)
  | none => .ok (match address.credentials? with
    | some credentials => some (.ofChars credentials)
    | none => if bearer.isEmpty then none else some bearer)

/-- The requests made for a text that shall be an address, and what came of the last one. -/
def fetch (url : Text) (secret : Json) (follows : Bool) (answers : List HubAnswer) :
    List HubRequest × HubAnswer :=
  match hubAddress url with
  | .error fault => ([], .collapse fault)
  | .ok address =>
    match authorization address secret with
    | .error fault => ([], .collapse fault)
    | .ok authorization => exchange follows redirectLimit address authorization answers

/-- The vocabulary of a model, fetched with a secret if there is one. -/
def fetchVocabulary (url : Text) (secret : Json) (follows : Bool) (answers : List HubAnswer) :
    Download :=
  let (requests, last) := fetch url secret follows answers
  let turn := readAnswer url last
  ⟨turn.answer, requests, ⟨.info, "Fetching tokenizer from " ++ url⟩ :: turn.state⟩

/-- The vocabulary of a model of the hub. Nothing is fetched before the secret is settled. -/
def loadVocabulary (surroundings : Surroundings) (model token baseUrl : Json) (follows : Bool)
    (answers : List HubAnswer) : Download :=
  match surroundings.tokenizerUrl model baseUrl,
      surroundings.hubToken token (.str "secrets.json") with
  | .error fault, _ => ⟨.error fault, [], []⟩
  | .ok _, .error fault => ⟨.error fault, [], []⟩
  | .ok url, .ok secret => fetchVocabulary url secret follows answers

end ConstrainedDecoding
