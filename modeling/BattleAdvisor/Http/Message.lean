import BattleAdvisor.Http.Fault
import BattleAdvisor.Http.Url

/-!
# Requests and responses

A request is drafted with its address as a text and is built before it is sent: the address must be
one to which requests can be sent, and not too long, and header values must not have control
characters.
-/

namespace BattleAdvisor.Http

/-- What a request does. -/
inductive Method where
  | get
  | post
  deriving DecidableEq, Repr

/-- The name of a method. -/
def Method.name : Method → String
  | .get => "GET"
  | .post => "POST"

/-- A request. The names of headers are in lower case. -/
structure Request where
  method : Method
  url : Url
  headers : List (String × String)
  body : Bytes
  deriving DecidableEq

/-- A request before it is built. -/
structure Draft where
  method : Method
  address : String
  headers : List (String × String)
  /-- What is added to the query of the address, if anything is. -/
  query? : Option (List (String × String)) := none
  body : Bytes := []

/-- A response, as it is received. -/
structure Response where
  status : Nat
  headers : List (String × Bytes)
  body : Bytes
  /-- Whether the body has its announced length. -/
  complete : Bool := true

/-- Whether a character may stand in a header value. -/
def isHeaderChar (c : Char) : Bool :=
  c = '\t' || (0x20 ≤ c.toNat && c.toNat ≠ 0x7F)

/-- The address with what is added to its query. -/
def Draft.target (draft : Draft) (url : Url) : Url :=
  match draft.query? with
  | some pairs => url.addQuery pairs
  | none => url

/-- Builds a request. -/
def Draft.build [Hosts] (draft : Draft) : Except Fault Request :=
  match Url.read draft.address with
  | .error fault => .error (.unbuilt (.address fault))
  | .ok url =>
    if !url.hasHost then .error (.unservable url.text)
    else if !(draft.headers.all fun header => header.2.toList.all isHeaderChar) then
      .error (.unbuilt .header)
    else
      let url := draft.target url
      if !url.isServable then .error (.unservable url.text)
      else if url.isShort && url.isAdmitted then
        .ok ⟨draft.method, url, draft.headers, draft.body⟩
      else .error (.inadmissible url.text)

namespace Response

/-- Whether a response reports success. -/
def isSuccess (response : Response) : Bool :=
  200 ≤ response.status && response.status < 300

/-- The statuses of responses that may lead on to another address. -/
def leadingStatuses : List Nat := [301, 302, 303, 307, 308]

/-- Whether a response is the last one to its request: it announces no other, and leads on to no
other address. -/
def isFinal (response : Response) : Bool :=
  200 ≤ response.status && !(leadingStatuses.contains response.status &&
    response.headers.any fun header => header.1.toLower = "location")

/-- Leaves out spaces and tabs at both ends. -/
def trimValue (value : Bytes) : Bytes :=
  let isSpace := fun b : UInt8 => b = 0x20 || b = 0x09
  ((value.dropWhile isSpace).reverse.dropWhile isSpace).reverse

/-- The value of a header, as far as it is made of printed characters, spaces and tabs. -/
def header? (response : Response) (name : String) : Option String :=
  match response.headers.find? fun header => header.1.toLower = name with
  | none => none
  | some header =>
    let value := trimValue header.2
    if value.all fun b => b = 0x09 || (0x20 ≤ b && b < 0x7F) then Utf8.decode? value else none

end Response

end BattleAdvisor.Http
