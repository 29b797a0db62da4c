import BattleAdvisor.Http.Message
import BattleAdvisor.Json.Record

/-!
# The library below

Requests are sent by a library that is not part of this one. It sends some requests by itself, where
a response leads on to another address; it turns the bodies of responses into texts, with tables of
the ways in which texts are encoded; and records are read from bytes, of which not all need to be a
text. All of this is given as an instance of `Library`, with what is relied on.
-/

namespace BattleAdvisor.Http

/-- What is done about a response. -/
inductive Onward where
  /-- It is handed on. -/
  | take
  /-- Another response to the same request is awaited. -/
  | wait
  /-- Another request is sent. -/
  | follow (request : Request)
  | fail (fault : Fault)

/-- The library that sends requests and reads what comes back. -/
class Library extends Hosts where
  /-- What is done about the response to a request, to which earlier requests have led. -/
  onward : (earlier : List Request) → Request → Response → Onward
  /-- The body of a response as a text. -/
  text : Response → String
  /-- The record that bytes spell. -/
  decode : {α : Type} → Json.RecordFormat α → Bytes → Except Unusable α

/-- Reads a value from bytes that must be a text. -/
def decodeText {α : Type} (parse : String → Except Json.ReadError α) (body : Bytes) :
    Except Unusable α :=
  match Utf8.decode? body with
  | none => .error .notText
  | some text => (parse text).mapError .malformed

namespace Response

/-- The body as a text, for messages; a body that is cut has none. -/
def message [Library] (response : Response) : String :=
  if response.complete then Library.text response else ""

/-- What the body spells. -/
def read {α : Type} (decode : Bytes → Except Unusable α) (response : Response) : Except Fault α :=
  if response.complete then (decode response.body).mapError .unusable else .error (.unusable .cut)

end Response

/-! ## What is relied on -/

/-- A name that is read as it stands: it is made of small letters, from `a` to `z`. -/
def IsPlainName (name : List Char) : Prop :=
  name ≠ [] ∧ name.all Char.isLower = true

instance (name : List Char) : Decidable (IsPlainName name) :=
  inferInstanceAs (Decidable (_ ∧ _))

/-- Whether a response is sent in the usual encoding of texts: its media type has no parameter that
names another one. -/
def Response.NamesNoEncoding (response : Response) : Prop :=
  ∀ header ∈ response.headers, header.1.toLower = "content-type" → (0x3B : UInt8) ∉ header.2

/-- The headers of a request that may change where a response leads on to another address. -/
def passingHeaders : List String := [
  "transfer-encoding", "content-encoding", "content-type", "content-length", "authorization",
  "cookie", "cookie2", "proxy-authorization", "www-authenticate", "referer"]

/-- What is relied on of the library. -/
class LawfulLibrary [Library] : Prop where
  read_plain : ∀ {name}, IsPlainName name → Hosts.read name = .ok name
  admits_plain : ∀ {name}, IsPlainName name → Hosts.admits name = true
  /-- The last response to a request is handed on. -/
  onward_final : ∀ {earlier request response}, response.isFinal = true →
    Library.onward earlier request response = .take
  /-- A further request has the headers of the one before it. -/
  onward_keeps : ∀ {earlier request response next},
    Library.onward earlier request response = .follow next → ∀ name, name ∉ passingHeaders →
      next.headers.filter (·.1 = name) = request.headers.filter (·.1 = name)
  /-- A text in the usual encoding is read as it is, if it does not begin with a byte order mark. -/
  text_encode : ∀ {response message}, response.NamesNoEncoding →
    response.body = Utf8.encode message → message.toList.head? ≠ some '\ufeff' →
      Library.text response = message
  /-- From the bytes of a text, a record is read as from the text. -/
  decode_encode : ∀ {α : Type} (format : Json.RecordFormat α) (text : String),
    Library.decode format (Utf8.encode text) = (format.parse text).mapError .malformed

end BattleAdvisor.Http
