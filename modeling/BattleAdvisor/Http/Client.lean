import BattleAdvisor.Environment.Basic
import BattleAdvisor.Http.Body
import BattleAdvisor.Http.Session
import BattleAdvisor.Json.Reader
import BattleAdvisor.Preferences
import BattleAdvisor.Text.Blank

/-!
# The remote service over the network

A client turns calls into requests: a listing into one request for each page, an upload into one
that announces the file and one that carries it, and any other call into one request. Each request
carries the key. A response that does not report success is an error with its body as the message.
-/

namespace BattleAdvisor.Http

variable [Library]

/-- What requests are made with. -/
structure Client where
  key : String
  /-- The address of the service, without slashes at its end. -/
  base : String
  deriving DecidableEq, Repr

/-- A conversation with the service. -/
abbrev Talk := ExceptT ServiceError (StateM Session)

/-- The version of the service's interface. -/
def version : String := "v1beta"

/-- The number of items that a page is to have. -/
def pageSize : String := "100"

namespace Talk

/-- Reports something. -/
def report (message : String) : Talk Unit :=
  modify (·.report message)

/-- Sends a request and takes the response if it reports success. -/
def exchange (draft : Draft) : Talk Response :=
  ExceptT.mk fun session =>
    match session.submit draft with
    | (.error fault, session) => (.error (.http fault), session)
    | (.ok response, session) =>
      if response.isSuccess then (.ok response, session)
      else (.error (.api response.status response.message), session)

/-- Takes what the body of a response spells. -/
def read {α : Type} (decode : Bytes → Except Unusable α) (response : Response) : Talk α :=
  ExceptT.mk (pure ((response.read decode).mapError .http))

end Talk

namespace Client

/-- A client with a key and an address; blanks around the key and slashes at the end of the address
are left out. -/
def make (key base : String) : Client :=
  ⟨Text.trim key, String.ofList (base.toList.reverse.dropWhile (· = '/')).reverse⟩

/-- A client with the key that the environment holds and the address that the preferences name. -/
def ofEnvironment (preferences : Preferences) (environment : Environment) :
    Except ServiceError Client :=
  match environment.get? preferences.keyVariable with
  | none => .error (.missingCredential preferences.keyVariable)
  | some key =>
    if Text.trim key = "" then .error (.missingCredential preferences.keyVariable)
    else .ok (make key preferences.address)

/-- The header that carries the key. -/
def keyHeader (client : Client) : String × String :=
  ("x-goog-api-key", client.key)

/-- The address of an operation. -/
def address (client : Client) (path : String) : String :=
  s!"{client.base}/{version}/{path}"

/-- The header of bodies that are values of the data format. -/
def valueHeader : String × String :=
  ("content-type", "application/json")

/-- The request that asks for something. -/
def asking (client : Client) (path : String) (query : List (String × String)) : Draft where
  method := .get
  address := client.address path
  headers := [client.keyHeader]
  query? := some query

/-- The request that sends a value. -/
def posting (client : Client) (path : String) (body : Json.Value) : Draft where
  method := .post
  address := client.address path
  headers := [client.keyHeader, valueHeader]
  body := Utf8.encode body.write

/-- Asks for something. -/
def get {α : Type} (client : Client) (path : String) (query : List (String × String))
    (decode : Bytes → Except Unusable α) : Talk α := do
  Talk.report s!"GET {path}"
  let response ← Talk.exchange (client.asking path query)
  Talk.read decode response

/-- Sends a value and takes what comes back. -/
def post {α : Type} (client : Client) (path : String) (body : Json.Value)
    (decode : Bytes → Except Unusable α) : Talk α := do
  Talk.report s!"POST {path}"
  let response ← Talk.exchange (client.posting path body)
  Talk.read decode response

/-! ## Listings -/

/-- The query for a page. -/
def queryForPage : Option String → List (String × String)
  | none => [("pageSize", pageSize)]
  | some token => [("pageSize", pageSize), ("pageToken", token)]

/-- Takes page after page, from the one with the given token; `pages` bounds their number. -/
def listFrom {α : Type} (client : Client) (path : String)
    (format : Json.RecordFormat (Body.Page α)) :
    (pages : Nat) → (token? : Option String) → Talk (List α)
  | 0, _ => return []
  | pages + 1, token? => do
    let page ← client.get path (queryForPage token?) (Library.decode format)
    match page.next? with
    | none => return page.items
    | some token => return page.items ++ (← listFrom client path format pages (some token))

/-- Takes all pages. Each one is a response of the network. -/
def list {α : Type} (client : Client) (path : String)
    (format : Json.RecordFormat (Body.Page α)) : Talk (List α) := do
  let session ← MonadState.get
  client.listFrom path format (session.network.patience + 1) none

/-! ## Uploads -/

/-- The request that announces a file. -/
def announcement (client : Client) (upload : Upload) (mediaType : String) : Draft where
  method := .post
  address := s!"{client.base}/upload/{version}/files"
  headers := [
    client.keyHeader,
    ("x-goog-upload-protocol", "resumable"),
    ("x-goog-upload-command", "start"),
    ("x-goog-upload-header-content-length", toString upload.bytes.length),
    ("x-goog-upload-header-content-type", mediaType),
    valueHeader]
  body := Utf8.encode (Body.ofUpload upload).write

/-- The request that carries a file. -/
def delivery (client : Client) (address : String) (bytes : Bytes) : Draft where
  method := .post
  address := address
  headers := [
    client.keyHeader,
    ("x-goog-upload-offset", "0"),
    ("x-goog-upload-command", "upload, finalize")]
  body := bytes

/-- Uploads a file. The response to the announcement names the address to which it goes. -/
def upload (client : Client) (upload : Upload) : Talk UploadedFile := do
  let mediaType := upload.mimeType?.getD Body.unknownMediaType
  let size := upload.bytes.length
  Talk.report s!"Starting upload of {upload.displayName} ({size} bytes, {mediaType})"
  let announced ← Talk.exchange (client.announcement upload mediaType)
  match announced.header? "x-goog-upload-url" with
  | none => throw (.invalidResponse "Missing upload URL")
  | some address =>
    let response ← Talk.exchange (client.delivery address upload.bytes)
    Talk.read (Library.decode Body.uploaded) response

/-! ## Calls -/

/-- The path of a model. -/
def pathOfModel (model : String) : String :=
  if "models/".toList.isPrefixOf model.toList then model else "models/" ++ model

/-- The path at which a model generates. -/
def pathToGenerate (request : ModelRequest) : String :=
  pathOfModel request.model ++ ":generateContent"

/-- Has the model generate. -/
def generate (client : Client) (request : ModelRequest) : Talk ModelReply := do
  let raw ← client.post (pathToGenerate request) (Body.ofModelRequest request)
    (decodeText Json.Value.parse)
  return ⟨Body.replyText? raw, raw⟩

/-- Makes a call. -/
def perform (client : Client) : (call : Call) → Talk call.Answer
  | .listFiles => client.list "files" Body.filePage
  | .uploadFile upload => client.upload upload
  | .listCaches => client.list "cachedContents" Body.cachePage
  | .createCache request =>
    client.post "cachedContents" (Body.ofCacheRequest request) (Library.decode ContentCache.format)
  | .getModel model => client.get (pathOfModel model) [] (Library.decode ModelCard.format)
  | .generate request => client.generate request

/-- The service whose states are sessions. -/
def service (client : Client) : Service Session where
  answer call session :=
    let (result, session) := (client.perform call).run.run session
    (⟨result, session.reports⟩, { session with reports := [] })

end Client

end BattleAdvisor.Http
