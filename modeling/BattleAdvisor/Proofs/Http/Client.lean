import BattleAdvisor.Http.Client
import BattleAdvisor.Proofs.Http.Address
import BattleAdvisor.Proofs.Text.Utf8

/-!
# Requests of a client

A client talks over a scripted network: it sends requests, and a reaction of the script answers each
of them. `Talk.Sends` says which requests a talk sends on a network that reacts in a given way, and
what it comes to. `Client.Reaches.get` and `Client.Reaches.post` say so of single requests, as long
as the response is the last one to its request: the library below hands it on, and sends nothing by
itself.
-/

namespace BattleAdvisor.Http

open Json (Value RecordFormat ReadError wordLimit)

/-! ## Responses -/

section

variable {α : Type} {decode : Bytes → Except Unusable α} {parse : String → Except ReadError α}
  {response : Response}

/-- Bytes that are a text are read like the text. -/
def ReadsTexts (decode : Bytes → Except Unusable α) (parse : String → Except ReadError α) : Prop :=
  ∀ text, decode (Utf8.encode text) = (parse text).mapError .malformed

theorem readsTexts_decodeText (parse : String → Except ReadError α) :
    ReadsTexts (decodeText parse) parse := by
  intro text
  rw [decodeText, Utf8.decode?_encode]

theorem readsTexts_decode [Library] [LawfulLibrary] (format : RecordFormat α) :
    ReadsTexts (Library.decode format) format.parse :=
  LawfulLibrary.decode_encode format

/-- A response that reports success, with a text as its body that spells something. -/
structure Response.Spells (response : Response) (parse : String → Except ReadError α) (a : α) :
    Prop where
  success : response.isSuccess = true
  complete : response.complete = true
  body : ∃ text, response.body = Utf8.encode text ∧ parse text = .ok a

theorem Response.Spells.read {a : α} (spells : response.Spells parse a)
    (reads : ReadsTexts decode parse) : response.read decode = .ok a := by
  obtain ⟨text, body, parsed⟩ := spells.body
  rw [Response.read, if_pos spells.complete, body, reads text, parsed]
  rfl

/-- No response that reports success or an error leads on to another one. -/
theorem Response.isFinal_of_status (least : 200 ≤ response.status)
    (direct : response.status < 300 ∨ 400 ≤ response.status) : response.isFinal = true := by
  have stays : response.status ∉ leadingStatuses := by
    simp only [leadingStatuses, List.mem_cons, List.not_mem_nil, or_false]
    omega
  simp [isFinal, least, stays]

theorem Response.isFinal_of_isSuccess (success : response.isSuccess = true) :
    response.isFinal = true := by
  simp only [isSuccess, Bool.and_eq_true, decide_eq_true_eq] at success
  exact isFinal_of_status success.1 (.inl success.2)

variable [Library]

/-- A response that refuses: it reports an error, and its body is the message. -/
structure Response.Refuses (response : Response) (error : ServiceError) : Prop where
  isApi : error = .api response.status response.message
  least : 400 ≤ response.status
  greatest : response.status ≤ 599

theorem Response.Refuses.isSuccess {error : ServiceError} (refuses : response.Refuses error) :
    response.isSuccess = false := by
  have := refuses.least
  simp [Response.isSuccess]
  omega

theorem Response.Refuses.isFinal {error : ServiceError} (refuses : response.Refuses error) :
    response.isFinal = true :=
  isFinal_of_status (Nat.le_trans (by decide) refuses.least) (.inr refuses.least)

/-- The message of a response is the text that its body is, if it is sent in the usual encoding and
does not begin with a byte order mark. -/
theorem Response.message_of_body [LawfulLibrary] {message : String}
    (complete : response.complete = true) (usual : response.NamesNoEncoding)
    (body : response.body = Utf8.encode message) (unmarked : message.toList.head? ≠ some '\ufeff') :
    response.message = message := by
  rw [Response.message, if_pos complete]
  exact LawfulLibrary.text_encode usual body unmarked

/-- What a client makes of a response: what its body spells, or an error. -/
def Response.result (response : Response) (decode : Bytes → Except Unusable α) :
    Except ServiceError α :=
  if response.isSuccess then (response.read decode).mapError .http
  else .error (.api response.status response.message)

theorem Response.result_of_not_isSuccess (failed : response.isSuccess = false) :
    response.result decode = .error (.api response.status response.message) := by
  rw [result, failed, if_neg Bool.false_ne_true]

theorem Response.result_of_isSuccess (success : response.isSuccess = true) :
    response.result decode = (response.read decode).mapError .http := by
  rw [result, if_pos success]

theorem Response.result_eq_ok {a : α} :
    response.result decode = .ok a ↔ response.isSuccess = true ∧ response.read decode = .ok a := by
  cases success : response.isSuccess with
  | false => simp [result_of_not_isSuccess success]
  | true =>
    rw [result_of_isSuccess success]
    cases response.read decode <;> simp [Except.mapError]

theorem Response.Spells.result {a : α} (spells : response.Spells parse a)
    (reads : ReadsTexts decode parse) : response.result decode = .ok a :=
  result_eq_ok.mpr ⟨spells.success, spells.read reads⟩

theorem Response.Refuses.result {error : ServiceError} (refuses : response.Refuses error) :
    response.result decode = .error error := by
  rw [result_of_not_isSuccess refuses.isSuccess, refuses.isApi]

end

/-! ## Talking -/

namespace Talk

variable {α β : Type}

/-- On a network that reacts like this, a talk sends just these requests, comes to the result, and
leaves the rest of the reactions. -/
def Sends (talk : Talk α) (reactions : List Reaction) (requests : List Request)
    (result : Except ServiceError α) (rest : List Reaction) : Prop :=
  ∀ session : Session, session.network = .scripted reactions →
    ∃ next : Session, talk.run.run session = (result, next) ∧ next.network = .scripted rest ∧
      next.sent = session.sent ++ requests

/-- On a network that reacts like this, a talk comes to the result, and leaves the rest of the
reactions. -/
def Comes (talk : Talk α) (reactions : List Reaction) (result : Except ServiceError α)
    (rest : List Reaction) : Prop :=
  ∀ session : Session, session.network = .scripted reactions →
    ∃ next : Session, talk.run.run session = (result, next) ∧ next.network = .scripted rest

theorem run_bind (x : Talk α) (f : α → Talk β) (session : Session) :
    (x >>= f).run.run session =
      match x.run.run session with
      | (.ok a, next) => (f a).run.run next
      | (.error error, next) => (.error error, next) := by
  show (ExceptT.bind x f).run.run session = _
  simp only [ExceptT.bind, ExceptT.run_mk, StateT.run_bind]
  show (ExceptT.bindCont f (x.run.run session).1).run (x.run.run session).2 = _
  rcases x.run.run session with ⟨result, next⟩
  cases result <;> rfl

theorem Sends.bind_ok {x : Talk α} {f : α → Talk β} {first second third : List Reaction}
    {before after : List Request} {a : α} {result : Except ServiceError β}
    (h : x.Sends first before (.ok a) second) (h' : (f a).Sends second after result third) :
    (x >>= f).Sends first (before ++ after) result third := by
  intro session network
  obtain ⟨next, run, network, sent⟩ := h session network
  obtain ⟨last, run', network, sent'⟩ := h' next network
  exact ⟨last, by rw [run_bind, run]; exact run', network,
    by rw [sent', sent, List.append_assoc]⟩

theorem Sends.bind_error {x : Talk α} {f : α → Talk β} {first second : List Reaction}
    {requests : List Request} {error : ServiceError}
    (h : x.Sends first requests (.error error) second) :
    (x >>= f).Sends first requests (.error error) second := by
  intro session network
  obtain ⟨next, run, network, sent⟩ := h session network
  exact ⟨next, by rw [run_bind, run], network, sent⟩

theorem sends_pure (a : α) (reactions : List Reaction) :
    (pure a : Talk α).Sends reactions [] (.ok a) reactions :=
  fun session network => ⟨session, rfl, network, (List.append_nil _).symm⟩

/-- What a talk comes to may be changed behind it. -/
theorem Sends.map {x : Talk α} {first second : List Reaction} {requests : List Request}
    {result : Except ServiceError α} (h : x.Sends first requests result second) (f : α → β) :
    (x >>= fun a => pure (f a)).Sends first requests (result.map f) second := by
  cases result with
  | error error => exact h.bind_error
  | ok a => exact List.append_nil requests ▸ h.bind_ok (sends_pure (f a) second)

theorem sends_throw (error : ServiceError) (reactions : List Reaction) :
    (throw error : Talk α).Sends reactions [] (.error error) reactions :=
  fun session network => ⟨session, rfl, network, (List.append_nil _).symm⟩

theorem sends_report (message : String) (reactions : List Reaction) :
    (report message).Sends reactions [] (.ok ()) reactions :=
  fun session network => ⟨session.report message, rfl, network, (List.append_nil _).symm⟩

theorem Sends.comes {talk : Talk α} {reactions rest : List Reaction} {requests : List Request}
    {result : Except ServiceError α} (h : talk.Sends reactions requests result rest) :
    talk.Comes reactions result rest := by
  intro session network
  obtain ⟨next, run, network, -⟩ := h session network
  exact ⟨next, run, network⟩

theorem sends_read (decode : Bytes → Except Unusable α) (response : Response)
    (reactions : List Reaction) :
    (read decode response).Sends reactions [] ((response.read decode).mapError .http) reactions :=
  fun session network => ⟨session, rfl, network, (List.append_nil _).symm⟩

variable [Library]

/-- A request that cannot be built is not sent. -/
theorem sends_unbuilt {draft : Draft} {fault : Fault} (unbuilt : draft.build = .error fault)
    (reactions : List Reaction) :
    (exchange draft).Sends reactions [] (.error (.http fault)) reactions := by
  intro session network
  have submitted : session.submit draft = (.error fault, session) := by
    rw [Session.submit, unbuilt]
  refine ⟨session, ?_, network, (List.append_nil _).symm⟩
  unfold exchange ExceptT.mk ExceptT.run StateT.run
  simp only [submitted]

variable [LawfulLibrary]

/-- A request that is built gets the next response, if this leads on to no other one. -/
theorem sends_exchange {draft : Draft} {request : Request} (built : draft.build = .ok request)
    {response : Response} (final : response.isFinal = true) (rest : List Reaction) :
    (exchange draft).Sends (.respond response :: rest) [request]
      (if response.isSuccess then .ok response
        else .error (.api response.status response.message)) rest := by
  intro session network
  let next : Session :=
    { session with network := .scripted rest, sent := session.sent ++ [request] }
  have sent : session.submit draft = (.ok response, next) := by
    unfold Session.submit Session.send
    rw [built]
    simp only [network, Session.hear, LawfulLibrary.onward_final final, next]
  refine ⟨next, ?_, rfl, rfl⟩
  unfold exchange ExceptT.mk ExceptT.run StateT.run
  simp only [sent]
  cases response.isSuccess <;> rfl

/-- A response is taken for a request that is built. -/
theorem sends_response {draft : Draft} {request : Request} (built : draft.build = .ok request)
    {response : Response} (final : response.isFinal = true) (decode : Bytes → Except Unusable α)
    (rest : List Reaction) :
    (exchange draft >>= read decode).Sends (.respond response :: rest) [request]
      (response.result decode) rest := by
  have sends := sends_exchange built final rest
  cases success : response.isSuccess with
  | false =>
    rw [success, if_neg Bool.false_ne_true] at sends
    rw [Response.result_of_not_isSuccess success]
    exact sends.bind_error
  | true =>
    rw [success, if_pos rfl] at sends
    rw [Response.result_of_isSuccess success]
    exact sends.bind_ok (sends_read decode response rest)

end Talk

namespace Client

/-! ## Requests -/

variable {client : Client} {path : String} {url : Url}

/-- The client can send requests to an address: the key may stand in a header, and the address is
read as one to which requests can be sent. -/
structure Reaches [Hosts] (client : Client) (address : String) (url : Url) : Prop where
  key : client.key.toList.all isHeaderChar = true
  read : Url.read address = .ok url
  usable : url.IsUsable

/-- A client whose requests are built, if their addresses are not too long: the key may stand in a
header, and requests can be sent to the address. -/
structure Usable [Hosts] (client : Client) : Prop where
  key : client.key.toList.all isHeaderChar = true
  base : ∃ url, Url.read (client.base ++ "/") = .ok url ∧ url.IsUsable

theorem address_eq (client : Client) (path : String) :
    client.address path = client.base ++ "/" ++ ("v1beta/" ++ path) := by
  unfold address version
  simp only [toString]
  apply String.toList_injective
  simp

theorem Usable.reaches_below [Hosts] (usable : client.Usable) (path : String) :
    ∃ url, client.Reaches (client.base ++ "/" ++ path) url := by
  obtain ⟨url, read, served⟩ := usable.base
  obtain ⟨below, read, served⟩ := Url.read_below read served path
  exact ⟨below, usable.key, read, served⟩

theorem Usable.reaches [Hosts] (usable : client.Usable) (path : String) :
    ∃ url, client.Reaches (client.address path) url := by
  rw [address_eq]
  exact usable.reaches_below _

/-- The request that asks for something, at an address. -/
def getRequest (client : Client) (url : Url) (query : List (String × String)) : Request :=
  ⟨.get, url.addQuery query, [client.keyHeader], []⟩

/-- The request that sends a value to an address. -/
def postRequest (client : Client) (url : Url) (body : Value) : Request :=
  ⟨.post, url, [client.keyHeader, valueHeader], Utf8.encode body.write⟩

theorem plain_asking (key : client.key.toList.all isHeaderChar = true) (path : String)
    (query : List (String × String)) :
    ∀ header ∈ (client.asking path query).headers, header.2.toList.all isHeaderChar = true := by
  simpa [asking, keyHeader] using key

theorem plain_posting (key : client.key.toList.all isHeaderChar = true) (path : String)
    (body : Value) :
    ∀ header ∈ (client.posting path body).headers, header.2.toList.all isHeaderChar = true := by
  intro header h
  simp only [posting, List.mem_cons, List.not_mem_nil, or_false] at h
  rcases h with rfl | rfl
  · exact key
  · decide

/-- The first request of a call. -/
def firstDraft (client : Client) : Call → Draft
  | .listFiles => client.asking "files" (queryForPage none)
  | .uploadFile upload =>
    client.announcement upload (upload.mimeType?.getD Body.unknownMediaType)
  | .listCaches => client.asking "cachedContents" (queryForPage none)
  | .createCache request => client.posting "cachedContents" (Body.ofCacheRequest request)
  | .getModel model => client.asking (pathOfModel model) []
  | .generate request => client.posting (pathToGenerate request) (Body.ofModelRequest request)

/-- The address of the first request of a call is not too long. -/
def Fits [Hosts] (client : Client) (call : Call) : Prop :=
  (client.firstDraft call).IsShort

instance [Hosts] (client : Client) (call : Call) : Decidable (client.Fits call) :=
  inferInstanceAs (Decidable (Draft.IsShort _))

section

variable [Library]

theorem Reaches.build_asking (reaches : client.Reaches (client.address path) url)
    {query : List (String × String)} (short : (url.addQuery query).isShort = true) :
    (client.asking path query).build = .ok (client.getRequest url query) :=
  (Draft.build_eq_ok (plain_asking reaches.key path query)).mpr
    ⟨url, reaches.read, reaches.usable, short, rfl⟩

theorem Reaches.build_asking_of_not_isShort (reaches : client.Reaches (client.address path) url)
    {query : List (String × String)} (long : (url.addQuery query).isShort = false) :
    (client.asking path query).build = .error (.inadmissible (url.addQuery query).text) :=
  (client.asking path query).build_of_not_isShort reaches.read reaches.usable
    (plain_asking reaches.key path query) long

theorem Reaches.build_posting (reaches : client.Reaches (client.address path) url)
    (short : url.isShort = true) (body : Value) :
    (client.posting path body).build = .ok (client.postRequest url body) :=
  (Draft.build_eq_ok (plain_posting reaches.key path body)).mpr
    ⟨url, reaches.read, reaches.usable, short, rfl⟩

variable {α : Type}

/-- Nothing is sent to an address that becomes too long. -/
theorem Reaches.get_of_not_isShort (reaches : client.Reaches (client.address path) url)
    {query : List (String × String)} (long : (url.addQuery query).isShort = false)
    (decode : Bytes → Except Unusable α) (reactions : List Reaction) :
    (client.get path query decode).Sends reactions []
      (.error (.http (.inadmissible (url.addQuery query).text))) reactions :=
  (Talk.sends_report _ _).bind_ok
    (Talk.sends_unbuilt (reaches.build_asking_of_not_isShort long) reactions).bind_error

variable [LawfulLibrary] {response : Response}

/-- Asking for something is one request, with the query behind that of the address. -/
theorem Reaches.get (reaches : client.Reaches (client.address path) url)
    {query : List (String × String)} (short : (url.addQuery query).isShort = true)
    (decode : Bytes → Except Unusable α) (final : response.isFinal = true)
    (rest : List Reaction) :
    (client.get path query decode).Sends (.respond response :: rest)
      [client.getRequest url query] (response.result decode) rest :=
  (Talk.sends_report _ _).bind_ok
    (Talk.sends_response (reaches.build_asking short) final decode rest)

/-- Sending a value is one request. -/
theorem Reaches.post (reaches : client.Reaches (client.address path) url)
    (short : url.isShort = true) (body : Value) (decode : Bytes → Except Unusable α)
    (final : response.isFinal = true) (rest : List Reaction) :
    (client.post path body decode).Sends (.respond response :: rest)
      [client.postRequest url body] (response.result decode) rest :=
  (Talk.sends_report _ _).bind_ok
    (Talk.sends_response (reaches.build_posting short body) final decode rest)

end

/-! ## Headers of uploads -/

theorem isHeaderChar_of_isDigit {c : Char} (h : c.isDigit = true) : isHeaderChar c = true := by
  simp only [Char.isDigit, Bool.and_eq_true, decide_eq_true_eq, UInt32.le_iff_toNat_le] at h
  simp only [isHeaderChar, Char.toNat, Bool.or_eq_true, Bool.and_eq_true, decide_eq_true_eq]
  have least : '0'.val.toNat = 48 := rfl
  have greatest : '9'.val.toNat = 57 := rfl
  right
  omega

/-- The headers of an announcement are in order if the key and the media type are. -/
theorem plain_announcement (key : client.key.toList.all isHeaderChar = true) (upload : Upload)
    {mediaType : String} (plain : mediaType.toList.all isHeaderChar = true) :
    ∀ header ∈ (client.announcement upload mediaType).headers,
      header.2.toList.all isHeaderChar = true := by
  intro header h
  simp only [announcement, List.mem_cons, List.not_mem_nil, or_false] at h
  rcases h with rfl | rfl | rfl | rfl | rfl | rfl
  · exact key
  · decide
  · decide
  · simp only [List.all_eq_true]
    intro c h
    have digits : (toString upload.bytes.length).toList = Nat.toDigits 10 upload.bytes.length :=
      Nat.toList_repr
    exact isHeaderChar_of_isDigit
      (Nat.isDigit_of_mem_toDigits (by decide) (by decide) (digits ▸ h))
  · exact plain
  · decide

theorem plain_delivery (key : client.key.toList.all isHeaderChar = true) (address : String)
    (bytes : Bytes) :
    ∀ header ∈ (client.delivery address bytes).headers,
      header.2.toList.all isHeaderChar = true := by
  intro header h
  simp only [delivery, List.mem_cons, List.not_mem_nil, or_false] at h
  rcases h with rfl | rfl | rfl
  · exact key
  · decide
  · decide

theorem plain_mediaType {upload : Upload}
    (plain : ∀ t ∈ upload.mimeType?, t.toList.all isHeaderChar = true) :
    (upload.mimeType?.getD Body.unknownMediaType).toList.all isHeaderChar = true := by
  cases given : upload.mimeType? with
  | none => decide
  | some mediaType => exact plain mediaType given

/-- Where files are announced. -/
def uploadAddress (client : Client) : String :=
  client.base ++ "/" ++ "upload/v1beta/files"

theorem address_announcement (client : Client) (upload : Upload) (mediaType : String) :
    (client.announcement upload mediaType).address = client.uploadAddress := by
  unfold announcement uploadAddress version
  simp only [toString]
  apply String.toList_injective
  simp

end Client

end BattleAdvisor.Http
