import BattleAdvisor.Proofs.Http.Body
import BattleAdvisor.Proofs.Http.Plain
import BattleAdvisor.Proofs.Json.Canonical

/-!
# Uploads, step by step

An upload announces a file, and carries it to the address that the first response names. What can
come of the two responses is in `Uploading`: only if the first response invites the file
(`Response.Invites`), the file is carried anywhere, and the second response counts.

**Theorem (`upload_in_two_steps`).** This is all that an upload sends. The announcement has the
number of bytes, the media type and the display name, which is read back from its body whatever its
characters; and what is carried is just the bytes.
-/

namespace BattleAdvisor.Http

open Json (Value)

/-- The header in which a response names the address for a file. -/
def uploadHeader : String := "x-goog-upload-url"

/-- A response invites a file to an address to which requests can be sent. -/
structure Response.Invites [Hosts] (response : Response) (address : String) (url : Url) : Prop where
  success : response.isSuccess = true
  named : response.header? uploadHeader = some address
  read : Url.read address = .ok url
  usable : url.IsUsable
  short : url.isShort = true

/-- A request announces a file. -/
structure Announces (upload : Upload) (url : Url) (request : Request) : Prop where
  method : request.method = .post
  url : request.url = url
  protocol : request.headers.lookup "x-goog-upload-protocol" = some "resumable"
  command : request.headers.lookup "x-goog-upload-command" = some "start"
  size : request.headers.lookup "x-goog-upload-header-content-length" =
    some (toString upload.bytes.length)
  mediaType : request.headers.lookup "x-goog-upload-header-content-type" =
    some (upload.mimeType?.getD "application/octet-stream")
  /-- The body, read back, is an object that names the display name. -/
  body : ∃ text, Utf8.decode? request.body = some text ∧ Value.parse text =
    .ok (.object [("file", .object [("displayName", .string upload.displayName)])])

/-- A request carries a file. -/
structure Delivers (upload : Upload) (url : Url) (request : Request) : Prop where
  method : request.method = .post
  url : request.url = url
  command : request.headers.lookup "x-goog-upload-command" = some "upload, finalize"
  offset : request.headers.lookup "x-goog-upload-offset" = some "0"
  body : request.body = upload.bytes

/-- What can come of an upload with these two responses: where the file is carried, if anywhere, and
the result. -/
inductive Uploading [Library] (first second : Response) :
    Option Url → Except ServiceError UploadedFile → Prop
  | refused (failed : first.isSuccess = false) :
      Uploading first second none (.error (.api first.status first.message))
  | unnamed (success : first.isSuccess = true) (absent : first.header? uploadHeader = none) :
      Uploading first second none (.error (.invalidResponse "Missing upload URL"))
  | unusable {address : String} (fault : Fault) (success : first.isSuccess = true)
      (named : first.header? uploadHeader = some address)
      (useless : ∀ url, ¬ first.Invites address url) :
      Uploading first second none (.error (.http fault))
  | carried {address : String} {url : Url} (invites : first.Invites address url) :
      Uploading first second (some url) (second.result (Library.decode Body.uploaded))

/-- A response invites a file to one address at most. -/
theorem Response.Invites.unique [Hosts] {response : Response} {address address' : String}
    {url url' : Url} (h : response.Invites address url) (h' : response.Invites address' url') :
    url = url' := by
  obtain rfl := Option.some.inj (h.named.symm.trans h'.named)
  exact Except.ok.inj (h.read.symm.trans h'.read)

/-- The display name is read back from what announces it. -/
theorem parse_ofUpload (upload : Upload) :
    Value.parse (Body.ofUpload upload).write = .ok (Body.ofUpload upload) := by
  apply Value.Regular.parse_write
  refine .object (List.pairwise_singleton _ _) ?_
  simp only [List.forall_mem_singleton]
  refine .object (List.pairwise_singleton _ _) ?_
  simp only [List.forall_mem_singleton]
  exact .string _ _

namespace Client

variable {client : Client} {file : Upload} {url : Url}

/-- The request that announces a file. -/
def announcementRequest (client : Client) (upload : Upload) (url : Url) : Request :=
  let draft := client.announcement upload (upload.mimeType?.getD Body.unknownMediaType)
  ⟨draft.method, url, draft.headers, draft.body⟩

/-- The request that carries a file. -/
def deliveryRequest (client : Client) (upload : Upload) (url : Url) : Request :=
  let draft := client.delivery "" upload.bytes
  ⟨draft.method, url, draft.headers, draft.body⟩

theorem announces (client : Client) (upload : Upload) (url : Url) :
    Announces upload url (client.announcementRequest upload url) where
  method := by rw [announcementRequest, announcement]
  url := by rw [announcementRequest]
  protocol := by simp [announcementRequest, announcement, keyHeader, List.lookup_cons]
  command := by simp [announcementRequest, announcement, keyHeader, List.lookup_cons]
  size := by simp [announcementRequest, announcement, keyHeader, List.lookup_cons]
  mediaType := by
    simp [announcementRequest, announcement, keyHeader, Body.unknownMediaType, List.lookup_cons]
  body := by
    refine ⟨(Body.ofUpload upload).write, ?_, parse_ofUpload upload⟩
    rw [announcementRequest, announcement, Utf8.decode?_encode]

theorem delivers (client : Client) (upload : Upload) (url : Url) :
    Delivers upload url (client.deliveryRequest upload url) where
  method := by rw [deliveryRequest, delivery]
  url := by rw [deliveryRequest]
  command := by simp [deliveryRequest, delivery, keyHeader, List.lookup_cons]
  offset := by simp [deliveryRequest, delivery, keyHeader, List.lookup_cons]
  body := by rw [deliveryRequest, delivery]

variable [Library]

theorem Reaches.build_announcement (reaches : client.Reaches client.uploadAddress url)
    (short : url.isShort = true)
    (plain : ∀ t ∈ file.mimeType?, t.toList.all isHeaderChar = true) :
    (client.announcement file (file.mimeType?.getD Body.unknownMediaType)).build =
      .ok (client.announcementRequest file url) := by
  rw [Draft.build_eq_ok (plain_announcement reaches.key file (plain_mediaType plain)),
    address_announcement]
  exact ⟨url, reaches.read, reaches.usable, short, rfl⟩

/-- A file is sent just to where it is invited. -/
theorem build_delivery_eq_ok (file : Upload) (key : client.key.toList.all isHeaderChar = true)
    {response : Response} {address : String} {request : Request}
    (success : response.isSuccess = true) (named : response.header? uploadHeader = some address) :
    (client.delivery address file.bytes).build = .ok request ↔
      ∃ url, response.Invites address url ∧ request = client.deliveryRequest file url := by
  rw [Draft.build_eq_ok (plain_delivery key address file.bytes)]
  refine exists_congr fun url => ?_
  constructor
  · rintro ⟨read, usable, short, same⟩
    exact ⟨⟨success, named, read, usable, short⟩, same⟩
  · rintro ⟨invites, same⟩
    exact ⟨invites.read, invites.usable, invites.short, same⟩

variable [LawfulLibrary] {first second : Response}

section

variable (reaches : client.Reaches client.uploadAddress url) (short : url.isShort = true)
  (plain : ∀ t ∈ file.mimeType?, t.toList.all isHeaderChar = true)

include reaches short plain

/-- An upload whose announcement fails ends there. -/
theorem Reaches.upload_of_not_isSuccess (answered : first.isFinal = true)
    (failed : first.isSuccess = false) (rest : List Reaction) :
    (client.upload file).Sends (.respond first :: rest) [client.announcementRequest file url]
      (.error (.api first.status first.message)) rest := by
  have announced := Talk.sends_exchange (reaches.build_announcement short plain) answered rest
  rw [failed, if_neg Bool.false_ne_true] at announced
  exact (Talk.sends_report _ _).bind_ok announced.bind_error

/-- What comes of an upload behind an announcement that does not fail. -/
theorem Reaches.upload_of_isSuccess (success : first.isSuccess = true)
    {reactions left : List Reaction} {requests : List Request}
    {result : Except ServiceError UploadedFile}
    (others : (match first.header? uploadHeader with
      | none => throw (.invalidResponse "Missing upload URL")
      | some address => do
        let response ← Talk.exchange (client.delivery address file.bytes)
        Talk.read (Library.decode Body.uploaded) response :
          Talk UploadedFile).Sends reactions requests result left) :
    (client.upload file).Sends (.respond first :: reactions)
      (client.announcementRequest file url :: requests) result left := by
  have announced := Talk.sends_exchange (reaches.build_announcement short plain)
    (Response.isFinal_of_isSuccess success) reactions
  rw [success, if_pos rfl] at announced
  exact (Talk.sends_report _ _).bind_ok (announced.bind_ok others)

/-- A file that is invited is carried. -/
theorem Reaches.upload_of_invites {address : String} {target : Url}
    (invites : first.Invites address target) (final : second.isFinal = true)
    (rest : List Reaction) :
    (client.upload file).Sends (.respond first :: .respond second :: rest)
      [client.announcementRequest file url, client.deliveryRequest file target]
      (second.result (Library.decode Body.uploaded)) rest := by
  refine reaches.upload_of_isSuccess short plain invites.success ?_
  rw [invites.named]
  have built := (build_delivery_eq_ok file reaches.key invites.success invites.named).mpr
    ⟨target, invites, rfl⟩
  exact Talk.sends_response built final _ rest

/-- An upload announces the file, and carries it if it is invited. -/
theorem Reaches.upload (answered : first.isFinal = true) (final : second.isFinal = true)
    (rest : List Reaction) :
    ∃ target? result left, Uploading first second target? result ∧
      (client.upload file).Sends (.respond first :: .respond second :: rest)
        (client.announcementRequest file url ::
          target?.toList.map (client.deliveryRequest file)) result left := by
  cases success : first.isSuccess with
  | false =>
    exact ⟨none, _, _, .refused success,
      reaches.upload_of_not_isSuccess short plain answered success (.respond second :: rest)⟩
  | true =>
    cases named : first.header? uploadHeader with
    | none =>
      refine ⟨none, _, .respond second :: rest, .unnamed success named,
        reaches.upload_of_isSuccess short plain success ?_⟩
      rw [named]
      exact Talk.sends_throw _ _
    | some address =>
      cases built : (client.delivery address file.bytes).build with
      | error fault =>
        have useless (target : Url) : ¬ first.Invites address target := by
          intro invites
          have sent := (build_delivery_eq_ok file reaches.key success named).mpr
            ⟨target, invites, rfl⟩
          exact nomatch built.symm.trans sent
        refine ⟨none, _, .respond second :: rest, .unusable fault success named useless,
          reaches.upload_of_isSuccess short plain success ?_⟩
        rw [named]
        exact (Talk.sends_unbuilt built _).bind_error
      | ok request =>
        obtain ⟨target, invites, -⟩ :=
          (build_delivery_eq_ok file reaches.key success named).mp built
        exact ⟨some target, _, rest, .carried invites,
          reaches.upload_of_invites short plain invites final rest⟩

end

end Client

namespace Uploading

variable [Library] {first second : Response} {target? : Option Url}
  {result : Except ServiceError UploadedFile}

/-- A file is carried just if it is invited. -/
theorem isSome_iff (h : Uploading first second target? result) :
    target?.isSome = true ↔ ∃ address url, first.Invites address url := by
  cases h with
  | refused failed =>
    exact ⟨nofun, fun ⟨_, _, invites⟩ => nomatch failed.symm.trans invites.success⟩
  | unnamed success absent =>
    exact ⟨nofun, fun ⟨_, _, invites⟩ => nomatch absent.symm.trans invites.named⟩
  | unusable fault success named useless =>
    refine ⟨nofun, fun ⟨_, url, invites⟩ => ?_⟩
    obtain rfl := Option.some.inj (named.symm.trans invites.named)
    exact absurd invites (useless url)
  | carried invites => exact ⟨fun _ => ⟨_, _, invites⟩, fun _ => rfl⟩

/-- A file is carried to where it is invited. -/
theorem target_eq (h : Uploading first second target? result) {target : Url}
    (carried : target ∈ target?) : ∃ address, first.Invites address target := by
  cases h with
  | refused | unnamed | unusable => exact nomatch carried
  | carried invites => exact Option.some.inj carried ▸ ⟨_, invites⟩

/-- An upload comes to a file just if it is carried and the second response has one. -/
theorem eq_ok (h : Uploading first second target? result) (file : UploadedFile) :
    result = .ok file ↔ target?.isSome = true ∧ second.isSuccess = true ∧
      second.read (Library.decode Body.uploaded) = .ok file := by
  cases h with
  | refused | unnamed | unusable => exact ⟨nofun, fun h => nomatch h.1⟩
  | carried invites => simp [Response.result_eq_ok]

theorem of_failed (h : Uploading first second target? result) (failed : first.isSuccess = false) :
    result = .error (.api first.status first.message) := by
  cases h with
  | refused => rfl
  | unnamed success | unusable fault success => exact nomatch failed.symm.trans success
  | carried invites => exact nomatch failed.symm.trans invites.success

theorem of_unnamed (h : Uploading first second target? result) (success : first.isSuccess = true)
    (absent : first.header? uploadHeader = none) :
    result = .error (.invalidResponse "Missing upload URL") := by
  cases h with
  | refused failed => exact nomatch failed.symm.trans success
  | unnamed => rfl
  | unusable fault success named => exact nomatch absent.symm.trans named
  | carried invites => exact nomatch absent.symm.trans invites.named

theorem of_unusable (h : Uploading first second target? result) (success : first.isSuccess = true)
    (named : first.header? uploadHeader ≠ none) (kept : target? = none) :
    ∃ fault, result = .error (.http fault) := by
  cases h with
  | refused failed => exact nomatch failed.symm.trans success
  | unnamed success absent => exact absurd absent named
  | unusable fault => exact ⟨fault, rfl⟩
  | carried => exact nomatch kept

/-- What an upload comes to if the file is carried. -/
theorem of_carried (h : Uploading first second target? result) (carried : target?.isSome = true) :
    result = second.result (Library.decode Body.uploaded) := by
  cases h with
  | refused | unnamed | unusable => exact nomatch carried
  | carried => rfl

end Uploading

section

variable [Library] [LawfulLibrary]

/-- **An upload takes two steps at most.** Let both responses be the last ones to their requests.
The first request announces the file. The second one is sent just if the first response invites the
file, and carries it to the address in that response. The upload comes to a file just if the second
request is sent and its response has a file. A response that does not report success gives its
status and its body; a response that names no address, or one of no use, ends the upload before the
file is carried. -/
theorem upload_in_two_steps {client : Client} {url : Url}
    (reaches : client.Reaches client.uploadAddress url) (short : url.isShort = true)
    (upload : Upload) (plain : ∀ t ∈ upload.mimeType?, t.toList.all isHeaderChar = true)
    (first second : Response) (answered : first.isFinal = true) (final : second.isFinal = true)
    (rest : List Reaction) (session : Session)
    (network : session.network = .scripted (.respond first :: .respond second :: rest)) :
    let run := (client.perform (.uploadFile upload)).run.run session
    ∃ (start : Request) (delivery? : Option Request),
      run.2.sent = session.sent ++ start :: delivery?.toList ∧
      Announces upload url start ∧
      (delivery?.isSome = true ↔ ∃ address target, first.Invites address target) ∧
      (∀ delivery ∈ delivery?, ∀ address target, first.Invites address target →
        Delivers upload target delivery) ∧
      (∀ file, run.1 = .ok file ↔ delivery?.isSome = true ∧ second.isSuccess = true ∧
        second.read (Library.decode Body.uploaded) = .ok file) ∧
      (first.isSuccess = false → run.1 = .error (.api first.status first.message)) ∧
      (first.isSuccess = true → first.header? uploadHeader = none →
        run.1 = .error (.invalidResponse "Missing upload URL")) ∧
      (first.isSuccess = true → first.header? uploadHeader ≠ none → delivery? = none →
        ∃ fault, run.1 = .error (.http fault)) ∧
      (delivery?.isSome = true → second.isSuccess = false →
        run.1 = .error (.api second.status second.message)) ∧
      (∀ fault, delivery?.isSome = true → second.isSuccess = true →
        second.read (Library.decode Body.uploaded) = .error fault →
          run.1 = .error (.http fault)) := by
  obtain ⟨target?, result, left, uploading, sends⟩ :=
    reaches.upload short plain answered final rest
  obtain ⟨next, run, -, sent⟩ := sends session network
  have performed : (client.perform (.uploadFile upload)).run.run session = (result, next) := run
  rw [performed]
  refine ⟨client.announcementRequest upload url, target?.map (client.deliveryRequest upload),
    ?_, client.announces upload url, ?_, ?_, ?_, uploading.of_failed, uploading.of_unnamed,
    ?_, ?_, ?_⟩
  · rw [sent]
    cases target? <;> rfl
  · rw [Option.isSome_map]
    exact uploading.isSome_iff
  · intro delivery carried address target invites
    obtain ⟨target', held, rfl⟩ := Option.map_eq_some_iff.mp carried
    obtain ⟨address', invites'⟩ := uploading.target_eq held
    rw [invites.unique invites']
    exact client.delivers upload target'
  · intro file
    rw [Option.isSome_map]
    exact uploading.eq_ok file
  · intro success named kept
    exact uploading.of_unusable success named (Option.map_eq_none_iff.mp kept)
  · intro carried failed
    rw [Option.isSome_map] at carried
    exact (uploading.of_carried carried).trans (Response.result_of_not_isSuccess failed)
  · intro fault carried success read
    rw [Option.isSome_map] at carried
    rw [uploading.of_carried carried, Response.result_of_isSuccess success, read]
    rfl

end

/-! ## An upload -/

/-- A client. -/
def uploadClient : Client := ⟨"k3y", "http://api.test"⟩

/-- Where it announces files. -/
def announcementUrl : Url :=
  ⟨"http".toList, some "api.test".toList, "/upload/v1beta/files".toList, none, none⟩

theorem reaches_announcementUrl :
    uploadClient.Reaches uploadClient.uploadAddress announcementUrl where
  key := by decide
  read := by decide +kernel
  usable := ⟨by decide, by decide, by decide⟩

/-- A file whose name and bytes are not plain. -/
def oddUpload : Upload := ⟨"a \"quoted\" name, ü", none, [0x00, 0xFF]⟩

/-- A response that names an address. -/
def namingResponse (address : String) : Response :=
  ⟨200, [(uploadHeader, Utf8.encode address)], [], true⟩

theorem invites_namingResponse :
    (namingResponse "http://files.test/1").Invites "http://files.test/1"
      ⟨"http".toList, some "files.test".toList, "/1".toList, none, none⟩ where
  success := by decide
  named := by decide +kernel
  read := by decide +kernel
  usable := ⟨by decide, by decide, by decide⟩
  short := by decide

/-- What the service tells of the file. -/
def keptFile : UploadedFile := ⟨"files/1", some "odd", "http://files.test/1", none⟩

/-- The response that tells it. -/
def keepingResponse : Response :=
  ⟨200, [], Utf8.encode (Value.object [("file", UploadedFile.format.toValue keptFile)]).write, true⟩

theorem spells_keepingResponse : keepingResponse.Spells Body.uploaded.parse keptFile :=
  ⟨by decide, rfl, _, rfl, Body.uploaded_parse keptFile.tells_toValue⟩

/-- The file is carried, and the upload comes to what the service tells of it. -/
theorem upload_oddFile :
    let run := (uploadClient.perform (.uploadFile oddUpload)).run.run
      (.start (.scripted [.respond (namingResponse "http://files.test/1"),
        .respond keepingResponse]))
    run.1 = .ok keptFile ∧ run.2.sent.length = 2 := by
  obtain ⟨start, delivery?, sent, -, carried, -, comes, -⟩ :=
    upload_in_two_steps reaches_announcementUrl (by decide) oddUpload nofun
      (namingResponse "http://files.test/1") keepingResponse rfl rfl []
      (.start (.scripted [.respond (namingResponse "http://files.test/1"),
        .respond keepingResponse])) rfl
  have carried := carried.mpr ⟨_, _, invites_namingResponse⟩
  have read := spells_keepingResponse.read (readsTexts_decode Body.uploaded)
  refine ⟨(comes keptFile).mpr ⟨carried, spells_keepingResponse.success, read⟩, ?_⟩
  obtain ⟨delivery, rfl⟩ := Option.isSome_iff_exists.mp carried
  rw [sent]
  rfl

/-- A response may name an address to which no file can be carried. -/
theorem upload_foreignScheme :
    let first := namingResponse "ftp://files.test/1"
    let run := (uploadClient.perform (.uploadFile oddUpload)).run.run
      (.start (.scripted [.respond first, .respond (namingResponse "ftp://files.test/1")]))
    (first.isSuccess = true ∧ first.header? uploadHeader = some "ftp://files.test/1") ∧
    run.2.sent.length = 1 ∧ (run.1 matches .error (.http (.unservable _))) = true := by
  decide +kernel

end BattleAdvisor.Http
