import BattleAdvisor.Proofs.Http.Delivery
import BattleAdvisor.Proofs.Http.Paging

/-!
# Calls that are played out

The relations `PlaysRecord`, `PlaysListing`, `PlaysUpload` and `PlaysReply` say which reactions play
out a call with a given result: one response, the pages of a listing, or the two steps of an upload,
each with a text that spells the result, and a response that refuses at any place.
`Client.Usable.get_plays`, `Client.Usable.post_plays`, `Client.Usable.list_plays`,
`Client.Usable.upload_plays` and `Client.Usable.generate_plays` say that the client comes to that
result.
-/

namespace BattleAdvisor.Http.Client

open Json (Value RecordFormat ReadError)

variable [Library] {client : Client} {α : Type} {reactions : List Reaction}

/-! ## Records -/

section

variable {decode : Bytes → Except Unusable α} {parse : String → Except ReadError α}
  {result : Except ServiceError α}

/-- The reactions that play out a request for a record: one response, which spells the record or
refuses. -/
inductive PlaysRecord (parse : String → Except ReadError α) :
    List Reaction → Except ServiceError α → Prop
  | refused {response : Response} {error : ServiceError} (refuses : response.Refuses error) :
      PlaysRecord parse [.respond response] (.error error)
  | told {response : Response} {record : α} (spells : response.Spells parse record) :
      PlaysRecord parse [.respond response] (.ok record)

theorem PlaysRecord.exists_response (plays : PlaysRecord parse reactions result)
    (reads : ReadsTexts decode parse) :
    ∃ response, reactions = [.respond response] ∧ response.isFinal = true ∧
      response.result decode = result := by
  cases plays with
  | refused refuses => exact ⟨_, rfl, refuses.isFinal, refuses.result⟩
  | told spells =>
    exact ⟨_, rfl, Response.isFinal_of_isSuccess spells.success, spells.result reads⟩

variable [LawfulLibrary]

theorem Usable.get_plays (usable : client.Usable) {path : String} {query : List (String × String)}
    (short : (client.asking path query).IsShort) (plays : PlaysRecord parse reactions result)
    (reads : ReadsTexts decode parse) (rest : List Reaction) :
    (client.get path query decode).Comes (reactions ++ rest) result rest := by
  obtain ⟨url, reaches⟩ := usable.reaches path
  obtain ⟨response, rfl, final, rfl⟩ := plays.exists_response reads
  exact (reaches.get (short url reaches.read) decode final rest).comes

theorem Usable.post_plays (usable : client.Usable) {path : String} {body : Value}
    (short : (client.posting path body).IsShort) (plays : PlaysRecord parse reactions result)
    (reads : ReadsTexts decode parse) (rest : List Reaction) :
    (client.post path body decode).Comes (reactions ++ rest) result rest := by
  obtain ⟨url, reaches⟩ := usable.reaches path
  obtain ⟨response, rfl, final, rfl⟩ := plays.exists_response reads
  exact (reaches.post (short url reaches.read) body decode final rest).comes

end

/-! ## Listings -/

section

variable {path : String} {format : RecordFormat (Body.Page α)}
  {result : Except ServiceError (List α)}

/-- The reactions that play out a listing: its items are cut into pages. Each page but the last has
a token that is not empty, and that fits into the address of the next request; the last one has
none, an absent or an empty one. A response may refuse in place of any page. -/
inductive PlaysListing (client : Client) (path : String) (format : RecordFormat (Body.Page α)) :
    List Reaction → Except ServiceError (List α) → Prop
  | refused {response : Response} {error : ServiceError} (refuses : response.Refuses error) :
      PlaysListing client path format [.respond response] (.error error)
  | last {response : Response} {page : Body.Page α} (ends : page.next? = none)
      (spells : response.Spells format.parse page) :
      PlaysListing client path format [.respond response] (.ok page.items)
  | more {response : Response} {items : List α} {token : String} {reactions : List Reaction}
      {result : Except ServiceError (List α)} (goesOn : token ≠ "")
      (spells : response.Spells format.parse ⟨items, some token⟩)
      (short : (client.asking path (queryForPage (some token))).IsShort)
      (others : PlaysListing client path format reactions result) :
      PlaysListing client path format (.respond response :: reactions) (result.map (items ++ ·))

variable [LawfulLibrary]

/-- A listing is played out by pages with a token and a final response. -/
theorem PlaysListing.exists_pages (plays : PlaysListing client path format reactions result)
    {url : Url} (reaches : client.Reaches (client.address path) url) :
    ∃ (pages : List (Continued format)) (final : Response),
      reactions = pages.map Continued.reaction ++ [.respond final] ∧ final.isFinal = true ∧
      (∀ page, final.result (Library.decode format) = .ok page → page.next? = none) ∧
      (∀ page ∈ pages, (client.pageRequest url (some page.token)).url.isShort = true) ∧
      result = (final.result (Library.decode format)).map fun page =>
        pages.flatMap (·.items) ++ page.items := by
  induction plays with
  | @refused response error refuses =>
    have comes : response.result (Library.decode format) = .error error := refuses.result
    refine ⟨[], response, rfl, refuses.isFinal, ?_, List.forall_mem_nil _, ?_⟩
    · rw [comes]
      exact nofun
    · rw [comes]
      rfl
  | @last response page ends spells =>
    have comes := spells.result (readsTexts_decode format)
    refine ⟨[], response, rfl, Response.isFinal_of_isSuccess spells.success, ?_,
      List.forall_mem_nil _, ?_⟩
    · rw [comes]
      rintro _ ⟨⟩
      exact ends
    · rw [comes]
      rfl
  | @more response items token reactions result goesOn spells short _ ih =>
    obtain ⟨pages, final, rfl, answered, ends, fits, rfl⟩ := ih
    let page : Continued format :=
      ⟨response, items, token, spells.success, spells.read (readsTexts_decode format), goesOn⟩
    refine ⟨page :: pages, final, rfl, answered, ends,
      List.forall_mem_cons.mpr ⟨short url reaches.read, fits⟩, ?_⟩
    cases final.result (Library.decode format) <;> simp [Except.map, page]

theorem Usable.list_plays (usable : client.Usable)
    (short : (client.asking path (queryForPage none)).IsShort)
    (plays : PlaysListing client path format reactions result) (rest : List Reaction) :
    (client.list path format).Comes (reactions ++ rest) result rest := by
  obtain ⟨url, reaches⟩ := usable.reaches path
  obtain ⟨pages, final, rfl, answered, ends, fits, rfl⟩ := plays.exists_pages reaches
  have all : ∀ request ∈ (none :: pages.map (some ·.token)).map (client.pageRequest url),
      request.url.isShort = true := by
    simpa using ⟨short url reaches.read, fits⟩
  simpa using (reaches.list_of_isShort pages answered ends rest all).comes

end

/-! ## Uploads -/

/-- The reactions that play out an upload: one response to the announcement, which invites the file
or refuses, and in the first case one to the file itself. -/
inductive PlaysUpload : List Reaction → Except ServiceError UploadedFile → Prop
  | unannounced {response : Response} {error : ServiceError} (refuses : response.Refuses error) :
      PlaysUpload [.respond response] (.error error)
  | refused {announced response : Response} {address : String} {target : Url}
      {error : ServiceError} (invites : announced.Invites address target)
      (refuses : response.Refuses error) :
      PlaysUpload [.respond announced, .respond response] (.error error)
  | uploaded {announced response : Response} {address : String} {target : Url}
      {file : UploadedFile} (invites : announced.Invites address target)
      (spells : response.Spells Body.uploaded.parse file) :
      PlaysUpload [.respond announced, .respond response] (.ok file)

variable [LawfulLibrary]

theorem Usable.upload_plays (usable : client.Usable) {upload : Upload}
    (short : client.Fits (.uploadFile upload))
    (plain : ∀ t ∈ upload.mimeType?, t.toList.all isHeaderChar = true)
    {result : Except ServiceError UploadedFile} (plays : PlaysUpload reactions result)
    (rest : List Reaction) : (client.upload upload).Comes (reactions ++ rest) result rest := by
  obtain ⟨url, reaches⟩ := usable.reaches_below "upload/v1beta/files"
  have short : url.isShort = true :=
    short url ((client.address_announcement upload _).symm ▸ reaches.read)
  cases plays with
  | unannounced refuses =>
    rw [refuses.isApi]
    exact (reaches.upload_of_not_isSuccess short plain refuses.isFinal refuses.isSuccess rest).comes
  | @refused announced response _ _ error invites refuses =>
    have comes : response.result (Library.decode Body.uploaded) = .error error := refuses.result
    rw [← comes]
    exact (reaches.upload_of_invites short plain invites refuses.isFinal rest).comes
  | uploaded invites spells =>
    rw [← spells.result (readsTexts_decode Body.uploaded)]
    exact (reaches.upload_of_invites short plain invites
      (Response.isFinal_of_isSuccess spells.success) rest).comes

/-! ## Replies -/

/-- The reactions that play out a request to generate: one response, which refuses, or spells the
raw reply, up to its floating-point numbers. The text of the reply is the one in the raw reply. -/
inductive PlaysReply : List Reaction → Except ServiceError ModelReply → Prop
  | refused {response : Response} {error : ServiceError} (refuses : response.Refuses error) :
      PlaysReply [.respond response] (.error error)
  | told {response : Response} {raw other : Value} (spells : response.Spells Value.parse other)
      (same : other.withoutFloats = raw.withoutFloats) :
      PlaysReply [.respond response] (.ok ⟨Body.replyText? raw, raw⟩)

theorem Usable.generate_plays (usable : client.Usable) {request : ModelRequest}
    (fits : client.Fits (.generate request)) {result : Except ServiceError ModelReply}
    (plays : PlaysReply reactions result) (rest : List Reaction) :
    (∃ error, result = .error error ∧
      (client.generate request).Comes (reactions ++ rest) (.error error) rest) ∨
    ∃ reply other, result = .ok reply ∧ other.text? = reply.text? ∧
      (client.generate request).Comes (reactions ++ rest) (.ok other) rest := by
  have posts {reactions : List Reaction} {result : Except ServiceError Value}
      (plays : PlaysRecord Value.parse reactions result) :
      (client.generate request).Comes (reactions ++ rest)
        (result.map fun raw => ⟨Body.replyText? raw, raw⟩) rest := by
    obtain ⟨url, reaches⟩ := usable.reaches (pathToGenerate request)
    obtain ⟨response, rfl, final, rfl⟩ := plays.exists_response (readsTexts_decodeText Value.parse)
    exact ((reaches.post (fits url reaches.read) _ _ final rest).map _).comes
  cases plays with
  | refused refuses => exact .inl ⟨_, rfl, posts (.refused refuses)⟩
  | @told response raw other spells same =>
    refine .inr ⟨_, ⟨Body.replyText? other, other⟩, rfl, ?_, posts (.told spells)⟩
    rw [← Body.replyText?_withoutFloats other, same, Body.replyText?_withoutFloats]

end BattleAdvisor.Http.Client
