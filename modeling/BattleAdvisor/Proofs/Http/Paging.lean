import BattleAdvisor.Proofs.Http.Body
import BattleAdvisor.Proofs.Http.Plain

/-!
# Listings, page by page

A listing asks for page after page, each time with the token of the page before. `Listing` names
the two listings of the service.

**Theorem (`list_pages`).** Behind any number of pages with a token, the listing ends with the first
response that is none of these. It comes to all items, in their order, if that is a page; else to
the error of that response. It sends one request for each of these responses, and none behind them;
the token in a request is read back as that of the page before, whatever its characters. A token
that makes the address of a request too long ends the listing in front of this request.

The proof is an induction on the pages with a token (`Client.Reaches.listFrom`): what is sent is the
longest front of the requests for the pages in which no address is too long.
-/

namespace BattleAdvisor.Http

open Json (RecordFormat)

section

variable [Library]

/-- A response with a page that is not the last one: it has a token that is not empty. -/
structure Continued {α : Type} (format : RecordFormat (Body.Page α)) where
  response : Response
  items : List α
  token : String
  success : response.isSuccess = true
  read : response.read (Library.decode format) = .ok ⟨items, some token⟩
  nonempty : token ≠ ""

namespace Continued

variable {α : Type} {format : RecordFormat (Body.Page α)}

/-- The reaction that gives the page. -/
def reaction (page : Continued format) : Reaction :=
  .respond page.response

theorem result_eq (page : Continued format) :
    page.response.result (Library.decode format) = .ok ⟨page.items, some page.token⟩ :=
  Response.result_eq_ok.mpr ⟨page.success, page.read⟩

theorem next?_eq (page : Continued format) :
    (Body.Page.mk page.items (some page.token)).next? = some page.token := by
  simp [Body.Page.next?, page.nonempty]

end Continued

namespace Client

variable {client : Client} {α : Type} {path : String} {url : Url}
  {format : RecordFormat (Body.Page α)}

/-- The request for a page: it adds the size of pages and the token to the address. -/
def pageRequest (client : Client) (url : Url) (token? : Option String) : Request :=
  client.getRequest url (queryForPage token?)

omit [Library] in
/-- The token of a request is read back, behind what the address had in its query. -/
theorem queryPairs_pageRequest (client : Client) (url : Url) (token? : Option String) :
    (client.pageRequest url token?).url.queryPairs = url.queryPairs ++ queryForPage token? :=
  url.queryPairs_addQuery (queryForPage token?)

/-- What a listing comes to: it stops in front of the first request whose address is too long; else
it comes to all items, or to the error of the final response. -/
def listed (requests : List Request) (pages : List (Continued format)) (final : Response) :
    Except ServiceError (List α) :=
  match requests.find? (!·.url.isShort) with
  | some long => .error (.http (.inadmissible long.url.text))
  | none => (final.result (Library.decode format)).map fun page =>
      pages.flatMap (·.items) ++ page.items

theorem listed_of_isShort {requests : List Request}
    (short : ∀ request ∈ requests, request.url.isShort = true)
    (pages : List (Continued format)) (final : Response) :
    listed requests pages final = (final.result (Library.decode format)).map fun page =>
      pages.flatMap (·.items) ++ page.items := by
  unfold listed
  rw [List.find?_eq_none.mpr fun request among => by simp [short request among]]

theorem listed_of_not_isShort {before after : List Request} {long : Request}
    (short : ∀ request ∈ before, request.url.isShort = true) (tooLong : long.url.isShort = false)
    (pages : List (Continued format)) (final : Response) :
    listed (before ++ long :: after) pages final =
      .error (.http (.inadmissible long.url.text)) := by
  unfold listed
  rw [List.find?_append, List.find?_eq_none.mpr fun request among => by simp [short request among],
    List.find?_cons_of_pos (by simp [tooLong])]
  rfl

theorem listed_cons {request : Request} (short : request.url.isShort = true)
    (requests : List Request) (page : Continued format) (pages : List (Continued format))
    (final : Response) :
    (listed requests pages final).map (page.items ++ ·) =
      listed (request :: requests) (page :: pages) final := by
  unfold listed
  rw [List.find?_cons_of_neg (by simp [short])]
  cases requests.find? (!·.url.isShort) with
  | some long => rfl
  | none => cases final.result (Library.decode format) <;> simp [Except.map]

/-- No page is asked for at an address that is too long. -/
theorem Reaches.listFrom_of_not_isShort (reaches : client.Reaches (client.address path) url)
    {token? : Option String} (long : (client.pageRequest url token?).url.isShort = false)
    (pages : List (Continued format)) (final : Response) (bound : Nat)
    (reactions : List Reaction) :
    let requests := (token? :: pages.map (some ·.token)).map (client.pageRequest url)
    let sent := requests.takeWhile (·.url.isShort)
    (client.listFrom path format (bound + 1) token?).Sends reactions sent
      (listed requests pages final) (reactions.drop sent.length) := by
  intro requests sent
  have none : sent = [] := List.takeWhile_cons_of_neg (by simp [long])
  have stops : listed requests pages final = _ :=
    listed_of_not_isShort (List.forall_mem_nil _) long pages final
  rw [none, stops]
  exact (reaches.get_of_not_isShort long (Library.decode format) reactions).bind_error

variable [LawfulLibrary]

/-- The listing ends behind the final response. -/
theorem Reaches.listFrom_final (reaches : client.Reaches (client.address path) url)
    {token? : Option String} (short : (client.pageRequest url token?).url.isShort = true)
    {final : Response} (answered : final.isFinal = true)
    (ends : ∀ page, final.result (Library.decode format) = .ok page → page.next? = none)
    (bound : Nat) (rest : List Reaction) :
    (client.listFrom path format (bound + 1) token?).Sends (.respond final :: rest)
      [client.pageRequest url token?]
      ((final.result (Library.decode format)).map Body.Page.items) rest := by
  have got := reaches.get short (Library.decode format) answered rest
  rw [Client.listFrom]
  cases result : final.result (Library.decode format) with
  | error error =>
    rw [result] at got
    exact got.bind_error
  | ok page =>
    rw [result] at got
    refine got.bind_ok ?_
    rw [ends page result]
    exact Talk.sends_pure page.items rest

/-- The listing goes on behind a page with a token. -/
theorem Reaches.listFrom_page (reaches : client.Reaches (client.address path) url)
    {token? : Option String} (short : (client.pageRequest url token?).url.isShort = true)
    (page : Continued format) {bound : Nat} {reactions rest : List Reaction}
    {requests : List Request} {result : Except ServiceError (List α)}
    (others : (client.listFrom path format bound (some page.token)).Sends reactions requests result
      rest) :
    (client.listFrom path format (bound + 1) token?).Sends (page.reaction :: reactions)
      (client.pageRequest url token? :: requests) (result.map (page.items ++ ·)) rest := by
  have got := reaches.get short (Library.decode format)
    (Response.isFinal_of_isSuccess page.success) reactions
  rw [page.result_eq] at got
  rw [Client.listFrom]
  refine got.bind_ok ?_
  dsimp only
  rw [page.next?_eq]
  exact others.map (page.items ++ ·)

/-- From any page on, a listing goes through the pages with a token and ends behind them, or in
front of an address that is too long. -/
theorem Reaches.listFrom (reaches : client.Reaches (client.address path) url)
    (pages : List (Continued format)) {final : Response} (answered : final.isFinal = true)
    (ends : ∀ page, final.result (Library.decode format) = .ok page → page.next? = none)
    (rest : List Reaction) {bound : Nat} (enough : pages.length < bound) (token? : Option String) :
    let reactions := pages.map Continued.reaction ++ .respond final :: rest
    let requests := (token? :: pages.map (some ·.token)).map (client.pageRequest url)
    let sent := requests.takeWhile (·.url.isShort)
    (client.listFrom path format bound token?).Sends reactions sent (listed requests pages final)
      (reactions.drop sent.length) := by
  induction pages generalizing bound token? with
  | nil =>
    obtain ⟨bound, rfl⟩ := Nat.exists_eq_add_one_of_ne_zero (Nat.ne_of_gt enough)
    intro reactions requests sent
    cases short : (client.pageRequest url token?).url.isShort with
    | false => exact reaches.listFrom_of_not_isShort short [] final bound reactions
    | true =>
      have whole : sent = [client.pageRequest url token?] := List.takeWhile_cons_of_pos short
      have comes : listed requests [] final = _ :=
        listed_of_isShort (List.forall_mem_singleton.mpr short) ([] : List (Continued format)) final
      rw [whole, comes]
      exact reaches.listFrom_final short answered ends bound rest
  | cons page pages ih =>
    obtain ⟨bound, rfl⟩ :=
      Nat.exists_eq_add_one_of_ne_zero (Nat.ne_of_gt (Nat.zero_lt_of_lt enough))
    intro reactions requests sent
    cases short : (client.pageRequest url token?).url.isShort with
    | false => exact reaches.listFrom_of_not_isShort short (page :: pages) final bound reactions
    | true =>
      have others := ih (Nat.lt_of_succ_lt_succ enough) (some page.token)
      have goesOn : sent = client.pageRequest url token? :: _ := List.takeWhile_cons_of_pos short
      have listed_eq : listed requests (page :: pages) final = _ :=
        (listed_cons short _ page pages final).symm
      rw [goesOn, listed_eq]
      exact reaches.listFrom_page short page others

/-- A listing goes through the pages with a token and ends behind them, or in front of an address
that is too long. -/
theorem Reaches.list (reaches : client.Reaches (client.address path) url)
    (pages : List (Continued format)) {final : Response} (answered : final.isFinal = true)
    (ends : ∀ page, final.result (Library.decode format) = .ok page → page.next? = none)
    (rest : List Reaction) :
    let reactions := pages.map Continued.reaction ++ .respond final :: rest
    let requests := (none :: pages.map (some ·.token)).map (client.pageRequest url)
    let sent := requests.takeWhile (·.url.isShort)
    (client.list path format).Sends reactions sent (listed requests pages final)
      (reactions.drop sent.length) := by
  intro reactions requests sent session network
  have enough : pages.length < session.network.patience + 1 := by
    rw [network, Network.patience, List.length_append, List.length_map]
    omega
  have got : (MonadState.get : Talk Session).run.run session = (.ok session, session) := rfl
  obtain ⟨next, run, left, sent⟩ :=
    reaches.listFrom pages answered ends rest enough none session network
  exact ⟨next, by rw [Client.list, Talk.run_bind, got]; exact run, left, sent⟩

section

variable (pages : List (Continued format)) {final : Response}

/-- If no address is too long, a listing goes through all pages. -/
theorem Reaches.list_of_isShort (reaches : client.Reaches (client.address path) url)
    (answered : final.isFinal = true)
    (ends : ∀ page, final.result (Library.decode format) = .ok page → page.next? = none)
    (rest : List Reaction)
    (short : ∀ request ∈ (none :: pages.map (some ·.token)).map (client.pageRequest url),
      request.url.isShort = true) :
    (client.list path format).Sends (pages.map Continued.reaction ++ .respond final :: rest)
      ((none :: pages.map (some ·.token)).map (client.pageRequest url))
      ((final.result (Library.decode format)).map fun page => pages.flatMap (·.items) ++ page.items)
      rest := by
  have sends := reaches.list pages answered ends rest
  have behind : (pages.map Continued.reaction ++ .respond final :: rest).drop
      ((none :: pages.map (some ·.token)).map (client.pageRequest url)).length = rest := by
    rw [List.append_cons]
    exact List.drop_left' (by simp)
  dsimp only at sends
  rwa [List.takeWhile_eq_self_iff.mpr short, listed_of_isShort short, behind] at sends

/-- In front of an address that is too long, a listing stops. -/
theorem Reaches.list_of_not_isShort (reaches : client.Reaches (client.address path) url)
    (answered : final.isFinal = true)
    (ends : ∀ page, final.result (Library.decode format) = .ok page → page.next? = none)
    (rest : List Reaction) {before after : List Request} {long : Request}
    (split : (none :: pages.map (some ·.token)).map (client.pageRequest url) =
      before ++ long :: after)
    (short : ∀ request ∈ before, request.url.isShort = true) (tooLong : long.url.isShort = false) :
    (client.list path format).Sends (pages.map Continued.reaction ++ .respond final :: rest) before
      (.error (.http (.inadmissible long.url.text)))
      ((pages.map Continued.reaction ++ .respond final :: rest).drop before.length) := by
  have sends := reaches.list pages answered ends rest
  have first : (before ++ long :: after).takeWhile (·.url.isShort) = before := by
    rw [List.takeWhile_append_of_pos short, List.takeWhile_cons_of_neg (by simp [tooLong]),
      List.append_nil]
  dsimp only at sends
  rwa [split, first, listed_of_not_isShort short tooLong] at sends

end

end Client

/-- The listings of the service. -/
inductive Listing where
  | files
  | caches

namespace Listing

/-- What is listed. -/
def Item : Listing → Type
  | files => UploadedFile
  | caches => ContentCache

/-- The path of a listing. -/
def path : Listing → String
  | files => "files"
  | caches => "cachedContents"

/-- The format of its pages. -/
def page : (listing : Listing) → RecordFormat (Body.Page listing.Item)
  | files => Body.filePage
  | caches => Body.cachePage

/-- The call for it. -/
def ask (client : Client) : (listing : Listing) → Talk (List listing.Item)
  | files => client.perform .listFiles
  | caches => client.perform .listCaches

theorem ask_eq (client : Client) (listing : Listing) :
    listing.ask client = client.list listing.path listing.page := by
  cases listing <;> rfl

end Listing

/-- **A listing loses nothing and repeats nothing.** Behind the pages with a token there is a final
response: a page without one or with an empty one, a response that does not report success, or one
that spells no page. If no address of a request is too long, the listing comes to all items in their
order, or to the error of the final response; and it asks for just these pages, each time with the
token of the page before. Else it stops in front of the first such request, without any items. -/
theorem list_pages [LawfulLibrary] (listing : Listing) {client : Client} {url : Url}
    (reaches : client.Reaches (client.address listing.path) url)
    (pages : List (Continued listing.page)) (final : Response) (answered : final.isFinal = true)
    (ends : ∀ page, final.isSuccess = true → final.read (Library.decode listing.page) = .ok page →
      page.nextToken? = none ∨ page.nextToken? = some "")
    (rest : List Reaction) (session : Session)
    (network : session.network =
      .scripted (pages.map Continued.reaction ++ .respond final :: rest)) :
    let run := (listing.ask client).run.run session
    let requests := (none :: pages.map (some ·.token)).map (client.pageRequest url)
    requests.map (·.url.queryPairs) = (url.queryPairs ++ [("pageSize", "100")]) ::
      pages.map (fun page =>
        url.queryPairs ++ [("pageSize", "100"), ("pageToken", page.token)]) ∧
    ((∀ request ∈ requests, request.url.isShort = true) →
      run.2.sent = session.sent ++ requests ∧ run.2.network = .scripted rest ∧
      (∀ page, final.isSuccess = true → final.read (Library.decode listing.page) = .ok page →
        run.1 = .ok (pages.flatMap (·.items) ++ page.items)) ∧
      (∀ fault, final.isSuccess = true →
        final.read (Library.decode listing.page) = .error fault → run.1 = .error (.http fault)) ∧
      (final.isSuccess = false → run.1 = .error (.api final.status final.message))) ∧
    (∀ before long after, requests = before ++ long :: after →
      (∀ request ∈ before, request.url.isShort = true) → long.url.isShort = false →
      run.2.sent = session.sent ++ before ∧
      run.2.network = .scripted
        ((pages.map Continued.reaction ++ .respond final :: rest).drop before.length) ∧
      run.1 = .error (.http (.inadmissible long.url.text))) := by
  have ends : ∀ page, final.result (Library.decode listing.page) = .ok page →
      page.next? = none := by
    intro page result
    obtain ⟨success, read⟩ := Response.result_eq_ok.mp result
    rcases ends page success read with absent | empty
    · rw [Body.Page.next?, absent]
      rfl
    · rw [Body.Page.next?, empty]
      rfl
  refine ⟨?_, fun short => ?_, fun before long after split short tooLong => ?_⟩
  · have query := client.queryPairs_pageRequest url
    simp only [List.map_cons, List.map_map, Function.comp_def, query]
    rfl
  · obtain ⟨next, run, left, sent⟩ :=
      reaches.list_of_isShort pages answered ends rest short session network
    rw [Listing.ask_eq, run]
    refine ⟨sent, left, ?_, ?_, ?_⟩
    · intro page success read
      rw [Response.result_eq_ok.mpr ⟨success, read⟩]
      rfl
    · intro fault success read
      rw [Response.result_of_isSuccess success, read]
      rfl
    · intro failed
      rw [Response.result_of_not_isSuccess failed]
      rfl
  · obtain ⟨next, run, left, sent⟩ :=
      reaches.list_of_not_isShort pages answered ends rest split short tooLong session network
    rw [Listing.ask_eq, run]
    exact ⟨sent, left, rfl⟩

end

/-! ## A listing on two pages -/

/-- A client of a service on this machine, on a channel of its own. -/
def pagingClient : Client := ⟨"key", "http://localhost:8080"⟩

/-- The address of its listing of files. -/
def filesUrl : Url :=
  ⟨"http".toList, some "localhost:8080".toList, "/v1beta/files".toList, none, none⟩

theorem reaches_filesUrl : pagingClient.Reaches (pagingClient.address "files") filesUrl where
  key := by decide
  read := by decide +kernel
  usable := ⟨by decide, by decide, by decide⟩

/-- A file of the listing. -/
def listedFile (name : String) : UploadedFile :=
  ⟨name, none, "http://localhost:8080/" ++ name, none⟩

/-- A response with a page of files. -/
def pageResponse (files : List UploadedFile) (token : Json.Value) : Response :=
  ⟨200, [], Utf8.encode (Json.Value.object [
    ("files", .array (files.map UploadedFile.format.toValue)), ("nextPageToken", token)]).write,
    true⟩

theorem spells_pageResponse (files : List UploadedFile) (token? : Option String) :
    (pageResponse files (Json.writeOptional .string token?)).Spells Body.filePage.parse
      ⟨files, token?⟩ := by
  have tells : Body.TellsPage "files" UploadedFile.format files
      [("nextPageToken", Json.writeOptional .string token?)] _ :=
    ⟨_, _, Body.forall₂_tells UploadedFile.tells_toValue files, rfl, .inl rfl⟩
  exact ⟨rfl, rfl, _, rfl, tells.parse (by decide) UploadedFile.format_distinct
    (fun file _ => UploadedFile.format_keeps file) (.told token?)⟩

theorem read_pageResponse (files : List UploadedFile) (token? : Option String) :
    (pageResponse files (Json.writeOptional .string token?)).read (Library.decode Body.filePage) =
      .ok ⟨files, token?⟩ :=
  (spells_pageResponse files token?).read (readsTexts_decode Body.filePage)

/-- A first page, with this token. -/
def firstFiles (token : String) (nonempty : token ≠ "") : Continued Body.filePage where
  response := pageResponse [listedFile "files/1", listedFile "files/2"] (.string token)
  items := [listedFile "files/1", listedFile "files/2"]
  token := token
  success := rfl
  read := read_pageResponse _ (some token)
  nonempty := nonempty

/-- The second page ends the listing, and the connection is not used again. -/
theorem list_twoPages :
    let first := firstFiles "page=2 & 100% ü+" (by decide)
    let final := pageResponse [listedFile "files/3"] .null
    let run := (Listing.files.ask pagingClient).run.run
      (.start (.scripted [.respond first.response, .respond final, .close]))
    run.1 = .ok [listedFile "files/1", listedFile "files/2", listedFile "files/3"] ∧
    run.2.network = .scripted [.close] ∧
    run.2.sent.map (·.url.queryPairs) =
      [[("pageSize", "100")], [("pageSize", "100"), ("pageToken", "page=2 & 100% ü+")]] := by
  intro first final
  have read := read_pageResponse [listedFile "files/3"] none
  obtain ⟨queries, whole, -⟩ := list_pages .files reaches_filesUrl [first] final rfl
    (fun page _ read' => .inl (by rw [← Except.ok.inj (read.symm.trans read')])) [.close]
    (.start (.scripted [.respond first.response, .respond final, .close])) rfl
  obtain ⟨sent, left, obtained, -⟩ := whole <| List.forall_mem_cons.mpr
    ⟨by decide, List.forall_mem_singleton.mpr (by decide +kernel)⟩
  refine ⟨obtained _ rfl read, left, ?_⟩
  rw [sent]
  exact queries

/-- A token may be too long for the address of a request: then the next page is not asked for. -/
theorem list_longToken :
    let first := firstFiles (Text.letters (Url.textLimit + 1)) (Text.letters_ne_empty _)
    let final := pageResponse [listedFile "files/3"] .null
    let run := (Listing.files.ask pagingClient).run.run
      (.start (.scripted [.respond first.response, .respond final]))
    (first.response.isSuccess = true ∧
      first.response.read (Library.decode Body.filePage) = .ok ⟨first.items, some first.token⟩) ∧
    (final.isSuccess = true ∧
      final.read (Library.decode Body.filePage) = .ok ⟨[listedFile "files/3"], none⟩) ∧
    run.2.sent.length = 1 ∧ ∃ fault, run.1 = .error (.http fault) := by
  intro first final
  have read := read_pageResponse [listedFile "files/3"] none
  refine ⟨⟨first.success, first.read⟩, ⟨rfl, read⟩, ?_⟩
  have ends : ∀ page, final.result (Library.decode Body.filePage) = .ok page →
      page.next? = none := by
    intro page result
    rw [← Except.ok.inj ((Response.result_eq_ok.mpr ⟨rfl, read⟩).symm.trans result)]
    rfl
  have short : (pagingClient.pageRequest filesUrl none).url.isShort = true := by decide
  have long : (pagingClient.pageRequest filesUrl (some first.token)).url.isShort = false :=
    Url.not_isShort_addQuery filesUrl (List.mem_cons_of_mem _ List.mem_cons_self)
      (Nat.lt_of_lt_of_eq (Nat.lt_succ_self _) (Text.length_letters _).symm)
  have split : (none :: [first].map (some ·.token)).map (pagingClient.pageRequest filesUrl) =
      [pagingClient.pageRequest filesUrl none] ++
        [pagingClient.pageRequest filesUrl (some first.token)] := rfl
  obtain ⟨next, run, -, sent⟩ := reaches_filesUrl.list_of_not_isShort [first] rfl ends [] split
    (List.forall_mem_singleton.mpr short) long (.start _) rfl
  have run : (Listing.files.ask pagingClient).run.run
      (.start (.scripted [.respond first.response, .respond final])) = _ := run
  rw [run]
  exact ⟨congrArg List.length sent, _, rfl⟩

end BattleAdvisor.Http
