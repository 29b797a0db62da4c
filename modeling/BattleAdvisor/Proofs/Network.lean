import BattleAdvisor.Advice.CommonTypes
import BattleAdvisor.Proofs.Conversation
import BattleAdvisor.Proofs.Http.Playing
import BattleAdvisor.Remote.Store

/-!
# Advice over the network

`Plays` relates the reactions of a scripted network to a call and its result: the network answers
the requests that the call becomes with texts that spell the result. `PlaysAll` does so for all
exchanges of a run.

**Theorem (`advise_over_network`).** If a network plays out the exchanges that a run has with some
service, the same run over the network comes to the same result; every reasonable conversation can
be played out; and answers are read as they are written (`ReadsAnswers`).

By induction on the exchanges, the client answers all their calls as the service does, up to a raw
reply behind the same text (`Client.Usable.served_of_plays`). That makes no difference to a run: it
has the same course over the network (`course_of_agree`).
-/

namespace BattleAdvisor.Http

open Client
open Json hiding Field

section

variable [Library] {client : Client}

/-! ## Playing out exchanges -/

/-- The reactions that play out a call with its result. -/
inductive Plays (client : Client) : List Reaction → Exchange → Prop
  | listFiles {reactions : List Reaction} {result : Except ServiceError (List UploadedFile)}
      (plays : PlaysListing client "files" Body.filePage reactions result) :
      Plays client reactions ⟨.listFiles, result⟩
  | uploadFile (upload : Upload) {reactions : List Reaction}
      {result : Except ServiceError UploadedFile} (plays : PlaysUpload reactions result) :
      Plays client reactions ⟨.uploadFile upload, result⟩
  | listCaches {reactions : List Reaction} {result : Except ServiceError (List ContentCache)}
      (plays : PlaysListing client "cachedContents" Body.cachePage reactions result) :
      Plays client reactions ⟨.listCaches, result⟩
  | createCache (request : CacheRequest) {reactions : List Reaction}
      {result : Except ServiceError ContentCache}
      (plays : PlaysRecord ContentCache.format.parse reactions result) :
      Plays client reactions ⟨.createCache request, result⟩
  | getModel (model : String) {reactions : List Reaction} {result : Except ServiceError ModelCard}
      (plays : PlaysRecord ModelCard.format.parse reactions result) :
      Plays client reactions ⟨.getModel model, result⟩
  | generate (request : ModelRequest) {reactions : List Reaction}
      {result : Except ServiceError ModelReply} (plays : PlaysReply reactions result) :
      Plays client reactions ⟨.generate request, result⟩

/-- The reactions that play out exchanges one after another. -/
inductive PlaysAll (client : Client) : List Reaction → List Exchange → Prop
  | nil : PlaysAll client [] []
  | cons {before after : List Reaction} {exchange : Exchange} {exchanges : List Exchange}
      (first : Plays client before exchange) (others : PlaysAll client after exchanges) :
      PlaysAll client (before ++ after) (exchange :: exchanges)

/-- Two exchanges agree if they are the same, up to a raw reply behind the same text. -/
inductive Agrees : Exchange → Exchange → Prop
  | refl (exchange : Exchange) : Agrees exchange exchange
  | reply (request : ModelRequest) {reply other : ModelReply} (same : other.text? = reply.text?) :
      Agrees ⟨.generate request, .ok reply⟩ ⟨.generate request, .ok other⟩

/-- An exchange whose upload, if it is one, can be announced: its media type may stand in a
header. -/
def Announceable (exchange : Exchange) : Prop :=
  ∀ upload, exchange.call = .uploadFile upload →
    ∀ t ∈ upload.mimeType?, t.toList.all isHeaderChar = true

theorem Talk.Comes.answer {call : Call} {reactions rest : List Reaction}
    {result : Except ServiceError call.Answer}
    (comes : (client.perform call).Comes reactions result rest) (session : Session)
    (network : session.network = .scripted reactions) :
    ∃ log next, client.service.answer call session = (⟨result, log⟩, next) ∧
      next.network = .scripted rest := by
  obtain ⟨next, run, left⟩ := comes session network
  refine ⟨next.reports, { next with reports := [] }, ?_, left⟩
  simp only [Client.service, run]

variable [LawfulLibrary]

/-- A call over a network that plays it out comes to its result, up to a raw reply. -/
theorem Client.Usable.perform_plays (usable : client.Usable) {reactions : List Reaction}
    {call : Call} {result : Except ServiceError call.Answer} (fits : client.Fits call)
    (plays : Plays client reactions ⟨call, result⟩)
    (announceable : Announceable ⟨call, result⟩) (rest : List Reaction) :
    ∃ result', (client.perform call).Comes (reactions ++ rest) result' rest ∧
      Agrees ⟨call, result⟩ ⟨call, result'⟩ := by
  cases plays with
  | listFiles plays => exact ⟨_, usable.list_plays fits plays rest, .refl _⟩
  | uploadFile upload plays =>
    exact ⟨_, usable.upload_plays fits (announceable upload rfl) plays rest, .refl _⟩
  | listCaches plays => exact ⟨_, usable.list_plays fits plays rest, .refl _⟩
  | createCache request plays =>
    exact ⟨_, usable.post_plays fits plays (readsTexts_decode _) rest, .refl _⟩
  | getModel model plays =>
    exact ⟨_, usable.get_plays fits plays (readsTexts_decode _) rest, .refl _⟩
  | generate request plays =>
    obtain ⟨error, rfl, comes⟩ | ⟨reply, other, rfl, same, comes⟩ :=
      usable.generate_plays fits plays rest
    · exact ⟨_, comes, .refl _⟩
    · exact ⟨_, comes, .reply request same⟩

/-- Over a network that plays out exchanges, a client answers their calls, with results that
agree. -/
theorem Client.Usable.served_of_plays (usable : client.Usable) {reactions : List Reaction}
    {exchanges : List Exchange} (plays : PlaysAll client reactions exchanges)
    (fits : ∀ exchange ∈ exchanges, client.Fits exchange.call)
    (announceable : ∀ exchange ∈ exchanges, Announceable exchange) (rest : List Reaction)
    (session : Session) (network : session.network = .scripted (reactions ++ rest)) :
    ∃ others last, List.Forall₂ Agrees exchanges others ∧
      client.service.Served session others last := by
  induction plays generalizing session with
  | nil => exact ⟨[], session, .nil, .nil session⟩
  | @cons before after exchange exchanges first _ ih =>
    rw [List.append_assoc] at network
    obtain ⟨fit, fits⟩ := List.forall_mem_cons.mp fits
    obtain ⟨headed, announceable⟩ := List.forall_mem_cons.mp announceable
    obtain ⟨result, comes, agrees⟩ := usable.perform_plays fit first headed (after ++ rest)
    obtain ⟨log, next, answered, network⟩ := comes.answer session network
    obtain ⟨others, last, agree, served⟩ := ih fits announceable next network
    exact ⟨_ :: others, last, .cons agrees agree, .cons answered served⟩

end

/-! ## Courses over the network -/

theorem Agrees.eq {exchange other : Exchange} (h : Agrees exchange other)
    (early : exchange.operation ≠ .generate) : other = exchange := by
  cases h with
  | refl => rfl
  | reply request same => exact absurd rfl early

/-- Nothing but a raw reply makes a difference between exchanges that agree. -/
theorem eq_append_of_agree {exchanges after others : List Exchange}
    (h : List.Forall₂ Agrees (exchanges ++ after) others)
    (early : .generate ∉ operations exchanges) :
    ∃ after', others = exchanges ++ after' ∧ List.Forall₂ Agrees after after' := by
  induction exchanges generalizing others with
  | nil => exact ⟨others, rfl, h⟩
  | cons exchange exchanges ih =>
    cases h with
    | cons first rest =>
      rw [operations_cons, List.mem_cons, not_or] at early
      obtain ⟨after', rfl, agree⟩ := ih rest early.2
      exact ⟨after', by rw [first.eq (Ne.symm early.1), List.cons_append], agree⟩

open Advisor Provision

section

variable [MediaTypes]

/-- A run has a course with each conversation that agrees with one that it has a course with. -/
theorem course_of_agree {σ τ : Type} {advisor : Advisor σ} {question : Question}
    {files : FileSystem} {exchanges others : List Exchange} {result : Except AdviceError String}
    (course : Course advisor question files exchanges result)
    (agree : List.Forall₂ Agrees exchanges others) (service : Service τ) :
    Course (advisor.via service) question files others result := by
  cases course with
  | unprepared prepared =>
    rw [← List.append_nil exchanges] at agree
    obtain ⟨_, rfl, ⟨⟩⟩ := eq_append_of_agree agree prepared.generate_notMem
    rw [List.append_nil]
    exact .unprepared (prepared.via service)
  | refused prepared error =>
    obtain ⟨_, rfl, rest⟩ := eq_append_of_agree agree prepared.generate_notMem
    obtain - | ⟨first, ⟨⟩⟩ := rest
    cases first with
    | refl => exact .refused (prepared.via service) error
  | generated prepared reply =>
    obtain ⟨_, rfl, rest⟩ := eq_append_of_agree agree prepared.generate_notMem
    obtain - | ⟨first, ⟨⟩⟩ := rest
    cases first with
    | refl => exact .generated (prepared.via service) reply
    | @reply _ _ other same =>
      have text : textOf reply = textOf other := by
        unfold textOf
        rw [same]
      rw [text]
      exact .generated (prepared.via service) other

/-! ## Announcing uploads -/

theorem mediaType?_plain [LawfulMediaTypes] {path : Path} {mediaType : String}
    (h : path.mediaType? = some mediaType) : mediaType.toList.all isHeaderChar = true := by
  obtain ⟨extension, -, guessed⟩ := Option.bind_eq_some_iff.mp h
  refine List.all_eq_true.mpr fun c among => ?_
  obtain ⟨least, greatest⟩ := LawfulMediaTypes.plain guessed c among
  have least : 32 ≤ c.toNat := least
  have greatest : c.toNat ≤ 126 := greatest
  simp only [isHeaderChar, Bool.or_eq_true, Bool.and_eq_true, decide_eq_true_eq]
  right
  omega

omit [MediaTypes] in
theorem announceable_of_operation {exchange : Exchange} (h : exchange.operation ≠ .uploadFile) :
    Announceable exchange := by
  intro upload same
  rw [Exchange.operation, same] at h
  exact absurd rfl h

variable {σ : Type} {advisor : Advisor σ} {question : Question} {files : FileSystem}
  {exchanges : List Exchange} {exchange : Exchange}

theorem announceable_of_file [LawfulMediaTypes] {name : String} {path : Path}
    {result : Except AdviceError UploadedFile}
    (course : FileCourse files name path exchanges result) (h : exchange ∈ exchanges) :
    Announceable exchange := by
  by_cases upload : exchange.operation = .uploadFile
  · cases course with
    | unlisted | found | unread =>
      obtain rfl := List.mem_singleton.mp h
      cases upload
    | refused | uploaded =>
      simp only [List.mem_cons, List.not_mem_nil, or_false] at h
      obtain rfl | rfl := h
      · cases upload
      · rintro _ ⟨⟩ mediaType h
        exact mediaType?_plain h
  · exact announceable_of_operation upload

omit [MediaTypes] in
theorem announceable_of_cache {request : CacheRequest} {result : Except AdviceError ContentCache}
    (course : CacheCourse request exchanges result) (h : exchange ∈ exchanges) :
    Announceable exchange := by
  refine announceable_of_operation fun upload => ?_
  simpa [upload] using course.operations_subset (List.mem_map_of_mem h)

omit [MediaTypes] in
theorem announceable_of_card {model : String} {result : Except AdviceError ModelCard}
    (course : CardCourse model exchanges result) (h : exchange ∈ exchanges) :
    Announceable exchange := by
  refine announceable_of_operation fun upload => ?_
  simpa [upload] using course.operations_subset (List.mem_map_of_mem h)

theorem announceable_of_prepare [LawfulMediaTypes] {result : Except AdviceError ModelRequest}
    (course : PrepareCourse advisor question files exchanges result) (h : exchange ∈ exchanges) :
    Announceable exchange :=
  PrepareCourse.of_closed (Courses.closed_forall Announceable)
    (fun _ _ _ _ course _ => announceable_of_file course)
    (fun _ _ _ course _ => announceable_of_cache course)
    (fun _ _ _ course _ => announceable_of_card course) _ _ course exchange h

/-- The media type of each file that a run uploads may stand in a header. -/
theorem announceable_of_course [LawfulMediaTypes] {result : Except AdviceError String}
    (course : Course advisor question files exchanges result) (h : exchange ∈ exchanges) :
    Announceable exchange := by
  cases course with
  | unprepared prepared => exact announceable_of_prepare prepared h
  | refused prepared | generated prepared =>
    rcases List.mem_append.mp h with h | h
    · exact announceable_of_prepare prepared h
    · obtain rfl := List.mem_singleton.mp h
      exact announceable_of_operation nofun

end

/-! ## Written conversations -/

/-- A response that reports success, with the written form of a value as its body. -/
structure Response.Writes (response : Response) (value : Value) : Prop where
  success : response.isSuccess = true
  complete : response.complete = true
  body : response.body = Utf8.encode value.write

theorem Response.Writes.spells {response : Response} {value : Value} {α : Type}
    {parse : String → Except ReadError α} {a : α} (writes : response.Writes value)
    (parsed : parse value.write = .ok a) : response.Spells parse a :=
  ⟨writes.success, writes.complete, value.write, writes.body, parsed⟩

section

variable [Library]

/-- Answers are read as they are written: the members of records may come in any order, and
optional ones that are absent may be left out. Of a raw reply, just floating-point numbers may be
read as others that are near. -/
structure ReadsAnswers : Prop where
  filePage : ∀ {response : Response} {value : Value} {items : List UploadedFile}
    {others : List (String × Value)} {token? : Option String}, response.Writes value →
    Body.TellsPage "files" UploadedFile.format items others value →
    Body.TellsToken token? others → response.Spells Body.filePage.parse ⟨items, token?⟩
  cachePage : ∀ {response : Response} {value : Value} {items : List ContentCache}
    {others : List (String × Value)} {token? : Option String}, response.Writes value →
    Body.TellsPage "cachedContents" ContentCache.format items others value →
    Body.TellsToken token? others → response.Spells Body.cachePage.parse ⟨items, token?⟩
  uploaded : ∀ {response : Response} {value : Value} {file : UploadedFile},
    response.Writes (.object [("file", value)]) → UploadedFile.format.Tells file value →
    response.Spells Body.uploaded.parse file
  cache : ∀ {response : Response} {value : Value} {cache : ContentCache},
    response.Writes value → ContentCache.format.Tells cache value →
    response.Spells ContentCache.format.parse cache
  card : ∀ {response : Response} {value : Value} {card : ModelCard}, response.Writes value →
    ModelCard.format.Tells card value → card.Fits → response.Spells ModelCard.format.parse card
  reply : ∀ {response : Response} {raw : Value}, response.Writes raw →
    raw.Readable nestingLimit →
    ∃ other, response.Spells Value.parse other ∧ other.withoutFloats = raw.withoutFloats
  refusal : ∀ {response : Response} {message : String}, 400 ≤ response.status →
    response.status ≤ 599 → response.complete = true → response.NamesNoEncoding →
    response.body = Utf8.encode message → message.toList.head? ≠ some '\ufeff' →
    response.Refuses (.api response.status message)

theorem readsAnswers [LawfulLibrary] : ReadsAnswers where
  filePage writes tells token := writes.spells <|
    tells.parse (by decide) UploadedFile.format_distinct
      (fun file _ => UploadedFile.format_keeps file) token
  cachePage writes tells token := writes.spells <|
    tells.parse (by decide) ContentCache.format_distinct
      (fun cache _ => ContentCache.format_keeps cache) token
  uploaded writes tells := writes.spells (Body.uploaded_parse tells)
  cache writes tells := writes.spells <|
    tells.parse ContentCache.format_distinct (ContentCache.format_keeps _)
  card writes tells fits := writes.spells <|
    tells.parse ModelCard.format_distinct (ModelCard.format_keeps fits)
  reply writes readable := by
    obtain ⟨other, parsed, same⟩ := Value.parse_write readable
    exact ⟨other, writes.spells parsed, same⟩
  refusal least greatest complete usual body unmarked :=
    ⟨by rw [Response.message_of_body complete usual body unmarked], least, greatest⟩

/-- A response with a value as its body. -/
def written (value : Value) : Response :=
  ⟨200, [], Utf8.encode value.write, true⟩

omit [Library] in
theorem writes_written (value : Value) : (written value).Writes value :=
  ⟨rfl, rfl, rfl⟩

/-- A response that refuses. -/
def refusal (status : Nat) (message : String) : Response :=
  ⟨status, [], Utf8.encode message, true⟩

/-- The address of this machine. -/
def thisMachine : Url :=
  ⟨"http".toList, some "localhost".toList, ['/'], none, none⟩

variable [LawfulLibrary]

theorem read_thisMachine : Url.read "http://localhost/" = .ok thisMachine := by
  have name : Hosts.read "localhost".toList = .ok "localhost".toList :=
    LawfulLibrary.read_plain (by decide)
  have hosted : Url.read "http://localhost/" =
    Url.readHosted "http".toList 80 "localhost/".toList := rfl
  have ends : Url.splitEnds "localhost/".toList = ("localhost/".toList, none, none) := rfl
  have parts : ("localhost/".toList.span fun c => !Url.isSeparator c) =
    ("localhost".toList, ['/']) := rfl
  have host : Url.splitChannel false [] (Url.dropUser "localhost".toList) =
    ("localhost".toList, []) := rfl
  rw [hosted, Url.readHosted]
  simp only [ends, parts, host, name]
  rfl

theorem isUsable_thisMachine : thisMachine.IsUsable :=
  ⟨by decide, by decide, LawfulLibrary.admits_plain (by decide)⟩

/-- A response that invites an announced file. -/
def invitation : Response :=
  ⟨200, [("x-goog-upload-url", Utf8.encode "http://localhost/")], [], true⟩

theorem invites_invitation : invitation.Invites "http://localhost/" thisMachine where
  success := rfl
  named := by decide +kernel
  read := read_thisMachine
  usable := isUsable_thisMachine
  short := by decide

/-- An exchange that a network can play out: a failure is a refusal by the service, the limits of
models are words, and a raw reply can be written and read again. -/
inductive Playable : Exchange → Prop
  | refused (call : Call) {status : Nat} {message : String} (least : 400 ≤ status)
      (greatest : status ≤ 599) (unmarked : message.toList.head? ≠ some '\ufeff') :
      Playable ⟨call, .error (.api status message)⟩
  | listFiles (listing : List UploadedFile) : Playable ⟨.listFiles, .ok listing⟩
  | uploadFile (upload : Upload) (file : UploadedFile) : Playable ⟨.uploadFile upload, .ok file⟩
  | listCaches (listing : List ContentCache) : Playable ⟨.listCaches, .ok listing⟩
  | createCache (request : CacheRequest) (cache : ContentCache) :
      Playable ⟨.createCache request, .ok cache⟩
  | getModel (model : String) {card : ModelCard} (fits : card.Fits) :
      Playable ⟨.getModel model, .ok card⟩
  | generate (request : ModelRequest) {raw : Value} (readable : raw.Readable nestingLimit) :
      Playable ⟨.generate request, .ok ⟨Body.replyText? raw, raw⟩⟩

/-- All items of a listing on one page. -/
def wholePage {α : Type} (key : String) (item : RecordFormat α) (items : List α) : Value :=
  .object [(key, .array (items.map item.toValue))]

omit [Library] [LawfulLibrary] in
theorem tells_wholePage {α : Type} {item : RecordFormat α}
    (tells : ∀ record, item.Tells record (item.toValue record)) (key : String) (items : List α) :
    Body.TellsPage key item items [] (wholePage key item items) :=
  ⟨_, _, Body.forall₂_tells tells items, rfl, .inl rfl⟩

/-- What can be played out is played out by some reactions. -/
theorem Playable.exists_plays {exchange : Exchange} (h : Playable exchange) (client : Client) :
    ∃ reactions, Plays client reactions exchange := by
  cases h with
  | @refused call status message least greatest unmarked =>
    have refuses : (refusal status message).Refuses (.api status message) :=
      readsAnswers.refusal least greatest rfl (List.forall_mem_nil _) rfl unmarked
    cases call with
    | listFiles => exact ⟨_, .listFiles (.refused refuses)⟩
    | uploadFile upload => exact ⟨_, .uploadFile upload (.unannounced refuses)⟩
    | listCaches => exact ⟨_, .listCaches (.refused refuses)⟩
    | createCache request => exact ⟨_, .createCache request (.refused refuses)⟩
    | getModel model => exact ⟨_, .getModel model (.refused refuses)⟩
    | generate request => exact ⟨_, .generate request (.refused refuses)⟩
  | listFiles listing =>
    have tells := tells_wholePage UploadedFile.tells_toValue "files" listing
    exact ⟨_, .listFiles (.last rfl (readsAnswers.filePage (writes_written _) tells .absent))⟩
  | uploadFile upload file =>
    have spells := readsAnswers.uploaded (writes_written _) (UploadedFile.tells_toValue file)
    exact ⟨_, .uploadFile upload (.uploaded invites_invitation spells)⟩
  | listCaches listing =>
    have tells := tells_wholePage ContentCache.tells_toValue "cachedContents" listing
    exact ⟨_, .listCaches (.last rfl (readsAnswers.cachePage (writes_written _) tells .absent))⟩
  | createCache request cache =>
    have spells := readsAnswers.cache (writes_written _) (ContentCache.tells_toValue cache)
    exact ⟨_, .createCache request (.told spells)⟩
  | @getModel model card fits =>
    have spells := readsAnswers.card (writes_written _) (ModelCard.tells_toValue card) fits
    exact ⟨_, .getModel model (.told spells)⟩
  | generate request readable =>
    obtain ⟨other, spells, same⟩ := readsAnswers.reply (writes_written _) readable
    exact ⟨_, .generate request (.told spells same)⟩

theorem exists_playsAll {exchanges : List Exchange}
    (h : ∀ exchange ∈ exchanges, Playable exchange) (client : Client) :
    ∃ reactions, PlaysAll client reactions exchanges := by
  induction exchanges with
  | nil => exact ⟨[], .nil⟩
  | cons exchange exchanges ih =>
    obtain ⟨before, first⟩ := (h exchange List.mem_cons_self).exists_plays client
    obtain ⟨after, others⟩ := ih fun e h' => h e (List.mem_cons_of_mem _ h')
    exact ⟨before ++ after, .cons first others⟩

end

/-! ## Runs -/

/-- **Advice over the network.** Let no call of a run with a service need an address that is too
long. If a network plays out the exchanges of the run, the run over the network comes to the same
result, whatever follows in the script. If all exchanges can be played out, some network does so.
Answers are read as they are written. -/
theorem advise_over_network [MediaTypes] [LawfulMediaTypes] [Library] [LawfulLibrary]
    {client : Client} (usable : client.Usable) {σ : Type} (advisor : Advisor σ)
    (question : Question) (remote : σ) (files : FileSystem)
    (fits : ∀ exchange ∈ ((advisor.advise question).start (.start remote files)).2.exchanges,
      client.Fits exchange.call) :
    let run := (advisor.advise question).start (.start remote files)
    (∀ reactions, PlaysAll client reactions run.2.exchanges → ∀ rest,
      (((advisor.via client.service).advise question).start
        (.start (.start (.scripted (reactions ++ rest))) files)).1 = run.1) ∧
    ((∀ exchange ∈ run.2.exchanges, Playable exchange) →
      ∃ reactions, PlaysAll client reactions run.2.exchanges) ∧
    ReadsAnswers := by
  obtain ⟨result, next, exchanges, run, goes, course⟩ :=
    advisor.advise_course question (.start remote files)
  have recorded : next.exchanges = exchanges := goes.recorded
  simp only [run, recorded] at fits ⊢
  refine ⟨fun reactions plays rest => ?_, (exists_playsAll · client), readsAnswers⟩
  obtain ⟨others, last, agree, served⟩ := usable.served_of_plays plays fits
    (fun exchange h => announceable_of_course course h) rest
    (.start (.scripted (reactions ++ rest))) rfl
  obtain ⟨next', run', -⟩ := advise_of_course (advisor.via client.service)
    (.start (.start (.scripted (reactions ++ rest))) files)
    (course_of_agree course agree client.service) served
  rw [run']

/-! ## Replies that are nested too deeply -/

/-- Arrays inside one another. -/
def nested : Nat → Value
  | 0 => .array []
  | depth + 1 => .array [nested depth]

/-- No reader that may open no more arrays than there are gets to their inside. -/
theorem readValue_nested (bound : Nat) {depth inside : Nat} (h : depth ≤ inside)
    (rest : List Char) :
    ∃ failure, readValue bound depth ((nested inside).chars ++ rest) = .error failure := by
  induction depth generalizing inside rest with
  | zero =>
    obtain ⟨text, opens⟩ : ∃ text, (nested inside).chars = '[' :: text := by
      cases inside <;> exact ⟨_, rfl⟩
    rw [opens]
    exact ⟨_, by simp [readValue, readValueAround, skipGap_cons (show isGap '[' = false from rfl),
      failAt, failInside]; rfl⟩
  | succ depth ih =>
    obtain ⟨inside, rfl⟩ : ∃ n, inside = n + 1 := ⟨inside - 1, by omega⟩
    obtain ⟨failure, failed⟩ := ih (show depth ≤ inside by omega) (Value.itemsText [] ++ rest)
    obtain ⟨c, text, start, gap, close⟩ :=
      (begins_chars (nested inside)).append (Value.itemsText [] ++ rest)
    rw [start] at failed
    refine ⟨failure, ?_⟩
    rw [nested, Value.chars, List.cons_append, List.cons_append, List.append_assoc, start,
      readValue, readValueAround_bracket]
    simp only [Reader.map, readItems, skipGap_cons gap, if_neg close, failed]

/-- A reply with a text, and with arrays inside one another next to it. -/
def deepReply (inside : Nat) : Value :=
  .object [
    ("annotations", nested inside),
    ("candidates", .array [.object [("content", .object [("parts", .array [
      .object [("text", .string "go")]])])]])]

/-- The object around the arrays counts as well. -/
theorem parse_deepReply {inside : Nat} (h : nestingLimit = inside + 1) :
    ∃ error, Value.parse (deepReply inside).write = .error error := by
  generalize size : (deepReply inside).chars.length + 1 = bound
  obtain ⟨rest, spelled⟩ : ∃ rest, (deepReply inside).chars =
      '\x7b' :: '"' :: ("annotations".toList.flatMap escapedChar ++
        '"' :: ':' :: ((nested inside).chars ++ rest)) := by
    simp only [deepReply, Value.chars, stringText, List.cons_append, List.append_assoc,
      List.nil_append]
    exact ⟨_, rfl⟩
  obtain ⟨failure, failed⟩ := readValue_nested bound (Nat.le_refl inside) rest
  have failed : readValue bound nestingLimit (deepReply inside).chars = .error failure := by
    rw [spelled, h, readValue, readValueAround_brace]
    simp only [Reader.map, readMembers, skipGap_cons (show isGap '"' = false from rfl),
      readMember_stringText, readValueOf, readColon,
      skipGap_cons (show isGap ':' = false from rfl)]
    rw [if_neg (by decide)]
    simp only [if_true, failed]
  refine ⟨failure.locate (deepReply inside).chars, ?_⟩
  simp only [Value.parse, readWhole, Value.write, String.toList_ofList, size, failed]
  rfl

/-! ## Runs on this machine -/

/-- A client of a service on this machine. -/
def localClient : Client := ⟨"key", "http://localhost"⟩

theorem usable_localClient : localClient.Usable where
  key := by decide
  base := ⟨thisMachine, read_thisMachine, isUsable_thisMachine⟩

/-- A model. -/
def localCard : ModelCard := ⟨"models/local", some 4096, none⟩

theorem fits_localCard : localCard.Fits := by
  constructor
  · rintro _ ⟨⟩
    decide
  · rintro _ ⟨⟩

/-- A service in memory that holds caches and has one reply. -/
def localStore (caches : List ContentCache) (raw : Value) : Store where
  files := []
  caches := caches
  model? := some localCard
  replies := [⟨Body.replyText? raw, raw⟩]
  breakdowns := []
  keeps := true
  history := []

/-- An advisor of a service in memory. -/
def localAdvisor : Advisor Store :=
  ⟨Store.service, .usual, ⟨"Rules", "\x7b\x7bPLAYER\x7d\x7d"⟩, .off⟩

/-- A question, with or without a cache. -/
def localQuestion (useCache : Bool) : Question := ⟨"player", "\x7b\x7d", useCache, none, false⟩

/-- No files. -/
def noFiles : FileSystem := ⟨.directory [], []⟩

/-- The request without a cache. -/
def localRequest : ModelRequest :=
  ⟨localCard.name, localAdvisor.promptOf (localQuestion false), .inline "Rules" []⟩

/-- The course of a question without a cache, up to the request. -/
theorem localPrepare {σ : Type} (service : Service σ) :
    PrepareCourse (localAdvisor.via service) (localQuestion false) noFiles
      [⟨.getModel localAdvisor.preferences.model, .ok localCard⟩] (.ok localRequest) :=
  .provided rfl localCard (.formed (.unwanted (.inl rfl)) (.unwanted rfl))

theorem fits_localClient :
    localClient.Fits (.getModel localAdvisor.preferences.model) ∧
    localClient.Fits (.generate localRequest) := by
  decide +kernel

/-- A reply that is nested too deeply reaches an advisor from memory. -/
theorem localRun_deepReply :
    ((localAdvisor.advise (localQuestion false)).start
      (.start (localStore [] (deepReply 126)) noFiles)).1 = .ok "go" := by
  have served : Store.service.Served (localStore [] (deepReply 126))
      ([⟨.getModel localAdvisor.preferences.model, .ok localCard⟩] ++
        [⟨.generate localRequest, .ok ⟨some "go", deepReply 126⟩⟩]) _ :=
    .cons rfl (.cons rfl (.nil _))
  obtain ⟨next, run, -⟩ := advise_of_course localAdvisor
    (.start (localStore [] (deepReply 126)) noFiles)
    (.generated (localPrepare Store.service) ⟨some "go", deepReply 126⟩) served
  rw [run]
  rfl

/-- Its written form cannot be read. -/
theorem result_deepReply :
    ∃ error, (written (deepReply 126)).result (decodeText Value.parse) =
      .error (.http (.unusable (.malformed error))) := by
  obtain ⟨error, malformed⟩ := parse_deepReply (show nestingLimit = 126 + 1 from rfl)
  have writes := writes_written (deepReply 126)
  refine ⟨error, ?_⟩
  rw [Response.result_of_isSuccess writes.success, Response.read, if_pos writes.complete,
    writes.body, readsTexts_decodeText, malformed]
  rfl

/-- A reply that is nested too deeply reaches an advisor from memory, but not over a network that
sends the same records in their written form. -/
theorem deepReply_lost_over_network :
    localClient.Usable ∧ Body.replyText? (deepReply 126) = some "go" ∧
    ((localAdvisor.advise (localQuestion false)).start
      (.start (localStore [] (deepReply 126)) noFiles)).1 = .ok "go" ∧
    (((localAdvisor.via localClient.service).advise (localQuestion false)).start
      (.start (.start (.scripted [
        .respond (written (ModelCard.format.toValue localCard)),
        .respond (written (deepReply 126))])) noFiles)).1 =
      .error (.generationFailed "HTTP error: error decoding response body") := by
  refine ⟨usable_localClient, rfl, localRun_deepReply, ?_⟩
  obtain ⟨error, lost⟩ := result_deepReply
  obtain ⟨card, generating⟩ := fits_localClient
  have found : (localClient.perform (.getModel localAdvisor.preferences.model)).Comes _ _ _ :=
    usable_localClient.get_plays card
      (.told (readsAnswers.card (writes_written _) (ModelCard.tells_toValue localCard)
        fits_localCard))
      (readsTexts_decode _) [.respond (written (deepReply 126))]
  obtain ⟨url, reaches⟩ := usable_localClient.reaches (pathToGenerate localRequest)
  have final := Response.isFinal_of_isSuccess (writes_written (deepReply 126)).success
  have reply : (localClient.perform (.generate localRequest)).Comes _ _ _ :=
    ((reaches.post (generating url reaches.read) (Body.ofModelRequest localRequest)
      (decodeText Value.parse) final []).map _).comes
  rw [lost] at reply
  obtain ⟨log, next, found, network⟩ := found.answer (.start (.scripted _)) rfl
  obtain ⟨log', last, failed, -⟩ := reply.answer next network
  obtain ⟨end', run, -⟩ := advise_of_course (localAdvisor.via localClient.service)
    (.start (.start (.scripted _)) noFiles)
    (.refused (localPrepare localClient.service) (.http (.unusable (.malformed error))))
    (.cons found (.cons failed (.nil last)))
  exact congrArg Prod.fst run

/-- A reply with a text. -/
def plainReply : Value :=
  .object [("candidates", .array [.object [("content", .object [("parts", .array [
    .object [("text", .string "go")]])])]])]

/-- Two caches. -/
def localCaches : List ContentCache :=
  [⟨"cachedContents/a", some "other", none, none⟩, ⟨"cachedContents/b", none, none, none⟩]

/-- The page with the first cache. -/
def firstPage : Value :=
  .object [
    ("cachedContents", .array [.object [("name", .string "cachedContents/a"),
      ("displayName", .string "other"), ("model", .null), ("expireTime", .null)]]),
    ("nextPageToken", .string "more")]

/-- The page with the second cache. -/
def lastPage : Value :=
  .object [
    ("nextPageToken", .null),
    ("cachedContents", .array [.object [("name", .string "cachedContents/b")]])]

/-- The cache that is created. -/
def localCache : ContentCache :=
  Store.newCache (localAdvisor.cacheRequest localCard.name []) 1

/-- The request with the cache. -/
def cachedRequest : ModelRequest :=
  ⟨localCard.name, localAdvisor.promptOf (localQuestion true), .cached localCache.name⟩

/-- The exchanges of a question with a cache. -/
def localExchanges : List Exchange := [
  ⟨.getModel localAdvisor.preferences.model, .ok localCard⟩,
  ⟨.listCaches, .ok localCaches⟩,
  ⟨.createCache (localAdvisor.cacheRequest localCard.name []), .ok localCache⟩,
  ⟨.generate cachedRequest, .ok ⟨some "go", plainReply⟩⟩]

/-- The reactions that play out the exchanges of a question with a cache. -/
def localReactions : List Reaction := [
  .respond (written (ModelCard.format.toValue localCard)),
  .respond (written firstPage),
  .respond (written lastPage),
  .respond (written (ContentCache.format.toValue localCache)),
  .respond (written plainReply)]

theorem tells_localCaches :
    ContentCache.format.Tells ⟨"cachedContents/a", some "other", none, none⟩
      (.object [("name", .string "cachedContents/a"), ("displayName", .string "other"),
        ("model", .null), ("expireTime", .null)]) ∧
    ContentCache.format.Tells ⟨"cachedContents/b", none, none, none⟩
      (.object [("name", .string "cachedContents/b")]) := by
  refine ⟨ContentCache.tells_toValue _, ContentCache.format.fields.take 1,
    List.take_subset _ _, by decide, ?_, rfl, rfl⟩
  intro field h required
  simp only [ContentCache.format, List.mem_cons, List.not_mem_nil, or_false] at h
  rcases h with rfl | rfl | rfl | rfl
  · exact List.mem_cons_self
  all_goals simp [Json.Field.optionalText] at required

theorem readable_member {depth : Nat} {key : String} {value : Value} (h : value.Readable depth) :
    Value.Readable (depth + 1) (.object [(key, value)]) :=
  .object (List.pairwise_singleton _ _) (by simpa using h)

theorem readable_item {depth : Nat} {value : Value} (h : value.Readable depth) :
    Value.Readable (depth + 1) (.array [value]) :=
  .array (by simpa using h)

theorem readable_plainReply : plainReply.Readable nestingLimit :=
  readable_member <| readable_item <| readable_member <| readable_member <| readable_item <|
    readable_member (.string 121 "go")

theorem plays_localReactions : PlaysAll localClient localReactions localExchanges := by
  obtain ⟨first, second⟩ := tells_localCaches
  have firstTells : Body.TellsPage "cachedContents" ContentCache.format
      [⟨"cachedContents/a", some "other", none, none⟩] [("nextPageToken", .string "more")]
      firstPage := ⟨_, _, .cons first .nil, rfl, .inl rfl⟩
  have lastTells : Body.TellsPage "cachedContents" ContentCache.format
      [⟨"cachedContents/b", none, none, none⟩] [("nextPageToken", .null)] lastPage :=
    ⟨_, _, .cons second .nil, rfl, .inr (.inl rfl)⟩
  have listed : PlaysListing localClient "cachedContents" Body.cachePage _ (.ok _) :=
    .more (by decide) (readsAnswers.cachePage (writes_written _) firstTells (.told (some "more")))
      (by decide +kernel)
      (.last rfl (readsAnswers.cachePage (writes_written _) lastTells (.told none)))
  have card := readsAnswers.card (writes_written _) (ModelCard.tells_toValue localCard)
    fits_localCard
  have cache := readsAnswers.cache (writes_written _) (ContentCache.tells_toValue localCache)
  obtain ⟨other, reply, same⟩ := readsAnswers.reply (writes_written _) readable_plainReply
  exact .cons (.getModel _ (.told card)) <| .cons (.listCaches listed) <|
    .cons (.createCache _ (.told cache)) <|
    .cons (.generate cachedRequest (.told reply same)) .nil

theorem fits_localExchanges : ∀ exchange ∈ localExchanges, localClient.Fits exchange.call := by
  decide +kernel

theorem localCourse :
    Course localAdvisor (localQuestion true) noFiles localExchanges (.ok "go") := by
  have prepared : PrepareCourse localAdvisor (localQuestion true) noFiles (localExchanges.take 3)
      (.ok cachedRequest) :=
    .provided rfl localCard
      (.formed (.unwanted (.inl rfl)) (.provided rfl (.created localCache rfl)))
  exact .generated prepared ⟨some "go", plainReply⟩

theorem localRun :
    ∃ next, (localAdvisor.advise (localQuestion true)).start
        (.start (localStore localCaches plainReply) noFiles) = (.ok "go", next) ∧
      next.exchanges = localExchanges := by
  have served : Store.service.Served (localStore localCaches plainReply) localExchanges _ :=
    .cons rfl <| .cons rfl <| .cons rfl <| .cons rfl <| .nil _
  obtain ⟨next, run, goes, -⟩ := advise_of_course localAdvisor
    (.start (localStore localCaches plainReply) noFiles) localCourse served
  exact ⟨next, run, goes.recorded⟩

instance commonTypes_lawful : LawfulMediaTypes where
  plain guessed := by
    have plain : commonMediaTypes.all (·.2.toList.all fun c => ' ' ≤ c ∧ c ≤ '~') = true := by
      decide
    obtain ⟨before, after, whole, -⟩ := List.lookup_eq_some_iff.mp guessed
    have listed := whole ▸ List.mem_append_right before List.mem_cons_self
    simpa using List.all_eq_true.mp plain _ listed

/-- A run with a cache over a network that sends the listing of caches on two pages. -/
theorem advise_over_two_pages :
    let run := (localAdvisor.advise (localQuestion true)).start
      (.start (localStore localCaches plainReply) noFiles)
    localClient.Usable ∧ (∀ exchange ∈ run.2.exchanges, localClient.Fits exchange.call) ∧
    PlaysAll localClient localReactions run.2.exchanges ∧
    (((localAdvisor.via localClient.service).advise (localQuestion true)).start
      (.start (.start (.scripted (localReactions ++ []))) noFiles)).1 = .ok "go" ∧
    (∀ exchange ∈ run.2.exchanges, Playable exchange) ∧
    ∃ reactions, PlaysAll localClient reactions run.2.exchanges := by
  obtain ⟨next, run, recorded⟩ := localRun
  have plays : PlaysAll localClient localReactions next.exchanges := recorded ▸ plays_localReactions
  have fits : ∀ exchange ∈ next.exchanges, localClient.Fits exchange.call :=
    recorded ▸ fits_localExchanges
  have playable : ∀ exchange ∈ next.exchanges, Playable exchange := by
    rw [recorded]
    intro exchange h
    simp only [localExchanges, List.mem_cons, List.not_mem_nil, or_false] at h
    rcases h with rfl | rfl | rfl | rfl
    · exact .getModel _ fits_localCard
    · exact .listCaches _
    · exact .createCache _ _
    · exact @Playable.generate cachedRequest plainReply readable_plainReply
  have played := advise_over_network usable_localClient localAdvisor (localQuestion true)
    (localStore localCaches plainReply) noFiles
  simp only [run] at played ⊢
  obtain ⟨same, exists_plays, -⟩ := played fits
  exact ⟨usable_localClient, fits, plays, same _ plays [], playable, exists_plays playable⟩

end BattleAdvisor.Http
