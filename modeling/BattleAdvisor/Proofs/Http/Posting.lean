import BattleAdvisor.Proofs.Http.Plain
import BattleAdvisor.Proofs.Http.Sent
import BattleAdvisor.Proofs.Json.Gathered

/-!
# Posted requests

The request to generate and the request for a cache are posted as one text each. Read back, the text
tells what was asked, and nothing else: `Body.TellsRequest` and `Body.TellsCacheRequest` say what
stands in it. Of an uploaded file it tells the address and the media type (`Body.reference`).

**Theorem (`posts_faithful`).** What is posted, read back, tells the request; and two requests are
posted as the same text exactly if they agree in all that is told.
-/

namespace BattleAdvisor

open Json (Value Members nestingLimit)

/-! ## Sources of the context -/

namespace ContextSource

/-- The instruction that a request carries. -/
def instruction? : ContextSource → Option String
  | .inline systemInstruction _ => some systemInstruction
  | .cached _ => none

/-- The cache that a request names. -/
def cacheName? : ContextSource → Option String
  | .inline .. => none
  | .cached cacheName => some cacheName

/-- The files that a request carries. -/
def files : ContextSource → List UploadedFile
  | .inline _ files => files
  | .cached _ => []

end ContextSource

namespace Http

namespace Body

/-- What a request tells of an uploaded file: its media type, or the one of files of which it is not
known, and its address. -/
def reference (file : UploadedFile) : String × String :=
  (file.mimeType?.getD "application/octet-stream", file.uri)

/-- Two sources tell the same: one instruction and the same of each file, or one cache. -/
inductive SameSource : ContextSource → ContextSource → Prop
  | inline (systemInstruction : String) {files others : List UploadedFile}
      (same : files.map reference = others.map reference) :
      SameSource (.inline systemInstruction files) (.inline systemInstruction others)
  | cached (cacheName : String) : SameSource (.cached cacheName) (.cached cacheName)

/-! ## What is read back -/

/-- A text, read back. -/
def textRead (text : String) : Value :=
  .object [("text", .string text)]

/-- What is told of a file, read back. -/
def fileRead (reference : String × String) : Value :=
  .object [("fileData", .object [
    ("fileUri", .string reference.2), ("mimeType", .string reference.1)])]

/-- An instruction, read back. -/
def instructionRead (text : String) : Value :=
  .object [("parts", .array [textRead text])]

/-- A turn of the user, read back. -/
def turnRead (parts : List Value) : Value :=
  .object [("parts", .array parts), ("role", .string "user")]

/-- A value tells a request to the model. -/
structure TellsRequest (request : ModelRequest) (value : Value) : Prop where
  /-- There is one turn, the user's: a part for each inline file, in order, and then the prompt. -/
  turn : value.member? "contents" = some (.array [turnRead
    ((request.config.files.map reference).map fileRead ++ [textRead request.prompt])])
  /-- There is an instruction in an inline request, and in no other. -/
  instruction : value.member? "systemInstruction" =
    request.config.instruction?.map instructionRead
  /-- There is a cache in any other request, and in no inline one. -/
  cache : value.member? "cachedContent" = request.config.cacheName?.map .string
  /-- There is nothing else. -/
  alone : ∀ key, value.member? key ≠ none →
    key ∈ ["contents", "systemInstruction", "cachedContent"]

/-- A value tells a request for a cache. -/
structure TellsCacheRequest (request : CacheRequest) (value : Value) : Prop where
  model : value.member? "model" = some (.string request.model)
  displayName : value.member? "displayName" = some (.string request.displayName)
  instruction : value.member? "systemInstruction" =
    some (instructionRead request.systemInstruction)
  /-- There is one turn, the user's, with a part for each file; and none if there are no files. -/
  contents : value.member? "contents" = if request.files = [] then none else
    some (.array [turnRead ((request.files.map reference).map fileRead)])
  /-- The lifetime is told in whole seconds. -/
  lifetime : value.member? "ttl" = some (.string (toString (request.lifetime / 1000) ++ "s"))
  /-- There is nothing else. -/
  alone : ∀ key, value.member? key ≠ none →
    key ∈ ["model", "displayName", "systemInstruction", "contents", "ttl"]

/-! ## Reading back -/

@[simp] theorem gathered_textPart (text : String) : (textPart text).gathered = textRead text := by
  simp [textPart, textRead, Members.gather_single]

@[simp] theorem gathered_filePart (file : UploadedFile) :
    (filePart file).gathered = fileRead (reference file) := by
  have order : "fileUri" < "mimeType" := by decide
  simp only [filePart, fileRead, reference, unknownMediaType, Value.gathered_object, List.map_cons,
    List.map_nil, Value.gathered_string, Members.gather_pair order, Members.gather_single]

@[simp] theorem gathered_instruction (text : String) :
    (instruction text).gathered = instructionRead text := by
  simp [instruction, instructionRead, Members.gather_single]

@[simp] theorem gathered_userTurn (parts : List Value) :
    (userTurn parts).gathered = turnRead (parts.map Value.gathered) := by
  have order : "parts" < "role" := by decide
  simp [userTurn, turnRead, Members.gather_pair order]

/-- The parts of the files, read back. -/
theorem map_gathered_filePart (files : List UploadedFile) :
    (files.map filePart).map Value.gathered = (files.map reference).map fileRead := by
  simp [Function.comp_def]

/-- What is written for the files is what is told of them. -/
theorem map_filePart {files others : List UploadedFile}
    (same : files.map reference = others.map reference) :
    files.map filePart = others.map filePart := by
  let part (reference : String × String) : Value := .object [("fileData", .object [
    ("mimeType", .string reference.1), ("fileUri", .string reference.2)])]
  have parts : filePart = part ∘ reference := rfl
  rw [parts, ← List.map_map, same, List.map_map]

theorem legible_textPart (depth : Nat) (text : String) : (textPart text).Legible (depth + 1) :=
  .single (.string depth text) "text"

theorem legible_filePart (depth : Nat) (file : UploadedFile) :
    (filePart file).Legible (depth + 2) := by
  apply Value.Legible.single
  apply Value.Legible.object
  simp [Value.Legible.string]

theorem legible_instruction (depth : Nat) (text : String) :
    (instruction text).Legible (depth + 3) := by
  apply Value.Legible.single
  apply Value.Legible.array
  simpa using legible_textPart depth text

theorem legible_userTurn {depth : Nat} {parts : List Value}
    (each : ∀ part ∈ parts, part.Legible depth) : (userTurn parts).Legible (depth + 2) := by
  apply Value.Legible.object
  simp only [List.forall_mem_cons, List.not_mem_nil, false_imp_iff, implies_true, and_true]
  exact ⟨.string _ "user", .array each⟩

/-- A turn alone, as the contents of a request. -/
theorem legible_contents {depth : Nat} {parts : List Value}
    (each : ∀ part ∈ parts, part.Legible depth) :
    (Value.array [userTurn parts]).Legible (depth + 3) := by
  apply Value.Legible.array
  simpa using legible_userTurn each

theorem legible_ofModelRequest (request : ModelRequest) :
    (ofModelRequest request).Legible nestingLimit := by
  unfold ofModelRequest
  cases request.config with
  | inline systemInstruction files =>
    apply Value.Legible.object
    simp only [List.forall_mem_cons, List.not_mem_nil, false_imp_iff, implies_true, and_true]
    refine ⟨legible_contents ?_, legible_instruction _ systemInstruction⟩
    simp only [List.forall_mem_append, List.forall_mem_map, List.forall_mem_singleton]
    exact ⟨fun file _ => legible_filePart _ file, legible_textPart _ request.prompt⟩
  | cached cacheName =>
    apply Value.Legible.object
    simp only [List.forall_mem_cons, List.not_mem_nil, false_imp_iff, implies_true, and_true]
    refine ⟨legible_contents ?_, .string _ cacheName⟩
    simpa using legible_textPart _ request.prompt

theorem legible_ofCacheRequest (request : CacheRequest) :
    (ofCacheRequest request).Legible nestingLimit := by
  have contents : ∀ files : List UploadedFile,
      (Value.array [userTurn (files.map filePart)]).Legible (nestingLimit - 1) := by
    intro files
    apply legible_contents
    simpa using fun file _ => legible_filePart _ file
  apply Value.Legible.object
  intro member among
  simp only [List.cons_append, List.nil_append, List.mem_cons, List.mem_append, List.not_mem_nil,
    or_false] at among
  rcases among with rfl | rfl | rfl | among | rfl
  · exact .string _ request.model
  · exact .string _ request.displayName
  · exact legible_instruction _ request.systemInstruction
  · split at among
    · cases among
    · rw [List.mem_singleton.mp among]
      exact contents _
  · exact .string _ _

/-! ## What is told -/

theorem mem_keys_of_member? {members : Members} {key : String}
    (found : (Value.object members).gathered.member? key ≠ none) : key ∈ members.map Prod.fst := by
  rw [Value.gathered_object, Value.member?, ← Option.isSome_iff_ne_none,
    Members.lookup_gather_isSome] at found
  simpa using found

/-- The keys of a body for the model are different. -/
theorem member?_ofModelRequest (request : ModelRequest) (key : String) :
    (ofModelRequest request).gathered.member? key =
      ((ofModelRequest request).member? key).map Value.gathered := by
  have inline : ["contents", "systemInstruction"].Nodup := by decide
  have cached : ["contents", "cachedContent"].Nodup := by decide
  unfold ofModelRequest
  cases request.config with
  | inline => exact Value.member?_gathered (by exact inline) key
  | cached => exact Value.member?_gathered (by exact cached) key

theorem tells_ofModelRequest (request : ModelRequest) :
    TellsRequest request (ofModelRequest request).gathered := by
  have told := member?_ofModelRequest request
  obtain ⟨model, prompt, config⟩ := request
  have turn : ∀ files : List UploadedFile,
      (Value.array [userTurn (files.map filePart ++ [textPart prompt])]).gathered =
        .array [turnRead ((files.map reference).map fileRead ++ [textRead prompt])] := by
    intro files
    simp [map_gathered_filePart files]
  refine ⟨?_, ?_, ?_, ?_⟩
  · rw [told]
    cases config with
    | inline _ files => exact congrArg some (turn files)
    | cached => exact congrArg some (turn [])
  · rw [told]
    cases config with
    | inline systemInstruction => exact congrArg some (gathered_instruction systemInstruction)
    | cached => rfl
  · rw [told]
    cases config with
    | inline => rfl
    | cached cacheName => exact congrArg some (Value.gathered_string cacheName)
  · intro key found
    cases config with
    | inline =>
      have among := mem_keys_of_member? found
      simp only [List.map_cons, List.map_nil, List.mem_cons] at among ⊢
      tauto
    | cached =>
      have among := mem_keys_of_member? found
      simp only [List.map_cons, List.map_nil, List.mem_cons] at among ⊢
      tauto

/-- The keys of a body for a cache are different, whether there are files or not. -/
theorem member?_ofCacheRequest (request : CacheRequest) (key : String) :
    (ofCacheRequest request).gathered.member? key =
      ((ofCacheRequest request).member? key).map Value.gathered := by
  have without : ["model", "displayName", "systemInstruction", "ttl"].Nodup := by decide
  have within : ["model", "displayName", "systemInstruction", "contents", "ttl"].Nodup := by
    decide
  unfold ofCacheRequest
  cases request.files with
  | nil => exact Value.member?_gathered (by exact without) key
  | cons => exact Value.member?_gathered (by exact within) key

theorem tells_ofCacheRequest (request : CacheRequest) :
    TellsCacheRequest request (ofCacheRequest request).gathered := by
  have told := member?_ofCacheRequest request
  obtain ⟨model, displayName, systemInstruction, files, lifetime⟩ := request
  refine ⟨?_, ?_, ?_, ?_, ?_, ?_⟩
  · rw [told]
    exact congrArg some (Value.gathered_string model)
  · rw [told]
    exact congrArg some (Value.gathered_string displayName)
  · rw [told]
    exact congrArg some (gathered_instruction systemInstruction)
  · rw [told]
    cases files with
    | nil => rfl
    | cons file others =>
      have turn : (Value.array [userTurn ((file :: others).map filePart)]).gathered =
          .array [turnRead (((file :: others).map reference).map fileRead)] := by
        rw [Value.gathered_array, List.map_singleton, gathered_userTurn, map_gathered_filePart]
      exact congrArg some turn
  · rw [told]
    cases files with
    | nil => exact congrArg some (Value.gathered_string _)
    | cons => exact congrArg some (Value.gathered_string _)
  · intro key found
    have among := mem_keys_of_member? found
    simp only [List.map_append, List.map_cons, List.map_nil, List.cons_append, List.nil_append,
      List.mem_cons, List.mem_append] at among ⊢
    cases files <;> simp at among ⊢ <;> tauto

/-! ## What is told determines what is written -/

theorem fileRead_injective : Function.Injective fileRead := by
  intro reference other same
  have uri : reference.2 = other.2 ∧ reference.1 = other.1 := by simpa [fileRead] using same
  exact Prod.ext uri.2 uri.1

theorem textRead_injective : Function.Injective textRead := by
  intro text other same
  simpa [textRead] using same

theorem instructionRead_injective : Function.Injective instructionRead := by
  intro text other same
  simpa [instructionRead, textRead] using same

theorem turnRead_injective : Function.Injective turnRead := by
  intro parts others same
  simpa [turnRead] using same

/-- A number of seconds, as it is told. -/
theorem seconds_injective {n m : Nat} (same : toString n ++ "s" = toString m ++ "s") : n = m := by
  have texts : n.repr = m.repr := by simpa using same
  have digits : Nat.toDigits 10 n = Nat.toDigits 10 m := by
    rw [← Nat.toList_repr, texts, Nat.toList_repr]
  rw [← Nat.ofDigitChars_ten_toDigits (n := n), digits, Nat.ofDigitChars_ten_toDigits]

/-- Sources tell the same if the parts of a request that come from them do. -/
theorem SameSource.of_parts {source other : ContextSource}
    (instruction : source.instruction? = other.instruction?)
    (cache : source.cacheName? = other.cacheName?)
    (files : source.files.map reference = other.files.map reference) : SameSource source other := by
  cases source with
  | inline systemInstruction files =>
    cases other with
    | inline systemInstruction' files' =>
      cases Option.some.inj instruction
      exact .inline systemInstruction files
    | cached => cases instruction
  | cached cacheName =>
    cases other with
    | inline => cases instruction
    | cached cacheName' =>
      cases Option.some.inj cache
      exact .cached cacheName

/-- Requests that are told by one value agree in all that is told. -/
theorem TellsRequest.agree {request other : ModelRequest} {value : Value}
    (tells : TellsRequest request value) (tells' : TellsRequest other value) :
    request.prompt = other.prompt ∧ SameSource request.config other.config := by
  have turn := turnRead_injective <| List.singleton_injective <| Value.array.inj <|
    Option.some.inj (tells.turn.symm.trans tells'.turn)
  obtain ⟨files, prompt⟩ := List.append_inj' turn rfl
  refine ⟨textRead_injective (List.singleton_injective prompt), .of_parts ?_ ?_ ?_⟩
  · exact Option.map_injective instructionRead_injective
      (tells.instruction.symm.trans tells'.instruction)
  · exact Option.map_injective (fun _ _ => Value.string.inj) (tells.cache.symm.trans tells'.cache)
  · exact List.map_injective_iff.mpr fileRead_injective files

/-- What is written for the model is what is told. -/
theorem ofModelRequest_eq {request other : ModelRequest} (prompt : request.prompt = other.prompt)
    (same : SameSource request.config other.config) :
    ofModelRequest request = ofModelRequest other := by
  obtain ⟨model, _, config⟩ := request
  obtain ⟨model', _, config'⟩ := other
  cases prompt
  cases same with
  | inline systemInstruction files => simp [ofModelRequest, map_filePart files]
  | cached cacheName => rfl

/-- Two requests for caches agree in all that is told. -/
structure SameCacheRequest (request other : CacheRequest) : Prop where
  model : request.model = other.model
  displayName : request.displayName = other.displayName
  instruction : request.systemInstruction = other.systemInstruction
  files : request.files.map reference = other.files.map reference
  seconds : request.lifetime / 1000 = other.lifetime / 1000

theorem TellsCacheRequest.agree {request other : CacheRequest} {value : Value}
    (tells : TellsCacheRequest request value) (tells' : TellsCacheRequest other value) :
    SameCacheRequest request other where
  model := Value.string.inj (Option.some.inj (tells.model.symm.trans tells'.model))
  displayName :=
    Value.string.inj (Option.some.inj (tells.displayName.symm.trans tells'.displayName))
  instruction :=
    instructionRead_injective (Option.some.inj (tells.instruction.symm.trans tells'.instruction))
  files := by
    have contents := tells.contents.symm.trans tells'.contents
    -- Contents are left out exactly if there are no files, so that both requests have some or none.
    by_cases none : request.files = []
    · by_cases none' : other.files = []
      · rw [none, none']
      · simp [none, none'] at contents
    · by_cases none' : other.files = []
      · simp [none, none'] at contents
      · rw [if_neg none, if_neg none'] at contents
        have turn := turnRead_injective <| List.singleton_injective <| Value.array.inj <|
          Option.some.inj contents
        exact List.map_injective_iff.mpr fileRead_injective turn
  seconds := by
    have lifetime := tells.lifetime.symm.trans tells'.lifetime
    exact seconds_injective (Value.string.inj (Option.some.inj lifetime))

theorem ofCacheRequest_eq {request other : CacheRequest} (same : SameCacheRequest request other) :
    ofCacheRequest request = ofCacheRequest other := by
  obtain ⟨_, _, _, files, lifetime⟩ := request
  obtain ⟨_, _, _, files', lifetime'⟩ := other
  obtain ⟨rfl, rfl, rfl, told, seconds⟩ := same
  dsimp only at told seconds
  have parts := map_filePart told
  cases files with
  | nil =>
    cases files' with
    | nil => simp [ofCacheRequest, seconds]
    | cons => cases told
  | cons =>
    cases files' with
    | nil => cases told
    | cons => simp only [ofCacheRequest, seconds, parts]

end Body

/-! ## What is posted -/

section

open Body

variable [Library] {α : Type} {client : Client} {session : Session}

/-- For a call in a session, a client posts a text: of itself it sends one request, with this
text. -/
def Client.PostsFor (client : Client) (session : Session) (call : Call) (text : String) : Prop :=
  ∃ request,
    ((client.perform call).run.run session).2.sent =
      session.sent ++ request :: session.further request ∧
    request.method = .post ∧ Utf8.decode? request.body = some text

/-- What is sent for a call is nothing, or one request of the client with this body. -/
def Client.SendsBody (client : Client) (call : Call) (body : Value) : Prop :=
  ∀ session : Session, ((client.perform call).run.run session).2.sent = session.sent ∨
    ∃ request, request.Posts (Utf8.encode body.write) ∧
      ((client.perform call).run.run session).2.sent =
        session.sent ++ request :: session.further request

theorem Client.sent_generate (client : Client) (request : ModelRequest) (session : Session) :
    ((client.perform (.generate request)).run.run session).2.sent =
      ((client.post (pathToGenerate request) (ofModelRequest request)
        (decodeText Value.parse)).run.run session).2.sent := by
  rw [perform, generate, Talk.run_bind]
  rcases (client.post _ _ _).run.run session with ⟨- | raw, next⟩ <;> rfl

theorem Client.generate_sendsBody (client : Client) (request : ModelRequest) :
    client.SendsBody (.generate request) (ofModelRequest request) := by
  intro session
  rw [client.sent_generate]
  exact client.sent_post _ _ _ session

theorem Client.createCache_sendsBody (client : Client) (request : CacheRequest) :
    client.SendsBody (.createCache request) (ofCacheRequest request) :=
  client.sent_post _ _ _

/-- What a client posts for a call is the text of the value that it posts. -/
theorem Client.PostsFor.eq_write {call : Call} {body : Value} {text : String}
    (posts : client.PostsFor session call text) (sends : client.SendsBody call body) :
    text = body.write := by
  obtain ⟨request, sent, -, decoded⟩ := posts
  rcases sends session with none | ⟨request', posts', sent'⟩
  · exact nomatch List.self_eq_append_right.mp (none.symm.trans sent)
  · obtain ⟨rfl, -⟩ := List.cons.inj (List.append_cancel_left (sent.symm.trans sent'))
    rw [posts'.body, Utf8.decode?_encode] at decoded
    exact (Option.some.inj decoded).symm

/-- A value whose request can be built is posted. -/
theorem Client.Usable.sent_post_ne (usable : client.Usable)
    (connected : session.network ≠ .unreachable) {path : String} {body : Value}
    (short : (client.posting path body).IsShort) (decode : Bytes → Except Unusable α) :
    ((client.post path body decode).run.run session).2.sent ≠ session.sent := by
  obtain ⟨url, reaches⟩ := usable.reaches path
  have built := reaches.build_posting (short url reaches.read) body
  rw [client.sent_post_eq, (session.report _).sent_submit_of_build built connected]
  simp [Session.report]

theorem Client.SendsBody.postsFor {call : Call} {body : Value} (sends : client.SendsBody call body)
    (some : ((client.perform call).run.run session).2.sent ≠ session.sent) :
    client.PostsFor session call body.write := by
  obtain ⟨request, posts, sent⟩ := (sends session).resolve_left some
  exact ⟨request, sent, posts.method, by rw [posts.body, Utf8.decode?_encode]⟩

theorem Client.Usable.posts_generate (usable : client.Usable)
    (connected : session.network ≠ .unreachable) {request : ModelRequest}
    (fits : client.Fits (.generate request)) :
    client.PostsFor session (.generate request) (ofModelRequest request).write := by
  refine (client.generate_sendsBody request).postsFor ?_
  rw [client.sent_generate]
  exact usable.sent_post_ne connected fits _

theorem Client.Usable.posts_createCache (usable : client.Usable)
    (connected : session.network ≠ .unreachable) {request : CacheRequest}
    (fits : client.Fits (.createCache request)) :
    client.PostsFor session (.createCache request) (ofCacheRequest request).write :=
  (client.createCache_sendsBody request).postsFor (usable.sent_post_ne connected fits _)

/-- What is posted tells the request: read back, it has one turn of the user, with the files in
order and the prompt behind them, and either the instruction or the cache. Two requests are posted
as the same text exactly if they agree in the prompt and in all that is told of the context. A
request for a cache is posted likewise, and its contents are left out exactly if there are no
files. -/
theorem Client.posts_faithful :
    (∀ (client : Client) (session : Session),
      client.Usable → session.network ≠ .unreachable →
      (∀ request, client.Fits (.generate request) →
        ∃ text, client.PostsFor session (.generate request) text) ∧
      ∀ request, client.Fits (.createCache request) →
        ∃ text, client.PostsFor session (.createCache request) text) ∧
    (∀ (client : Client) (session : Session) (request : ModelRequest) (text : String),
      client.PostsFor session (.generate request) text →
      ∃ value, Value.parse text = .ok value ∧ TellsRequest request value) ∧
    (∀ (client client' : Client) (session session' : Session) (request other : ModelRequest)
      (text text' : String), client.PostsFor session (.generate request) text →
      client'.PostsFor session' (.generate other) text' →
      (text = text' ↔ request.prompt = other.prompt ∧ SameSource request.config other.config)) ∧
    (∀ (client : Client) (session : Session) (request : CacheRequest) (text : String),
      client.PostsFor session (.createCache request) text →
      ∃ value, Value.parse text = .ok value ∧ TellsCacheRequest request value) ∧
    ∀ (client client' : Client) (session session' : Session) (request other : CacheRequest)
      (text text' : String), client.PostsFor session (.createCache request) text →
      client'.PostsFor session' (.createCache other) text' →
      (text = text' ↔ SameCacheRequest request other) := by
  refine ⟨?posted, ?told, ?determined, ?toldCache, ?determinedCache⟩
  case posted =>
    intro client session usable connected
    exact ⟨fun request fits => ⟨_, usable.posts_generate connected fits⟩,
      fun request fits => ⟨_, usable.posts_createCache connected fits⟩⟩
  case told =>
    intro client session request text posts
    rw [posts.eq_write (client.generate_sendsBody request)]
    exact ⟨_, (legible_ofModelRequest request).parse_write, tells_ofModelRequest request⟩
  case determined =>
    intro client client' session session' request other text text' posts posts'
    rw [posts.eq_write (client.generate_sendsBody request),
      posts'.eq_write (client'.generate_sendsBody other)]
    constructor
    · intro same
      have tells := tells_ofModelRequest request
      rw [(legible_ofModelRequest request).gathered_eq (legible_ofModelRequest other) same] at tells
      exact tells.agree (tells_ofModelRequest other)
    · intro same
      rw [ofModelRequest_eq same.1 same.2]
  case toldCache =>
    intro client session request text posts
    rw [posts.eq_write (client.createCache_sendsBody request)]
    exact ⟨_, (legible_ofCacheRequest request).parse_write, tells_ofCacheRequest request⟩
  case determinedCache =>
    intro client client' session session' request other text text' posts posts'
    rw [posts.eq_write (client.createCache_sendsBody request),
      posts'.eq_write (client'.createCache_sendsBody other)]
    constructor
    · intro same
      have tells := tells_ofCacheRequest request
      rw [(legible_ofCacheRequest request).gathered_eq (legible_ofCacheRequest other) same] at tells
      exact tells.agree (tells_ofCacheRequest other)
    · intro same
      rw [ofCacheRequest_eq same]

end

/-! ## A prompt that looks like something else -/

open Body

/-- A client of a service on this machine. -/
def postingClient : Client := ⟨"key", "http://localhost"⟩

/-- A request whose prompt looks like the end of the text in which it stands. -/
def quotingRequest : ModelRequest where
  model := "m"
  prompt := "\"\x7d]\x7d],\"cachedContent\":\"c\"\x7d"
  config := .inline "\n" [⟨"files/1", none, "u", none⟩, ⟨"files/2", none, "u", some "a/b"⟩]

/-- Whatever the prompt looks like, it is told as it is. -/
theorem Client.posts_quotingRequest :
    ∃ text value, postingClient.PostsFor (.start (.scripted [])) (.generate quotingRequest) text ∧
      Value.parse text = .ok value ∧ TellsRequest quotingRequest value := by
  have usable : postingClient.Usable := {
    key := by decide
    base := ⟨⟨"http".toList, some "localhost".toList, ['/'], none, none⟩, by decide +kernel,
      by decide, by decide, by decide⟩ }
  have connected : (Session.start (.scripted [])).network ≠ .unreachable := by
    intro same
    cases same
  have read : Url.read (postingClient.address (Client.pathToGenerate quotingRequest)) =
      .ok ⟨"http".toList, some "localhost".toList, "/v1beta/models/m:generateContent".toList, none,
        none⟩ := by
    decide +kernel
  have fits : postingClient.Fits (.generate quotingRequest) := .of_read read (by decide +kernel)
  obtain ⟨text, posts⟩ :=
    (Client.posts_faithful.1 postingClient _ usable connected).1 quotingRequest fits
  obtain ⟨value, read, tells⟩ := Client.posts_faithful.2.1 postingClient _ quotingRequest text posts
  exact ⟨text, value, posts, read, tells⟩

end Http

end BattleAdvisor
