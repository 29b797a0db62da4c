import BattleAdvisor.Proofs.Http.Client

/-!
# What a client sends

Whatever the network does, a client sends nothing but the requests that it drafts, and those to
which responses lead from there (`Session.further`). `Talk.SendsOnly` says of a talk that all
requests that it sends are of a kind. This is closed under sequencing, so that it is shown draft by
draft.

Main results: `Client.perform_sendsOnly`, every request of every call carries the key of the client;
and `Client.sent_post`, a value that is posted is the body of the one request that is drafted.
-/

namespace BattleAdvisor.Http

open Json (Value RecordFormat)

/-! ## Kinds of requests -/

/-- A request is its draft at an address. -/
structure Draft.Becomes (draft : Draft) (request : Request) : Prop where
  method : request.method = draft.method
  headers : request.headers = draft.headers
  body : request.body = draft.body

/-- The name of the header for a key. -/
def keyName : String := "x-goog-api-key"

/-- A request carries a key: it has one header for keys, whose value is this key. -/
def Request.Carries (key : String) (request : Request) : Prop :=
  request.headers.filter (·.1 = keyName) = [(keyName, key)]

/-- A request posts a body. -/
structure Request.Posts (body : Bytes) (request : Request) : Prop where
  method : request.method = .post
  body : request.body = body

theorem Client.carries_of_becomes (client : Client) {draft : Draft}
    {others : List (String × String)} (headers : draft.headers = client.keyHeader :: others)
    (plain : ∀ header ∈ others, header.1 ≠ keyName) {request : Request}
    (becomes : draft.Becomes request) : request.Carries client.key := by
  have none : others.filter (·.1 = keyName) = [] := by
    simpa [List.filter_eq_nil_iff] using plain
  rw [Request.Carries, becomes.headers, headers, keyHeader, ← keyName,
    List.filter_cons_of_pos (by simp), none]

namespace Talk

variable {α β : Type} {kind : Request → Prop}

/-- Whatever the network does, all that a talk sends is of a kind. -/
def SendsOnly (kind : Request → Prop) (talk : Talk α) : Prop :=
  ∀ session : Session, ∃ requests,
    (talk.run.run session).2.sent = session.sent ++ requests ∧ ∀ request ∈ requests, kind request

theorem SendsOnly.of_silent {talk : Talk α}
    (silent : ∀ session, (talk.run.run session).2.sent = session.sent) : talk.SendsOnly kind := by
  intro session
  exact ⟨[], by simp [silent], by simp⟩

theorem sendsOnly_pure (a : α) : (pure a : Talk α).SendsOnly kind :=
  .of_silent fun _ => rfl

theorem sendsOnly_throw (error : ServiceError) : (throw error : Talk α).SendsOnly kind :=
  .of_silent fun _ => rfl

theorem sendsOnly_report (message : String) : (report message).SendsOnly kind :=
  .of_silent fun _ => rfl

theorem sendsOnly_get : (MonadState.get : Talk Session).SendsOnly kind :=
  .of_silent fun _ => rfl

theorem sendsOnly_read (decode : Bytes → Except Unusable α) (response : Response) :
    (read decode response).SendsOnly kind :=
  .of_silent fun _ => rfl

theorem SendsOnly.bind {x : Talk α} {f : α → Talk β} (h : x.SendsOnly kind)
    (h' : ∀ a, (f a).SendsOnly kind) : (x >>= f).SendsOnly kind := by
  intro session
  obtain ⟨before, sent, first⟩ := h session
  rw [run_bind]
  generalize x.run.run session = run at sent ⊢
  obtain ⟨result, next⟩ := run
  cases result with
  | error error => exact ⟨before, sent, first⟩
  | ok a =>
    obtain ⟨after, sent', second⟩ := h' a next
    dsimp only at sent ⊢
    refine ⟨before ++ after, by rw [sent', sent, List.append_assoc], ?_⟩
    intro request among
    rcases List.mem_append.mp among with among | among
    · exact first request among
    · exact second request among

/-- What is read behind a request changes nothing of what was sent. -/
theorem sent_bind_read (talk : Talk Response) (decode : Bytes → Except Unusable α)
    (session : Session) :
    ((talk >>= read decode).run.run session).2.sent = (talk.run.run session).2.sent := by
  rw [run_bind]
  rcases talk.run.run session with ⟨- | response, next⟩ <;> rfl

end Talk

variable [Library]

/-! ## Building and sending -/

theorem Draft.becomes_of_build {draft : Draft} {request : Request}
    (built : draft.build = .ok request) : draft.Becomes request := by
  unfold build at built
  split at built
  · cases built
  · split at built
    · cases built
    · split at built
      · cases built
      · dsimp only at built
        split at built
        · cases built
        · split at built
          · cases built
            exact ⟨rfl, rfl, rfl⟩
          · cases built

/-- The requests to which responses to a request lead. -/
def Session.further (session : Session) (request : Request) : List Request :=
  match session.network with
  | .unreachable => []
  | .scripted reactions => (hear [] request reactions).2.1

/-- Submitting a draft sends nothing, or the request that is built from it and those to which it
leads. -/
theorem Session.sent_submit (session : Session) (draft : Draft) :
    (session.submit draft).2.sent = session.sent ∨
    ∃ request, draft.Becomes request ∧
      (session.submit draft).2.sent = session.sent ++ request :: session.further request := by
  unfold submit
  cases built : draft.build with
  | error fault => exact .inl rfl
  | ok request =>
    unfold send further
    dsimp only
    cases session.network with
    | unreachable => exact .inl rfl
    | scripted reactions => exact .inr ⟨request, Draft.becomes_of_build built, rfl⟩

/-- A request that can be built goes out, unless the network leads nowhere. -/
theorem Session.sent_submit_of_build (session : Session) {draft : Draft} {request : Request}
    (built : draft.build = .ok request) (connected : session.network ≠ .unreachable) :
    (session.submit draft).2.sent = session.sent ++ request :: session.further request := by
  unfold submit send further
  rw [built]
  dsimp only
  cases network : session.network with
  | unreachable => exact absurd network connected
  | scripted reactions => rfl

/-- The header for keys is the same in all requests to which a request leads. -/
theorem Session.filter_hear [LawfulLibrary] {name : String} (stays : name ∉ passingHeaders)
    (earlier : List Request) (request : Request) (reactions : List Reaction) :
    ∀ next ∈ (hear earlier request reactions).2.1,
      next.headers.filter (·.1 = name) = request.headers.filter (·.1 = name) := by
  induction reactions generalizing earlier request with
  | nil => exact List.forall_mem_nil _
  | cons reaction rest ih =>
    cases reaction with
    | close => exact List.forall_mem_nil _
    | respond response =>
      rw [hear]
      cases onward : Library.onward earlier request response with
      | take | fail => exact List.forall_mem_nil _
      | wait => exact ih earlier request
      | follow next =>
        have first := LawfulLibrary.onward_keeps onward name stays
        exact List.forall_mem_cons.mpr
          ⟨first, fun later among => (ih _ next later among).trans first⟩

theorem Talk.run_exchange (draft : Draft) (session : Session) :
    ((exchange draft).run.run session).2 = (session.submit draft).2 := by
  unfold exchange ExceptT.mk ExceptT.run StateT.run
  dsimp only
  split
  next submitted => rw [submitted]
  next submitted =>
    rw [submitted]
    split <;> rfl

/-! ## What clients send -/

/-- All requests to which a request leads carry the key that it carries. -/
theorem Session.carries_further [LawfulLibrary] (session : Session) {key : String}
    {request : Request} (carries : request.Carries key) :
    ∀ next ∈ session.further request, next.Carries key := by
  intro next among
  unfold further at among
  cases network : session.network with
  | unreachable => simp [network] at among
  | scripted reactions =>
    rw [network] at among
    exact (filter_hear (by decide) [] request reactions next among).trans carries

namespace Client

variable {α : Type} (client : Client)

theorem sent_post_eq (path : String) (body : Value) (decode : Bytes → Except Unusable α)
    (session : Session) :
    ((client.post path body decode).run.run session).2.sent =
      ((session.report s!"POST {path}").submit (client.posting path body)).2.sent := by
  have reported : (Talk.report s!"POST {path}").run.run session =
    (.ok (), session.report s!"POST {path}") := rfl
  rw [post, Talk.run_bind, reported]
  dsimp only
  rw [Talk.sent_bind_read, Talk.run_exchange]

/-- A value that is posted is the body of the request that is drafted. -/
theorem sent_post (path : String) (body : Value) (decode : Bytes → Except Unusable α)
    (session : Session) :
    ((client.post path body decode).run.run session).2.sent = session.sent ∨
    ∃ request, request.Posts (Utf8.encode body.write) ∧
      ((client.post path body decode).run.run session).2.sent =
        session.sent ++ request :: session.further request := by
  rw [sent_post_eq]
  rcases (session.report s!"POST {path}").sent_submit (client.posting path body) with
    none | ⟨request, becomes, sent⟩
  · exact .inl none
  · exact .inr ⟨request, ⟨becomes.method, becomes.body⟩, sent⟩

variable [LawfulLibrary]

/-- If the draft has the key in its first header and in no other, all that is sent carries it. -/
theorem exchange_sendsOnly {draft : Draft} {others : List (String × String)}
    (headers : draft.headers = client.keyHeader :: others)
    (plain : ∀ header ∈ others, header.1 ≠ keyName) :
    (Talk.exchange draft).SendsOnly (·.Carries client.key) := by
  intro session
  rw [Talk.run_exchange]
  rcases session.sent_submit draft with same | ⟨request, becomes, sent⟩
  · exact ⟨[], by simp [same], by simp⟩
  · have carries := client.carries_of_becomes headers plain becomes
    exact ⟨_, sent, List.forall_mem_cons.mpr ⟨carries, session.carries_further carries⟩⟩

theorem get_sendsOnly (path : String) (query : List (String × String))
    (decode : Bytes → Except Unusable α) :
    (client.get path query decode).SendsOnly (·.Carries client.key) :=
  (Talk.sendsOnly_report _).bind fun _ =>
    (client.exchange_sendsOnly rfl (by simp)).bind (Talk.sendsOnly_read decode)

theorem post_sendsOnly (path : String) (body : Value) (decode : Bytes → Except Unusable α) :
    (client.post path body decode).SendsOnly (·.Carries client.key) :=
  (Talk.sendsOnly_report _).bind fun _ =>
    (client.exchange_sendsOnly rfl (by simp [valueHeader, keyName])).bind
      (Talk.sendsOnly_read decode)

theorem listFrom_sendsOnly (path : String) (format : RecordFormat (Body.Page α)) (pages : Nat)
    (token? : Option String) :
    (client.listFrom path format pages token?).SendsOnly (·.Carries client.key) := by
  induction pages generalizing token? with
  | zero => exact Talk.sendsOnly_pure []
  | succ pages ih =>
    rw [listFrom]
    refine (client.get_sendsOnly path _ _).bind fun page => ?_
    cases page.next? with
    | none => exact Talk.sendsOnly_pure page.items
    | some token => exact (ih (some token)).bind fun others => Talk.sendsOnly_pure _

theorem list_sendsOnly (path : String) (format : RecordFormat (Body.Page α)) :
    (client.list path format).SendsOnly (·.Carries client.key) :=
  Talk.sendsOnly_get.bind fun _ => client.listFrom_sendsOnly path format _ none

theorem upload_sendsOnly (upload : Upload) :
    (client.upload upload).SendsOnly (·.Carries client.key) := by
  refine (Talk.sendsOnly_report _).bind fun _ =>
    (client.exchange_sendsOnly rfl (by simp [valueHeader, keyName])).bind fun announced => ?_
  cases announced.header? "x-goog-upload-url" with
  | none => exact Talk.sendsOnly_throw _
  | some address =>
    exact (client.exchange_sendsOnly rfl (by simp [keyName])).bind
      (Talk.sendsOnly_read (Library.decode Body.uploaded))

/-- Every request of every call carries the key. -/
theorem perform_sendsOnly (call : Call) :
    (client.perform call).SendsOnly (·.Carries client.key) := by
  cases call with
  | listFiles => exact client.list_sendsOnly "files" Body.filePage
  | uploadFile upload => exact client.upload_sendsOnly upload
  | listCaches => exact client.list_sendsOnly "cachedContents" Body.cachePage
  | createCache request => exact client.post_sendsOnly _ _ _
  | getModel model => exact client.get_sendsOnly _ _ _
  | generate request => exact (client.post_sendsOnly _ _ _).bind fun raw => Talk.sendsOnly_pure _

omit [LawfulLibrary] in
/-- An answer sends what the call sends. -/
theorem sent_answer (call : Call) (session : Session) :
    (client.service.answer call session).2.sent =
      ((client.perform call).run.run session).2.sent := by
  rcases run : (client.perform call).run.run session with ⟨result, next⟩
  simp only [service, run]

end Client

end BattleAdvisor.Http
