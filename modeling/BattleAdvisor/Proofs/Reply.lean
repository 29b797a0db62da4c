import BattleAdvisor.Proofs.Json.Gathered
import BattleAdvisor.Proofs.Network

/-!
# What a reply says

The model may cut what it says into parts, put other parts between them, and offer further
candidates. `Body.Speaks` relates a reply to the texts that it says one after another; it mentions
nothing of how they are taken out.

**Theorem (`advise_on_reply`).** If a run over the network gets as far as the request to generate
and hears a response that reports success, the advice is what the reply says, joined; if that is
nothing, or the response spells no such reply, no advice is generated.
-/

namespace BattleAdvisor.Http

open Json (Value Members ReadError nestingLimit)

namespace Body

/-! ## Replies and their texts -/

/-- Parts say these texts, in order. A part that is no object, or has no string as its text, says
nothing. -/
inductive PartsSpeak : List Value → List String → Prop
  | nil : PartsSpeak [] []
  | text {members : Members} {text : String} {parts : List Value} {texts : List String}
      (found : members.lookup "text" = some (.string text)) (rest : PartsSpeak parts texts) :
      PartsSpeak (.object members :: parts) (text :: texts)
  | other {part : Value} {parts : List Value} {texts : List String}
      (silent : ∀ members text, part = .object members →
        members.lookup "text" ≠ some (.string text))
      (rest : PartsSpeak parts texts) : PartsSpeak (part :: parts) texts

/-- A reply says these texts: they are in the parts of the content of its first candidate. -/
inductive Speaks : Value → List String → Prop
  | intro {members first content : Members} {others parts : List Value} {texts : List String}
      (candidates : members.lookup "candidates" = some (.array (.object first :: others)))
      (found : first.lookup "content" = some (.object content))
      (cut : content.lookup "parts" = some (.array parts)) (say : PartsSpeak parts texts) :
      Speaks (.object members) texts

theorem partText?_eq_some {part : Value} {text : String} :
    partText? part = some text ↔
      ∃ members, part = .object members ∧ members.lookup "text" = some (.string text) := by
  constructor
  · intro found
    obtain ⟨value, named, isText⟩ := Option.bind_eq_some_iff.mp found
    cases part with
    | object members =>
      cases value with
      | string s => exact ⟨members, rfl, Option.some.inj isText ▸ named⟩
      | null | bool | number | array | object => cases isText
    | null | bool | number | string | array => cases named
  · rintro ⟨members, rfl, found⟩
    rw [partText?, Value.member?, found]
    rfl

/-- Every list of parts says the texts of its parts. -/
theorem partsSpeak_iff {parts : List Value} {texts : List String} :
    PartsSpeak parts texts ↔ parts.filterMap partText? = texts := by
  constructor
  · intro say
    induction say with
    | nil => rfl
    | text found _ ih =>
      rw [List.filterMap_cons_some (partText?_eq_some.mpr ⟨_, rfl, found⟩), ih]
    | @other part _ _ silent _ ih =>
      have none : partText? part = none := by
        rw [Option.eq_none_iff_forall_ne_some]
        intro text found
        obtain ⟨members, same, named⟩ := partText?_eq_some.mp found
        exact silent members text same named
      rw [List.filterMap_cons_none none, ih]
  · intro same
    subst same
    induction parts with
    | nil => exact .nil
    | cons part parts ih =>
      cases found : partText? part with
      | none =>
        rw [List.filterMap_cons_none found]
        refine .other ?_ ih
        intro members text same named
        rw [partText?_eq_some.mpr ⟨members, same, named⟩] at found
        cases found
      | some text =>
        rw [List.filterMap_cons_some found]
        obtain ⟨members, rfl, named⟩ := partText?_eq_some.mp found
        exact .text named ih

theorem member?_eq_some {value found : Value} {key : String} :
    value.member? key = some found ↔
      ∃ members, value = .object members ∧ members.lookup key = some found := by
  cases value <;> simp [Value.member?]

theorem items?_eq_some {value : Value} {items : List Value} :
    value.items? = some items ↔ value = .array items := by
  cases value <;> simp [Value.items?]

/-- The parts of a reply are found on the way that `Speaks` describes. -/
theorem speaks_iff {reply : Value} {texts : List String} :
    Speaks reply texts ↔
      ∃ parts, replyParts? reply = some parts ∧ parts.filterMap partText? = texts := by
  constructor
  · intro speaks
    obtain ⟨candidates, found, cut, say⟩ := speaks
    refine ⟨_, ?_, partsSpeak_iff.mp say⟩
    simp [replyParts?, Value.member?, Value.items?, candidates, found, cut]
  · rintro ⟨parts, found, same⟩
    simp only [replyParts?, Option.bind_eq_bind, Option.bind_eq_some_iff, member?_eq_some,
      items?_eq_some, List.head?_eq_some_iff] at found
    obtain ⟨_, ⟨members, rfl, listed⟩, _, rfl, _, ⟨others, rfl⟩, _, ⟨first, rfl, content⟩, _,
      ⟨inner, rfl, cut⟩, rfl⟩ := found
    exact .intro listed content cut (partsSpeak_iff.mpr same)

theorem Speaks.replyText?_eq {reply : Value} {texts : List String} (speaks : Speaks reply texts) :
    replyText? reply = if String.join texts = "" then none else some (String.join texts) := by
  obtain ⟨parts, found, rfl⟩ := speaks_iff.mp speaks
  simp only [replyText?, found, Option.bind_eq_bind, Option.bind_some]

theorem replyText?_of_not_speaks {reply : Value} (silent : ¬ ∃ texts, Speaks reply texts) :
    replyText? reply = none := by
  rw [replyText?, Option.bind_eq_bind, Option.bind_eq_none_iff]
  intro parts found
  exact absurd ⟨_, speaks_iff.mpr ⟨parts, found, rfl⟩⟩ silent

end Body

/-! ## Hearing a response -/

/-- The draft of the request that has the model generate. -/
def Client.generation (client : Client) (request : ModelRequest) : Draft :=
  client.posting (pathToGenerate request) (Body.ofModelRequest request)

section

variable [Library] {α : Type} {client : Client} {session : Session} {response : Response}

/-- Reports change nothing of what is heard. -/
theorem Session.submit_report (session : Session) (message : String) (draft : Draft) :
    ((session.report message).submit draft).1 = (session.submit draft).1 := by
  unfold submit
  cases draft.build with
  | error fault => rfl
  | ok request =>
    unfold send report
    dsimp only
    cases session.network with
    | unreachable => rfl
    | scripted reactions => rfl

theorem Talk.result_exchange_read {draft : Draft}
    (heard : (session.submit draft).1 = .ok response) (decode : Bytes → Except Unusable α) :
    ((exchange draft >>= read decode).run.run session).1 = response.result decode := by
  obtain ⟨next, submitted⟩ : ∃ next, session.submit draft = (.ok response, next) :=
    ⟨_, Prod.ext heard rfl⟩
  have exchanged : (exchange draft).run.run session =
      (if response.isSuccess then .ok response
        else .error (.api response.status response.message), next) := by
    unfold exchange ExceptT.mk ExceptT.run StateT.run
    simp only [submitted]
    cases response.isSuccess <;> rfl
  rw [run_bind, exchanged]
  cases success : response.isSuccess with
  | false => rw [Response.result_of_not_isSuccess success, if_neg Bool.false_ne_true]
  | true =>
    rw [Response.result_of_isSuccess success, if_pos rfl]
    rfl

theorem Client.result_answer (client : Client) (call : Call) (session : Session) :
    (client.service.answer call session).1.result = ((client.perform call).run.run session).1 := by
  rcases run : (client.perform call).run.run session with ⟨result, next⟩
  simp only [Client.service, run]

theorem Client.result_generate {request : ModelRequest}
    (heard : (session.submit (client.generation request)).1 = .ok response) :
    ((client.perform (.generate request)).run.run session).1 =
      (response.result (decodeText Value.parse)).map fun raw => ⟨Body.replyText? raw, raw⟩ := by
  have posted : ((client.post (pathToGenerate request) (Body.ofModelRequest request)
      (decodeText Value.parse)).run.run session).1 = response.result (decodeText Value.parse) := by
    unfold post
    rw [Talk.run_bind]
    exact Talk.result_exchange_read ((Session.submit_report session _ _).trans heard) _
  rw [perform, generate, Talk.run_bind]
  generalize (client.post _ _ _).run.run session = run at posted ⊢
  obtain ⟨result, next⟩ := run
  cases result <;> (rw [← posted]; rfl)

end

/-! ## Advice from a reply -/

/-- The advice after an answer to the request to generate. -/
def adviceOf : Except ServiceError ModelReply → Except AdviceError String
  | .error error => .error (.generationFailed error.message)
  | .ok reply => Advisor.textOf reply

theorem result_generate {σ : Type} (advisor : Advisor σ) (request : ModelRequest)
    (world : World σ) :
    ((advisor.generate request).start world).1 =
      adviceOf (advisor.service.answer (.generate request) world.remote).1.result := by
  generalize answered : advisor.service.answer (.generate request) world.remote = answer
  obtain ⟨⟨result, log⟩, next⟩ := answer
  unfold Advisor.generate
  rw [Action.start_bind_ok (Action.start_report ..)]
  obtain ⟨last, asked, -⟩ := Action.start_callAs_of_served
    (fun error => .generationFailed error.message)
    { world with log := world.log ++ [⟨.info, "Generating content..."⟩] }
    (.cons answered (.nil next))
  rw [Action.start_bind, asked]
  cases result <;> rfl

section

variable [MediaTypes] [Library] {client : Client} {advisor : Advisor Session} {question : Question}
  {world ready : World Session} {request : ModelRequest} {response : Response}

/-- A run that gets as far as the request to generate comes to what is heard. -/
theorem advise_of_heard (uses : advisor.service = client.service)
    (prepared : (advisor.prepare question).start world = (.ok request, ready))
    (heard : (ready.remote.submit (client.generation request)).1 = .ok response) :
    ((advisor.advise question).start world).1 =
      adviceOf ((response.result (decodeText Value.parse)).map fun raw =>
        ⟨Body.replyText? raw, raw⟩) := by
  unfold Advisor.advise
  rw [Action.start_bind_ok prepared, result_generate, uses, Client.result_answer,
    Client.result_generate heard]

/-- **Advice from a reply.** Let a run over the network get as far as the request to generate, and
hear a response that reports success. If the response spells a reply that says some texts, however
these are cut, the advice is these texts joined, and none if they are empty. If it spells no such
reply, no advice is generated. -/
theorem advise_on_reply (uses : advisor.service = client.service)
    (prepared : (advisor.prepare question).start world = (.ok request, ready))
    (heard : (ready.remote.submit (client.generation request)).1 = .ok response)
    (success : response.isSuccess = true) :
    (∀ reply texts, response.read (decodeText Value.parse) = .ok reply → Body.Speaks reply texts →
      ((advisor.advise question).start world).1 =
        if String.join texts = "" then .error (.generationFailed "Model returned no text")
        else .ok (String.join texts)) ∧
    ((¬ ∃ reply texts,
        response.read (decodeText Value.parse) = .ok reply ∧ Body.Speaks reply texts) →
      ∃ reason, ((advisor.advise question).start world).1 =
        .error (.generationFailed reason)) := by
  rw [advise_of_heard uses prepared heard, Response.result_of_isSuccess success]
  constructor
  · intro reply texts read speaks
    simp only [read, mapError_ok, Except.map, adviceOf, Advisor.textOf, speaks.replyText?_eq]
    by_cases empty : String.join texts = ""
    · rw [if_pos empty, if_pos empty]
    · rw [if_neg empty, if_neg empty]
      exact if_neg empty
  · intro silent
    cases read : response.read (decodeText Value.parse) with
    | error fault => exact ⟨_, rfl⟩
    | ok reply =>
      have none := Body.replyText?_of_not_speaks fun ⟨texts, speaks⟩ =>
        silent ⟨reply, texts, read, speaks⟩
      simp only [mapError_ok, Except.map, adviceOf, Advisor.textOf, none]
      exact ⟨_, rfl⟩

end

/-! ## Replies on this machine -/

/-- What the network of a run on this machine sends: a model, and then a response. -/
def localScript (response : Response) : World Session :=
  .start (.start (.scripted [
    .respond (written (ModelCard.format.toValue localCard)), .respond response])) noFiles

theorem localScript_heard {response : Response} (success : response.isSuccess = true) :
    ∃ ready, ((localAdvisor.via localClient.service).prepare (localQuestion false)).start
        (localScript response) = (.ok localRequest, ready) ∧
      (ready.remote.submit (localClient.generation localRequest)).1 = .ok response := by
  obtain ⟨card, generating⟩ := fits_localClient
  have found : (localClient.perform (.getModel localAdvisor.preferences.model)).Comes _ _ _ :=
    usable_localClient.get_plays card (.told (readsAnswers.card (writes_written _)
      (ModelCard.tells_toValue localCard) fits_localCard)) (readsTexts_decode _) [.respond response]
  obtain ⟨log, next, found, network⟩ := found.answer (.start (.scripted _)) rfl
  have served : (localAdvisor.via localClient.service).service.Served (localScript response).remote
      [⟨.getModel localAdvisor.preferences.model, .ok localCard⟩] next :=
    .cons found (.nil next)
  obtain ⟨ready, run, -, last⟩ :=
    Advisor.prepare_of_course (localPrepare localClient.service) served
  refine ⟨ready, run, ?_⟩
  -- The first response is used up, and the next one answers the request to generate.
  obtain ⟨url, reaches⟩ := usable_localClient.reaches (Client.pathToGenerate localRequest)
  have built :=
    reaches.build_posting (generating url reaches.read) (Body.ofModelRequest localRequest)
  have final := Response.isFinal_of_isSuccess success
  rw [last, Session.submit, Client.generation, built]
  simp only [Session.send, network, Session.hear, LawfulLibrary.onward_final final]

/-- A reply that says something is lost if it is nested too deeply elsewhere. -/
theorem advise_on_deepReply :
    let response := written (deepReply 126)
    Body.Speaks (deepReply 126) ["go"] ∧ response.isSuccess = true ∧
    response.body = Utf8.encode (deepReply 126).write ∧
    ∃ ready, ((localAdvisor.via localClient.service).prepare (localQuestion false)).start
        (localScript response) = (.ok localRequest, ready) ∧
      (ready.remote.submit (localClient.generation localRequest)).1 = .ok response ∧
      (((localAdvisor.via localClient.service).advise (localQuestion false)).start
        (localScript response)).1 =
          .error (.generationFailed "HTTP error: error decoding response body") := by
  intro response
  have speaks : Body.Speaks (deepReply 126) ["go"] := .intro rfl rfl rfl (.text rfl .nil)
  have writes := writes_written (deepReply 126)
  obtain ⟨ready, prepared, heard⟩ := localScript_heard writes.success
  refine ⟨speaks, writes.success, writes.body, ready, prepared, heard, ?_⟩
  obtain ⟨error, lost⟩ := result_deepReply
  rw [advise_of_heard rfl prepared heard, lost]
  rfl

/-- A reply with a text that is cut, with other parts in between and another candidate. -/
def cutReply : Value :=
  .object [("candidates", .array [
    .object [("content", .object [("parts", .array [
      .object [("text", .string "g")], .null, .object [("text", .bool true)],
      .object [("text", .string "o")]])])],
    .string "another"])]

theorem legible_cutReply : cutReply.Legible nestingLimit := by
  have text := fun value (h : Value.Legible 121 value) => h.single "text"
  have parts : (Value.array [.object [("text", .string "g")], .null,
      .object [("text", .bool true)], .object [("text", .string "o")]]).Legible 123 := by
    apply Value.Legible.array
    simp only [List.forall_mem_cons, List.not_mem_nil, false_imp_iff, implies_true, and_true]
    exact ⟨text _ (.string _ _), .null _, text _ (.bool _ _), text _ (.string _ _)⟩
  apply Value.Legible.single
  apply Value.Legible.array
  simp only [List.forall_mem_cons, List.not_mem_nil, false_imp_iff, implies_true, and_true]
  exact ⟨(parts.single "parts").single "content", .string _ _⟩

theorem parse_cutReply : Value.parse cutReply.write = .ok cutReply := by
  have gathered : cutReply.gathered = cutReply := by
    simp [cutReply, Members.gather_single]
  rw [legible_cutReply.parse_write, gathered]

theorem advise_on_cutReply :
    ∃ ready, ((localAdvisor.via localClient.service).prepare (localQuestion false)).start
        (localScript (written cutReply)) = (.ok localRequest, ready) ∧
      (ready.remote.submit (localClient.generation localRequest)).1 = .ok (written cutReply) ∧
      (written cutReply).isSuccess = true ∧
      (((localAdvisor.via localClient.service).advise (localQuestion false)).start
        (localScript (written cutReply))).1 = .ok "go" := by
  have writes := writes_written cutReply
  obtain ⟨ready, prepared, heard⟩ := localScript_heard writes.success
  refine ⟨ready, prepared, heard, writes.success, ?_⟩
  have speaks : Body.Speaks cutReply ["g", "o"] := by
    refine .intro rfl rfl rfl (.text rfl (.other ?_ (.other ?_ (.text rfl .nil))))
    · intro members text same
      cases same
    · intro members text same
      cases same
      simp
  have read := (writes.spells parse_cutReply).read (readsTexts_decodeText Value.parse)
  exact ((advise_on_reply rfl prepared heard writes.success).1 cutReply ["g", "o"] read
    speaks).trans rfl

end BattleAdvisor.Http
