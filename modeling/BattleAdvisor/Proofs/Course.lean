import BattleAdvisor.Advice.Advisor

/-!
# What a run says to the service

Each part of a run has its *courses*: the exchanges that it may have with a service, together with
what comes of it. A course is for any service; `Service.Served` says that a service gives the
answers of some exchanges in turn. The two together are all that a run does, apart from its log:

* `obtainFile_course`, `obtainDirectory_course`, `obtainCache_course`, `advise_course`: a run takes
  one of its courses, and the service answers it.
* `obtainFile_of_course`, `obtainVisits_of_course`, `obtainCache_of_course`, `advise_of_course`: a
  run takes the course that the service answers.

Provision leaves the files as they are.
-/

namespace BattleAdvisor

theorem mapError_ok {ε ε' α : Type} (f : ε → ε') (a : α) :
    (Except.ok a).mapError f = .ok a := rfl

theorem eq_ok_of_toOption {ε α : Type} {result : Except ε α} {a : α}
    (same : result.toOption = some a) : result = .ok a := by
  cases result with
  | error => cases same
  | ok => exact congrArg Except.ok (Option.some.inj same)

/-! ## Exchanges with a service -/

section

variable {σ : Type} {service : Service σ}

/-- In the first state the service answers the exchanges in turn, which leads to the second. -/
inductive Service.Served (service : Service σ) : σ → List Exchange → σ → Prop
  | nil (state : σ) : service.Served state [] state
  | cons {state next last : σ} {call : Call} {outcome : Outcome call.Answer}
      {exchanges : List Exchange} (answered : service.answer call state = (outcome, next))
      (others : service.Served next exchanges last) :
      service.Served state (⟨call, outcome.result⟩ :: exchanges) last

theorem Service.Served.append {first second third : σ} {before after : List Exchange}
    (h : service.Served first before second) (h' : service.Served second after third) :
    service.Served first (before ++ after) third := by
  induction h with
  | nil => exact h'
  | cons answered _ ih => exact .cons answered (ih h')

theorem Service.Served.split {first third : σ} {before after : List Exchange}
    (h : service.Served first (before ++ after) third) :
    ∃ second, service.Served first before second ∧ service.Served second after third := by
  induction before generalizing first with
  | nil => exact ⟨first, .nil first, h⟩
  | cons exchange before ih =>
    cases h with
    | cons answered others =>
      obtain ⟨second, h, h'⟩ := ih others
      exact ⟨second, .cons answered h, h'⟩

/-- From a world to the next one the service answers the exchanges, which are recorded. -/
structure World.Goes (service : Service σ) (world : World σ) (exchanges : List Exchange)
    (next : World σ) : Prop where
  recorded : next.exchanges = world.exchanges ++ exchanges
  served : service.Served world.remote exchanges next.remote

theorem World.Goes.refl (world : World σ) : world.Goes service [] world :=
  ⟨by simp, .nil _⟩

theorem World.Goes.trans {first second third : World σ} {before after : List Exchange}
    (h : first.Goes service before second) (h' : second.Goes service after third) :
    first.Goes service (before ++ after) third :=
  ⟨by rw [h'.recorded, h.recorded, List.append_assoc], h.served.append h'.served⟩

/-- A call is one exchange and leaves the files as they are. -/
theorem Action.start_callAs_goes (wrap : ServiceError → AdviceError) (service : Service σ)
    (call : Call) (world : World σ) :
    ∃ result next, (callAs wrap service call).start world = (result.mapError wrap, next) ∧
      world.Goes service [⟨call, result⟩] next ∧ next.files = world.files :=
  ⟨_, _, rfl, ⟨rfl, .cons rfl (.nil _)⟩, rfl⟩

/-- A call goes on as the service answers it. -/
theorem Action.start_callAs_of_served (wrap : ServiceError → AdviceError) {call : Call}
    (world : World σ) {result : Except ServiceError call.Answer} {exchanges : List Exchange}
    {last : σ} (h : service.Served world.remote (⟨call, result⟩ :: exchanges) last) :
    ∃ next, (callAs wrap service call).start world = (result.mapError wrap, next) ∧
      world.Goes service [⟨call, result⟩] next ∧ next.files = world.files ∧
      service.Served next.remote exchanges last := by
  cases h with
  | cons answered others =>
    refine ⟨(world.call service call).2, ?_, ⟨?_, .cons answered ?_⟩, rfl, ?_⟩ <;>
      simp [start_callAs, World.call, answered, others, Service.Served.nil]

end

/-! ## Provision -/

namespace Provision

section

variable [MediaTypes]

/-- The courses of obtaining a file. -/
inductive FileCourse (files : FileSystem) (name : String) (path : Path) :
    List Exchange → Except AdviceError UploadedFile → Prop
  | unlisted (error : ServiceError) :
      FileCourse files name path [⟨.listFiles, .error error⟩] (.error (.remote error))
  | found {listing : List UploadedFile} {file : UploadedFile}
      (present : listing.find? (fun file => file.displayName? = some name) = some file) :
      FileCourse files name path [⟨.listFiles, .ok listing⟩] (.ok file)
  | unread {listing : List UploadedFile} {error : IoError}
      (absent : listing.find? (fun file => file.displayName? = some name) = none)
      (unread : files.read path = .error error) :
      FileCourse files name path [⟨.listFiles, .ok listing⟩] (.error (.io error))
  | refused {listing : List UploadedFile} {bytes : Bytes} (error : ServiceError)
      (absent : listing.find? (fun file => file.displayName? = some name) = none)
      (read : files.read path = .ok bytes) :
      FileCourse files name path
        [⟨.listFiles, .ok listing⟩, ⟨.uploadFile ⟨name, path.mediaType?, bytes⟩, .error error⟩]
        (.error (.remote error))
  | uploaded {listing : List UploadedFile} {bytes : Bytes} (file : UploadedFile)
      (absent : listing.find? (fun file => file.displayName? = some name) = none)
      (read : files.read path = .ok bytes) :
      FileCourse files name path
        [⟨.listFiles, .ok listing⟩, ⟨.uploadFile ⟨name, path.mediaType?, bytes⟩, .ok file⟩]
        (.ok file)

/-- The courses of obtaining what a walk meets. -/
inductive VisitsCourse (files : FileSystem) (name : Path → String) (accepts : Path → Bool) :
    List Visit → List Exchange → Except AdviceError (List UploadedFile) → Prop
  | done : VisitsCourse files name accepts [] [] (.ok [])
  | unwalkable (error : IoError) (rest : List Visit) :
      VisitsCourse files name accepts (.error error :: rest) [] (.error (.io error))
  | passed {path : Path} {rest : List Visit} {exchanges : List Exchange}
      {result : Except AdviceError (List UploadedFile)}
      (unwanted : (files.isFile path && accepts path) = false)
      (others : VisitsCourse files name accepts rest exchanges result) :
      VisitsCourse files name accepts (.ok path :: rest) exchanges result
  | stopped {path : Path} {rest : List Visit} {exchanges : List Exchange} {error : AdviceError}
      (wanted : (files.isFile path && accepts path) = true)
      (first : FileCourse files (name path) path exchanges (.error error)) :
      VisitsCourse files name accepts (.ok path :: rest) exchanges (.error error)
  | taken {path : Path} {rest : List Visit} {before after : List Exchange} {file : UploadedFile}
      {result : Except AdviceError (List UploadedFile)}
      (wanted : (files.isFile path && accepts path) = true)
      (first : FileCourse files (name path) path before (.ok file))
      (others : VisitsCourse files name accepts rest after result) :
      VisitsCourse files name accepts (.ok path :: rest) (before ++ after)
        (result.map (file :: ·))

variable {σ : Type} (service : Service σ)

theorem obtainFile_course (name : String) (path : Path) (world : World σ) :
    ∃ result next exchanges, (obtainFile service name path).start world = (result, next) ∧
      world.Goes service exchanges next ∧ next.files = world.files ∧
      FileCourse world.files name path exchanges result := by
  unfold obtainFile Action.call
  obtain ⟨result, next, listed, goes, kept⟩ :=
    Action.start_callAs_goes .remote service .listFiles world
  rw [Action.start_bind, listed]
  cases result with
  | error error => exact ⟨_, _, _, rfl, goes, kept, .unlisted error⟩
  | ok listing =>
    simp only [mapError_ok]
    cases found : listing.find? fun file => file.displayName? = some name with
    | some file => exact ⟨_, _, _, rfl, ⟨goes.recorded, goes.served⟩, kept, .found found⟩
    | none =>
      simp only [Action.start_bind, Action.start_report, Action.start_files, kept,
        Action.start_ofExcept]
      cases read : world.files.read path with
      | error error =>
        exact ⟨_, _, _, rfl, ⟨goes.recorded, goes.served⟩, rfl, .unread found read⟩
      | ok bytes =>
        obtain ⟨result, last, sent, goes', kept'⟩ :=
          Action.start_callAs_goes .remote service (.uploadFile ⟨name, path.mediaType?, bytes⟩)
            { next with
              files := world.files, log := next.log ++ [⟨.info, s!"Uploading {path.display}"⟩] }
        refine ⟨_, last, _, sent, goes.trans ⟨goes'.recorded, goes'.served⟩, kept', ?_⟩
        cases result with
        | error error => exact .refused error found read
        | ok file => exact .uploaded file found read

theorem obtainFile_of_course {name : String} {path : Path} {world : World σ}
    {exchanges : List Exchange} {result : Except AdviceError UploadedFile} {last : σ}
    (course : FileCourse world.files name path exchanges result)
    (served : service.Served world.remote exchanges last) :
    ∃ next, (obtainFile service name path).start world = (result, next) ∧
      world.Goes service exchanges next ∧ next.files = world.files ∧ next.remote = last := by
  unfold obtainFile Action.call
  rw [Action.start_bind]
  cases course with
  | unlisted error =>
    obtain ⟨next, listed, goes, kept, rest⟩ :=
      Action.start_callAs_of_served .remote _ served
    cases rest
    rw [listed]
    exact ⟨next, rfl, goes, kept, rfl⟩
  | found present =>
    obtain ⟨next, listed, goes, kept, rest⟩ :=
      Action.start_callAs_of_served .remote _ served
    cases rest
    rw [listed]
    simp only [mapError_ok, present]
    exact ⟨_, rfl, ⟨goes.recorded, goes.served⟩, kept, rfl⟩
  | unread absent unread =>
    obtain ⟨next, listed, goes, kept, rest⟩ :=
      Action.start_callAs_of_served .remote _ served
    cases rest
    rw [listed]
    simp only [mapError_ok, absent, Action.start_bind, Action.start_report, Action.start_files,
      kept, Action.start_ofExcept, unread]
    exact ⟨_, rfl, ⟨goes.recorded, goes.served⟩, rfl, rfl⟩
  | refused error absent read | uploaded file absent read =>
    obtain ⟨next, listed, goes, kept, rest⟩ :=
      Action.start_callAs_of_served .remote _ served
    rw [listed]
    simp only [mapError_ok, absent, Action.start_bind, Action.start_report, Action.start_files,
      kept, Action.start_ofExcept, read]
    obtain ⟨last, sent, goes', kept', rest⟩ :=
      Action.start_callAs_of_served .remote
        { next with
          files := world.files, log := next.log ++ [⟨.info, s!"Uploading {path.display}"⟩] } rest
    cases rest
    exact ⟨last, sent, goes.trans ⟨goes'.recorded, goes'.served⟩, kept', rfl⟩

theorem obtainVisits_course (start : String) (dir : Path) (accepts : Path → Bool)
    (visits : List Visit) (world : World σ) :
    ∃ result next exchanges,
      (obtainVisits service start dir accepts visits).start world = (result, next) ∧
      world.Goes service exchanges next ∧ next.files = world.files ∧
      VisitsCourse world.files (displayName start dir) accepts visits exchanges result := by
  induction visits generalizing world with
  | nil => exact ⟨_, _, [], rfl, .refl world, rfl, .done⟩
  | cons visit rest ih =>
    cases visit with
    | error error => exact ⟨_, _, [], rfl, .refl world, rfl, .unwalkable error rest⟩
    | ok path =>
      unfold obtainVisits
      rw [Action.start_bind_ok (Action.start_files world)]
      by_cases wanted : (world.files.isFile path && accepts path) = true
      · rw [if_pos wanted]
        obtain ⟨result, next, before, given, goes, kept, first⟩ :=
          obtainFile_course service (displayName start dir path) path world
        rw [Action.start_bind, given]
        cases result with
        | error error => exact ⟨_, _, before, rfl, goes, kept, .stopped wanted first⟩
        | ok file =>
          obtain ⟨result, last, after, given', goes', kept', others⟩ := ih next
          rw [kept] at others
          simp only [Action.start_bind, given']
          have course := VisitsCourse.taken wanted first others
          cases result <;>
            exact ⟨_, _, before ++ after, rfl, goes.trans goes', kept'.trans kept, course⟩
      · rw [if_neg wanted]
        obtain ⟨result, next, exchanges, given, goes, kept, others⟩ := ih world
        exact ⟨result, next, exchanges, given, goes, kept, .passed (by simpa using wanted) others⟩

theorem obtainDirectory_course (start : String) (dir : Path) (accepts : Path → Bool)
    (world : World σ) :
    ∃ result next exchanges,
      (obtainDirectory service start dir accepts).start world = (result, next) ∧
      world.Goes service exchanges next ∧ next.files = world.files ∧
      VisitsCourse world.files (displayName start dir) accepts (world.files.walk dir) exchanges
        result := by
  unfold obtainDirectory
  rw [Action.start_bind_ok (Action.start_report ..), Action.start_bind_ok (Action.start_files _)]
  obtain ⟨result, next, exchanges, run, goes, kept, course⟩ :=
    obtainVisits_course service start dir accepts (world.files.walk dir)
      { world with
        log := world.log ++ [⟨.info, s!"Ensuring all files in {dir.display} are uploaded"⟩] }
  exact ⟨result, next, exchanges, run, ⟨goes.recorded, goes.served⟩, kept, course⟩

theorem obtainVisits_of_course {start : String} {dir : Path} {accepts : Path → Bool}
    {visits : List Visit} {files : FileSystem} {exchanges : List Exchange}
    {result : Except AdviceError (List UploadedFile)}
    (course : VisitsCourse files (displayName start dir) accepts visits exchanges result)
    (world : World σ) (here : world.files = files) {last : σ}
    (served : service.Served world.remote exchanges last) :
    ∃ next, (obtainVisits service start dir accepts visits).start world = (result, next) ∧
      world.Goes service exchanges next ∧ next.files = world.files ∧ next.remote = last := by
  induction course generalizing world last with
  | done =>
    cases served
    exact ⟨world, rfl, .refl world, rfl, rfl⟩
  | unwalkable error rest =>
    cases served
    exact ⟨world, rfl, .refl world, rfl, rfl⟩
  | passed unwanted others ih =>
    unfold obtainVisits
    rw [Action.start_bind_ok (Action.start_files world), here, if_neg (by simpa using unwanted)]
    exact here ▸ ih world here served
  | stopped wanted first =>
    subst here
    unfold obtainVisits
    rw [Action.start_bind_ok (Action.start_files world), if_pos wanted]
    obtain ⟨next, given, rest⟩ := obtainFile_of_course service first served
    exact ⟨next, Action.start_bind_error given, rest⟩
  | @taken path rest before after file result wanted first others ih =>
    subst here
    unfold obtainVisits
    rw [Action.start_bind_ok (Action.start_files world), if_pos wanted]
    obtain ⟨second, served, served'⟩ := served.split
    obtain ⟨next, given, goes, kept, rfl⟩ := obtainFile_of_course service first served
    obtain ⟨last, given', goes', kept', arrived⟩ := ih next kept served'
    rw [Action.start_bind_ok given, Action.start_bind, given']
    refine ⟨last, ?_, goes.trans goes', kept'.trans kept, arrived⟩
    cases result <;> rfl

end

/-- The courses of obtaining a cache. -/
inductive CacheCourse (request : CacheRequest) :
    List Exchange → Except AdviceError ContentCache → Prop
  | unlisted (error : ServiceError) :
      CacheCourse request [⟨.listCaches, .error error⟩] (.error (.remote error))
  | found {listing : List ContentCache} {cache : ContentCache}
      (present : listing.find? (fun cache => cache.displayName? = some request.displayName) =
        some cache) :
      CacheCourse request [⟨.listCaches, .ok listing⟩] (.ok cache)
  | refused {listing : List ContentCache} (error : ServiceError)
      (absent : listing.find? (fun cache => cache.displayName? = some request.displayName) =
        none) :
      CacheCourse request [⟨.listCaches, .ok listing⟩, ⟨.createCache request, .error error⟩]
        (.error (.remote error))
  | created {listing : List ContentCache} (cache : ContentCache)
      (absent : listing.find? (fun cache => cache.displayName? = some request.displayName) =
        none) :
      CacheCourse request [⟨.listCaches, .ok listing⟩, ⟨.createCache request, .ok cache⟩]
        (.ok cache)

variable {σ : Type} (service : Service σ)

theorem obtainCache_course (model name systemInstruction : String) (files : List UploadedFile)
    (world : World σ) :
    ∃ result next exchanges,
      (obtainCache service model name systemInstruction files).start world = (result, next) ∧
      world.Goes service exchanges next ∧ next.files = world.files ∧
      CacheCourse ⟨model, name, systemInstruction, files, cacheLifetime⟩ exchanges result := by
  unfold obtainCache Action.call
  obtain ⟨result, next, listed, goes, kept⟩ :=
    Action.start_callAs_goes .remote service .listCaches world
  rw [Action.start_bind, listed]
  cases result with
  | error error => exact ⟨_, _, _, rfl, goes, kept, .unlisted error⟩
  | ok listing =>
    simp only [mapError_ok]
    cases found : listing.find? fun cache => cache.displayName? = some name with
    | some cache => exact ⟨_, _, _, rfl, ⟨goes.recorded, goes.served⟩, kept, .found found⟩
    | none =>
      rw [Action.start_bind_ok (Action.start_report ..)]
      obtain ⟨result, last, sent, goes', kept'⟩ :=
        Action.start_callAs_goes .remote service
          (.createCache ⟨model, name, systemInstruction, files, cacheLifetime⟩)
          { next with log := next.log ++ [⟨.info, s!"Creating context cache {name}"⟩] }
      refine ⟨_, last, _, sent, goes.trans ⟨goes'.recorded, goes'.served⟩, kept'.trans kept, ?_⟩
      cases result with
      | error error => exact .refused error found
      | ok cache => exact .created cache found

theorem obtainCache_of_course {model name systemInstruction : String}
    {files : List UploadedFile} {world : World σ} {exchanges : List Exchange}
    {result : Except AdviceError ContentCache} {last : σ}
    (course : CacheCourse ⟨model, name, systemInstruction, files, cacheLifetime⟩ exchanges result)
    (served : service.Served world.remote exchanges last) :
    ∃ next,
      (obtainCache service model name systemInstruction files).start world = (result, next) ∧
      world.Goes service exchanges next ∧ next.files = world.files ∧ next.remote = last := by
  unfold obtainCache Action.call
  rw [Action.start_bind]
  cases course with
  | unlisted error =>
    obtain ⟨next, listed, goes, kept, rest⟩ :=
      Action.start_callAs_of_served .remote _ served
    cases rest
    rw [listed]
    exact ⟨next, rfl, goes, kept, rfl⟩
  | found present =>
    obtain ⟨next, listed, goes, kept, rest⟩ :=
      Action.start_callAs_of_served .remote _ served
    cases rest
    rw [listed]
    simp only [mapError_ok, present]
    exact ⟨_, rfl, ⟨goes.recorded, goes.served⟩, kept, rfl⟩
  | refused error absent | created cache absent =>
    obtain ⟨next, listed, goes, kept, rest⟩ :=
      Action.start_callAs_of_served .remote _ served
    rw [listed]
    simp only [mapError_ok, absent]
    rw [Action.start_bind_ok (Action.start_report ..)]
    obtain ⟨last, sent, goes', kept', rest⟩ :=
      Action.start_callAs_of_served .remote
        { next with log := next.log ++ [⟨.info, s!"Creating context cache {name}"⟩] } rest
    cases rest
    exact ⟨last, sent, goes.trans ⟨goes'.recorded, goes'.served⟩, kept'.trans kept, rfl⟩

end Provision

/-! ## Answers -/

namespace Advisor

open Provision

variable [MediaTypes] {σ : Type}

/-- The courses of providing the data files. -/
inductive FilesCourse (advisor : Advisor σ) (question : Question) (files : FileSystem) :
    List Exchange → Except AdviceError (List UploadedFile) → Prop
  | walked {dir : Path} {exchanges : List Exchange}
      {result : Except AdviceError (List UploadedFile)}
      (given : question.dataDirectory? = some dir) (wanted : question.useDataFiles = true)
      (visits : VisitsCourse files (displayName advisor.preferences.filePrefix dir)
        advisor.preferences.selects (files.walk dir) exchanges result) :
      FilesCourse advisor question files exchanges result
  | unwanted (unwanted : question.dataDirectory? = none ∨ question.useDataFiles = false) :
      FilesCourse advisor question files [] (.ok [])

/-- The request for the cache of a model with files. -/
def cacheRequest (advisor : Advisor σ) (model : String) (files : List UploadedFile) :
    CacheRequest :=
  ⟨model, advisor.preferences.cacheName, advisor.templates.context, files, cacheLifetime⟩

/-- The courses of providing the cache. -/
inductive ContextCourse (advisor : Advisor σ) (question : Question) (model : String)
    (files : List UploadedFile) : List Exchange → Except AdviceError (Option ContentCache) → Prop
  | provided {exchanges : List Exchange} {result : Except AdviceError ContentCache}
      (wanted : question.useCache = true)
      (cache : CacheCourse (advisor.cacheRequest model files) exchanges result) :
      ContextCourse advisor question model files exchanges (result.map some)
  | unwanted (unwanted : question.useCache = false) :
      ContextCourse advisor question model files [] (.ok none)

/-- The courses of providing what a question wants. -/
inductive RequestCourse (advisor : Advisor σ) (question : Question) (model : String)
    (files : FileSystem) : List Exchange → Except AdviceError ModelRequest → Prop
  | noFiles {steps : List Exchange} {error : AdviceError}
      (provided : FilesCourse advisor question files steps (.error error)) :
      RequestCourse advisor question model files steps (.error error)
  | noCache {steps ending : List Exchange} {uploads : List UploadedFile} {error : AdviceError}
      (provided : FilesCourse advisor question files steps (.ok uploads))
      (context : ContextCourse advisor question model uploads ending (.error error)) :
      RequestCourse advisor question model files (steps ++ ending) (.error error)
  | formed {steps ending : List Exchange} {uploads : List UploadedFile}
      {cache? : Option ContentCache}
      (provided : FilesCourse advisor question files steps (.ok uploads))
      (context : ContextCourse advisor question model uploads ending (.ok cache?)) :
      RequestCourse advisor question model files (steps ++ ending)
        (.ok ⟨model, advisor.promptOf question, configuration advisor.templates.context cache?⟩)

/-- The courses of everything before the model generates. -/
inductive PrepareCourse (advisor : Advisor σ) (question : Question) (files : FileSystem) :
    List Exchange → Except AdviceError ModelRequest → Prop
  | rejected {error : AdviceError} (unfit : question.check = .error error) :
      PrepareCourse advisor question files [] (.error error)
  | noModel (fit : question.check = .ok ()) (error : ServiceError) :
      PrepareCourse advisor question files
        [⟨.getModel advisor.preferences.model, .error error⟩] (.error (.remote error))
  | provided (fit : question.check = .ok ()) (card : ModelCard) {exchanges : List Exchange}
      {result : Except AdviceError ModelRequest}
      (course : RequestCourse advisor question card.name files exchanges result) :
      PrepareCourse advisor question files
        (⟨.getModel advisor.preferences.model, .ok card⟩ :: exchanges) result

/-- The courses of a whole answer. -/
inductive Course (advisor : Advisor σ) (question : Question) (files : FileSystem) :
    List Exchange → Except AdviceError String → Prop
  | unprepared {exchanges : List Exchange} {error : AdviceError}
      (prepared : PrepareCourse advisor question files exchanges (.error error)) :
      Course advisor question files exchanges (.error error)
  | refused {exchanges : List Exchange} {request : ModelRequest}
      (prepared : PrepareCourse advisor question files exchanges (.ok request))
      (error : ServiceError) :
      Course advisor question files (exchanges ++ [⟨.generate request, .error error⟩])
        (.error (.generationFailed error.message))
  | generated {exchanges : List Exchange} {request : ModelRequest}
      (prepared : PrepareCourse advisor question files exchanges (.ok request))
      (reply : ModelReply) :
      Course advisor question files (exchanges ++ [⟨.generate request, .ok reply⟩])
        (textOf reply)

theorem provideFiles_course (advisor : Advisor σ) (question : Question) (world : World σ) :
    ∃ result next exchanges, (advisor.provideFiles question).start world = (result, next) ∧
      world.Goes advisor.service exchanges next ∧ next.files = world.files ∧
      FilesCourse advisor question world.files exchanges result := by
  unfold provideFiles
  split
  next dir given wanted =>
    obtain ⟨result, next, exchanges, run, goes, kept, course⟩ :=
      obtainDirectory_course advisor.service advisor.preferences.filePrefix dir
        advisor.preferences.selects world
    exact ⟨result, next, exchanges, run, goes, kept, .walked given wanted course⟩
  next missing =>
    refine ⟨_, _, [], rfl, .refl world, rfl, .unwanted ?_⟩
    cases given : question.dataDirectory? with
    | none => exact .inl rfl
    | some dir => exact .inr (by simpa using fun wanted => missing dir given wanted)

omit [MediaTypes] in
theorem provideCache_course (advisor : Advisor σ) (question : Question) (model : String)
    (files : List UploadedFile) (world : World σ) :
    ∃ result next exchanges,
      (advisor.provideCache question model files).start world = (result, next) ∧
      world.Goes advisor.service exchanges next ∧ next.files = world.files ∧
      ContextCourse advisor question model files exchanges result := by
  unfold provideCache
  split
  next wanted =>
    obtain ⟨result, next, exchanges, run, goes, kept, course⟩ :=
      obtainCache_course advisor.service model advisor.preferences.cacheName
        advisor.templates.context files world
    exact ⟨_, next, exchanges, by rw [Action.start_map, run], goes, kept, .provided wanted course⟩
  next unwanted =>
    exact ⟨_, _, [], rfl, .refl world, rfl, .unwanted (by simpa using unwanted)⟩

theorem request_course (advisor : Advisor σ) (question : Question) (model : String)
    (world : World σ) :
    ∃ result next exchanges, (advisor.request question model).start world = (result, next) ∧
      world.Goes advisor.service exchanges next ∧ next.files = world.files ∧
      RequestCourse advisor question model world.files exchanges result := by
  unfold request
  obtain ⟨result, next, steps, run, goes, kept, provided⟩ :=
    advisor.provideFiles_course question world
  rw [Action.start_bind, run]
  cases result with
  | error error => exact ⟨_, next, steps, rfl, goes, kept, .noFiles provided⟩
  | ok uploads =>
    obtain ⟨result, last, ending, run', goes', kept', context⟩ :=
      advisor.provideCache_course question model uploads next
    simp only [Action.start_bind, run']
    have goes'' := goes.trans goes'
    cases result with
    | error error => exact ⟨_, last, _, rfl, goes'', kept'.trans kept, .noCache provided context⟩
    | ok cache? => exact ⟨_, last, _, rfl, goes'', kept'.trans kept, .formed provided context⟩

/-- The files on which a question is answered: the prompt has been noted among them. -/
def filesAfterPrompt (advisor : Advisor σ) (question : Question) (files : FileSystem) :
    FileSystem :=
  (advisor.notes.write "prompt" (advisor.promptOf question) files).1

theorem prepare_course (advisor : Advisor σ) (question : Question) (world : World σ) :
    ∃ result next exchanges, (advisor.prepare question).start world = (result, next) ∧
      world.Goes advisor.service exchanges next ∧
      PrepareCourse advisor question (advisor.filesAfterPrompt question world.files) exchanges
        result := by
  unfold prepare Action.call
  rw [Action.start_bind, Action.start_ofExcept]
  cases fit : question.check with
  | error error => exact ⟨_, _, [], rfl, .refl world, .rejected fit⟩
  | ok _ =>
    obtain ⟨result, next, asked, goes, kept⟩ :=
      Action.start_callAs_goes .remote advisor.service (.getModel advisor.preferences.model) world
    simp only
    rw [Action.start_bind, asked]
    cases result with
    | error error => exact ⟨_, next, _, rfl, goes, .noModel fit error⟩
    | ok card =>
      simp only [mapError_ok]
      rw [Action.start_bind_ok (Action.start_report ..),
        Action.start_bind_ok (Notes.start_take ..)]
      obtain ⟨result, last, exchanges, run, goes', -, course⟩ :=
        advisor.request_course question card.name _
      exact ⟨result, last, _, run, goes.trans ⟨goes'.recorded, goes'.served⟩,
        .provided fit card (kept ▸ course)⟩

/-- A whole answer takes one of its courses. -/
theorem advise_course (advisor : Advisor σ) (question : Question) (world : World σ) :
    ∃ result next exchanges, (advisor.advise question).start world = (result, next) ∧
      world.Goes advisor.service exchanges next ∧
      Course advisor question (advisor.filesAfterPrompt question world.files) exchanges result := by
  unfold advise
  obtain ⟨result, next, exchanges, run, goes, prepared⟩ := advisor.prepare_course question world
  rw [Action.start_bind, run]
  cases result with
  | error error => exact ⟨_, next, exchanges, rfl, goes, .unprepared prepared⟩
  | ok request =>
    unfold generate
    simp only
    rw [Action.start_bind_ok (Action.start_report ..)]
    obtain ⟨result, last, asked, goes', -⟩ :=
      Action.start_callAs_goes (fun error => .generationFailed error.message) advisor.service
        (.generate request) { next with log := next.log ++ [⟨.info, "Generating content..."⟩] }
    rw [Action.start_bind, asked]
    have goes'' : world.Goes advisor.service (exchanges ++ [⟨.generate request, result⟩]) last :=
      goes.trans ⟨goes'.recorded, goes'.served⟩
    cases result with
    | error error => exact ⟨_, last, _, rfl, goes'', .refused prepared error⟩
    | ok reply =>
      simp only [mapError_ok]
      rw [Action.start_bind_ok (Notes.start_take ..), Action.start_ofExcept]
      exact ⟨_, _, _, rfl, ⟨goes''.recorded, goes''.served⟩, .generated prepared reply⟩

theorem provideFiles_of_course {advisor : Advisor σ} {question : Question} {world : World σ}
    {exchanges : List Exchange} {result : Except AdviceError (List UploadedFile)} {last : σ}
    (course : FilesCourse advisor question world.files exchanges result)
    (served : advisor.service.Served world.remote exchanges last) :
    ∃ next, (advisor.provideFiles question).start world = (result, next) ∧
      world.Goes advisor.service exchanges next ∧ next.files = world.files ∧
      next.remote = last := by
  unfold provideFiles
  cases course with
  | @walked dir _ _ given wanted visits =>
    rw [given, wanted]
    unfold obtainDirectory
    simp only
    rw [Action.start_bind_ok (Action.start_report ..), Action.start_bind_ok (Action.start_files _)]
    obtain ⟨next, run, goes, kept, arrived⟩ :=
      obtainVisits_of_course advisor.service visits { world with
        log := world.log ++ [⟨.info, s!"Ensuring all files in {dir.display} are uploaded"⟩] }
        rfl served
    exact ⟨next, run, ⟨goes.recorded, goes.served⟩, kept, arrived⟩
  | unwanted unwanted =>
    cases served
    refine ⟨world, ?_, .refl world, rfl, rfl⟩
    split
    next dir given wanted => simp [given, wanted] at unwanted
    next => rfl

omit [MediaTypes] in
theorem provideCache_of_course {advisor : Advisor σ} {question : Question} {model : String}
    {files : List UploadedFile} {world : World σ} {exchanges : List Exchange}
    {result : Except AdviceError (Option ContentCache)} {last : σ}
    (course : ContextCourse advisor question model files exchanges result)
    (served : advisor.service.Served world.remote exchanges last) :
    ∃ next, (advisor.provideCache question model files).start world = (result, next) ∧
      world.Goes advisor.service exchanges next ∧ next.files = world.files ∧
      next.remote = last := by
  unfold provideCache
  cases course with
  | provided wanted cache =>
    obtain ⟨next, run, rest⟩ := obtainCache_of_course advisor.service cache served
    exact ⟨next, by rw [if_pos wanted, Action.start_map, run], rest⟩
  | unwanted unwanted =>
    cases served
    exact ⟨world, by rw [if_neg (by simp [unwanted])]; rfl, .refl world, rfl, rfl⟩

theorem request_of_course {advisor : Advisor σ} {question : Question} {model : String}
    (world : World σ) {exchanges : List Exchange} {result : Except AdviceError ModelRequest}
    {last : σ} (course : RequestCourse advisor question model world.files exchanges result)
    (served : advisor.service.Served world.remote exchanges last) :
    ∃ next, (advisor.request question model).start world = (result, next) ∧
      world.Goes advisor.service exchanges next ∧ next.files = world.files ∧
      next.remote = last := by
  unfold request
  cases course with
  | noFiles provided =>
    obtain ⟨next, run, rest⟩ := provideFiles_of_course provided served
    exact ⟨next, Action.start_bind_error run, rest⟩
  | noCache provided context | formed provided context =>
    obtain ⟨second, served, served'⟩ := served.split
    obtain ⟨next, run, goes, kept, rfl⟩ := provideFiles_of_course provided served
    obtain ⟨last, run', goes', kept', arrived⟩ := provideCache_of_course context served'
    rw [Action.start_bind_ok run, Action.start_bind, run']
    exact ⟨last, rfl, goes.trans goes', kept'.trans kept, arrived⟩

theorem prepare_of_course {advisor : Advisor σ} {question : Question} {world : World σ}
    {exchanges : List Exchange} {result : Except AdviceError ModelRequest} {last : σ}
    (course : PrepareCourse advisor question (advisor.filesAfterPrompt question world.files)
      exchanges result)
    (served : advisor.service.Served world.remote exchanges last) :
    ∃ next, (advisor.prepare question).start world = (result, next) ∧
      world.Goes advisor.service exchanges next ∧ next.remote = last := by
  unfold prepare Action.call
  rw [Action.start_bind, Action.start_ofExcept]
  cases course with
  | rejected unfit =>
    cases served
    rw [unfit]
    exact ⟨world, rfl, .refl world, rfl⟩
  | noModel fit error =>
    obtain ⟨next, asked, goes, kept, rest⟩ :=
      Action.start_callAs_of_served .remote _ served
    cases rest
    simp only [fit]
    rw [Action.start_bind, asked]
    exact ⟨next, rfl, goes, rfl⟩
  | provided fit card course =>
    obtain ⟨next, asked, goes, kept, rest⟩ :=
      Action.start_callAs_of_served .remote _ served
    simp only [fit]
    rw [Action.start_bind, asked]
    simp only [mapError_ok]
    rw [Action.start_bind_ok (Action.start_report ..), Action.start_bind_ok (Notes.start_take ..)]
    simp only [kept]
    obtain ⟨last, run, goes', -, arrived⟩ := request_of_course
      { next with files := advisor.filesAfterPrompt question world.files, log := _ } course rest
    exact ⟨last, run, goes.trans ⟨goes'.recorded, goes'.served⟩, arrived⟩

/-- A whole answer takes the course that the service answers. -/
theorem advise_of_course (advisor : Advisor σ) {question : Question} (world : World σ)
    {exchanges : List Exchange} {result : Except AdviceError String} {last : σ}
    (course : Course advisor question (advisor.filesAfterPrompt question world.files) exchanges
      result)
    (served : advisor.service.Served world.remote exchanges last) :
    ∃ next, (advisor.advise question).start world = (result, next) ∧
      world.Goes advisor.service exchanges next ∧ next.remote = last := by
  unfold advise
  cases course with
  | unprepared prepared =>
    obtain ⟨next, run, rest⟩ := prepare_of_course prepared served
    exact ⟨next, Action.start_bind_error run, rest⟩
  | refused prepared error | generated prepared reply =>
    obtain ⟨second, served, served'⟩ := served.split
    obtain ⟨next, run, goes, rfl⟩ := prepare_of_course prepared served
    rw [Action.start_bind_ok run]
    unfold generate
    rw [Action.start_bind_ok (Action.start_report ..)]
    obtain ⟨last, asked, goes', -, rest⟩ := Action.start_callAs_of_served
      (fun error => .generationFailed error.message)
      { next with log := next.log ++ [⟨.info, "Generating content..."⟩] } served'
    cases rest
    rw [Action.start_bind, asked]
    have goes'' := goes.trans ⟨goes'.recorded, goes'.served⟩
    exact ⟨_, rfl, ⟨goes''.recorded, goes''.served⟩, rfl⟩

/-! ## Other services -/

/-- The advisor with another service. -/
def via {τ : Type} (advisor : Advisor σ) (service : Service τ) : Advisor τ :=
  ⟨service, advisor.preferences, advisor.templates, advisor.notes⟩

section

variable {τ : Type} {advisor : Advisor σ} {question : Question} {files : FileSystem}
  {exchanges : List Exchange}

theorem FilesCourse.via {result : Except AdviceError (List UploadedFile)}
    (course : FilesCourse advisor question files exchanges result) (service : Service τ) :
    FilesCourse (advisor.via service) question files exchanges result := by
  cases course with
  | walked given wanted visits => exact .walked given wanted visits
  | unwanted unwanted => exact .unwanted unwanted

omit [MediaTypes] in
theorem ContextCourse.via {model : String} {uploads : List UploadedFile}
    {result : Except AdviceError (Option ContentCache)}
    (course : ContextCourse advisor question model uploads exchanges result)
    (service : Service τ) :
    ContextCourse (advisor.via service) question model uploads exchanges result := by
  cases course with
  | provided wanted cache => exact .provided wanted cache
  | unwanted unwanted => exact .unwanted unwanted

theorem RequestCourse.via {model : String} {result : Except AdviceError ModelRequest}
    (course : RequestCourse advisor question model files exchanges result)
    (service : Service τ) :
    RequestCourse (advisor.via service) question model files exchanges result := by
  cases course with
  | noFiles provided => exact .noFiles (provided.via service)
  | noCache provided context => exact .noCache (provided.via service) (context.via service)
  | formed provided context => exact .formed (provided.via service) (context.via service)

theorem PrepareCourse.via {result : Except AdviceError ModelRequest}
    (course : PrepareCourse advisor question files exchanges result) (service : Service τ) :
    PrepareCourse (advisor.via service) question files exchanges result := by
  cases course with
  | rejected unfit => exact .rejected unfit
  | noModel fit error => exact .noModel fit error
  | provided fit card course => exact .provided fit card (course.via service)

end

end Advisor

end BattleAdvisor
