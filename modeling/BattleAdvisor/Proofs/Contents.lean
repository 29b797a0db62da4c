import BattleAdvisor.Proofs.Conversation
import BattleAdvisor.Remote.Store

/-!
# What a service holds

A `Depot` is a service that holds files and caches. It lists them; an upload or a creation that
succeeds adds one thing of the display name that was asked for, behind the others; all other calls,
and all that fail, change nothing. Which calls fail is left open. `Contents.Handles` is what one
exchange does to the contents, and `Contents.HandlesAll` what several do.

Whatever is added in the courses of a run has a display name that nothing had before
(`Course.fresh`), and what is obtained under a display name is the first thing listed under it,
then and later (`FileCourse.lists`, `Within.file?_eq`).
-/

namespace BattleAdvisor

/-! ## Contents -/

/-- What a service holds: files and caches, in the order in which they came. -/
structure Contents where
  files : List UploadedFile
  caches : List ContentCache

namespace Contents

variable {contents next last : Contents} {exchange : Exchange}
  {exchanges before after : List Exchange} {name : String}

/-- The first file of a display name. -/
def file? (contents : Contents) (name : String) : Option UploadedFile :=
  contents.files.find? fun file => file.displayName? = some name

/-- The first cache of a display name. -/
def cache? (contents : Contents) (name : String) : Option ContentCache :=
  contents.caches.find? fun cache => cache.displayName? = some name

/-- The display names of the files. -/
def fileNames (contents : Contents) : List String :=
  contents.files.filterMap (·.displayName?)

/-- The display names of the caches. -/
def cacheNames (contents : Contents) : List String :=
  contents.caches.filterMap (·.displayName?)

theorem file?_eq_none : contents.file? name = none ↔ name ∉ contents.fileNames := by
  simp [file?, fileNames]

theorem cache?_eq_none : contents.cache? name = none ↔ name ∉ contents.cacheNames := by
  simp [cache?, cacheNames]

/-- The contents with one more file. -/
def addFile (contents : Contents) (file : UploadedFile) : Contents :=
  { contents with files := contents.files ++ [file] }

/-- The contents with one more cache. -/
def addCache (contents : Contents) (cache : ContentCache) : Contents :=
  { contents with caches := contents.caches ++ [cache] }

/-- What an exchange does to the contents. -/
inductive Handles (contents : Contents) : Exchange → Contents → Prop
  | failed (call : Call) (error : ServiceError) : contents.Handles ⟨call, .error error⟩ contents
  | listFiles : contents.Handles ⟨.listFiles, .ok contents.files⟩ contents
  | uploadFile (upload : Upload) (file : UploadedFile)
      (named : file.displayName? = some upload.displayName) :
      contents.Handles ⟨.uploadFile upload, .ok file⟩ (contents.addFile file)
  | listCaches : contents.Handles ⟨.listCaches, .ok contents.caches⟩ contents
  | createCache (request : CacheRequest) (cache : ContentCache)
      (named : cache.displayName? = some request.displayName) :
      contents.Handles ⟨.createCache request, .ok cache⟩ (contents.addCache cache)
  | getModel (model : String) (card : ModelCard) :
      contents.Handles ⟨.getModel model, .ok card⟩ contents
  | generate (request : ModelRequest) (reply : ModelReply) :
      contents.Handles ⟨.generate request, .ok reply⟩ contents

/-- What exchanges do to the contents, one after another. -/
inductive HandlesAll : Contents → List Exchange → Contents → Prop
  | nil (contents : Contents) : HandlesAll contents [] contents
  | cons {contents next last : Contents} {exchange : Exchange} {exchanges : List Exchange}
      (first : contents.Handles exchange next) (others : next.HandlesAll exchanges last) :
      HandlesAll contents (exchange :: exchanges) last

theorem HandlesAll.split (h : contents.HandlesAll (before ++ after) last) :
    ∃ next, contents.HandlesAll before next ∧ next.HandlesAll after last := by
  induction before generalizing contents with
  | nil => exact ⟨contents, .nil contents, h⟩
  | cons exchange before ih =>
    cases h with
    | cons first others =>
      obtain ⟨next, h, h'⟩ := ih others
      exact ⟨next, .cons first h, h'⟩

end Contents

/-! ## Depots -/

/-- A service that holds files and caches. -/
structure Depot (σ : Type) where
  service : Service σ
  contents : σ → Contents
  /-- The states in which the service is in order. -/
  Sound : σ → Prop
  handles : ∀ (call : Call) (state : σ), Sound state →
    (contents state).Handles ⟨call, (service.answer call state).1.result⟩
      (contents (service.answer call state).2)
  stays : ∀ (call : Call) (state : σ), Sound state → Sound (service.answer call state).2

theorem Depot.served {σ : Type} {depot : Depot σ} {state last : σ} {exchanges : List Exchange}
    (sound : depot.Sound state) (h : depot.service.Served state exchanges last) :
    depot.Sound last ∧ (depot.contents state).HandlesAll exchanges (depot.contents last) := by
  induction h with
  | nil => exact ⟨sound, .nil _⟩
  | @cons state next last call outcome exchanges answered others ih =>
    have handles := depot.handles call state sound
    have stays := depot.stays call state sound
    rw [answered] at handles stays
    exact ⟨(ih stays).1, .cons handles (ih stays).2⟩

/-- The service in memory, if it keeps what is new. -/
def Store.depot : Depot Store where
  service := Store.service
  contents store := ⟨store.files, store.caches⟩
  Sound store := store.keeps = true
  handles call store sound := by
    simp only [service, answer]
    split
    next error struck => exact .failed call error
    next =>
      cases call with
      | listFiles => exact .listFiles
      | uploadFile upload =>
        simp only [serve, sound, if_true]
        exact .uploadFile upload _ rfl
      | listCaches => exact .listCaches
      | createCache request =>
        simp only [serve, sound, if_true]
        exact .createCache request _ rfl
      | getModel model => exact .getModel model _
      | generate request => exact .generate request _
  stays call store sound := by
    simp only [service, answer]
    split
    next => exact sound
    next => cases call <;> simp [serve, sound]

/-! ## What is added -/

/-- No call fails. -/
def Answered (exchanges : List Exchange) : Prop :=
  ∀ exchange ∈ exchanges, exchange.result.isOk = true

instance (exchanges : List Exchange) : Decidable (Answered exchanges) :=
  inferInstanceAs (Decidable (∀ exchange ∈ exchanges, exchange.result.isOk = true))

@[simp] theorem answered_nil : Answered [] :=
  fun _ h => nomatch h

@[simp] theorem answered_cons (exchange : Exchange) (exchanges : List Exchange) :
    Answered (exchange :: exchanges) ↔ exchange.result.isOk = true ∧ Answered exchanges :=
  List.forall_mem_cons

@[simp] theorem answered_append (before after : List Exchange) :
    Answered (before ++ after) ↔ Answered before ∧ Answered after :=
  List.forall_mem_append

theorem Answered.failed_notMem {exchanges : List Exchange} (h : Answered exchanges) {call : Call}
    {error : ServiceError} : ⟨call, .error error⟩ ∉ exchanges :=
  fun failed => nomatch h _ failed

/-- The display name of the file that an exchange uploads. -/
def Exchange.uploadedName? : Exchange → Option String
  | ⟨.uploadFile upload, .ok _⟩ => some upload.displayName
  | _ => none

/-- The display name of the cache that an exchange creates. -/
def Exchange.createdName? : Exchange → Option String
  | ⟨.createCache request, .ok _⟩ => some request.displayName
  | _ => none

/-- The display names of the files that are uploaded. -/
def uploadedNames (exchanges : List Exchange) : List String :=
  exchanges.filterMap (·.uploadedName?)

/-- The display names of the caches that are created. -/
def createdNames (exchanges : List Exchange) : List String :=
  exchanges.filterMap (·.createdName?)

@[simp] theorem uploadedNames_append (before after : List Exchange) :
    uploadedNames (before ++ after) = uploadedNames before ++ uploadedNames after :=
  List.filterMap_append

@[simp] theorem createdNames_append (before after : List Exchange) :
    createdNames (before ++ after) = createdNames before ++ createdNames after :=
  List.filterMap_append

/-- The names that are added are new, each of them once. -/
def NewTo (names added : List String) : Prop :=
  added.Nodup ∧ ∀ name ∈ added, name ∉ names

theorem NewTo.nil (names : List String) : NewTo names [] := by
  simp [NewTo]

theorem NewTo.singleton {names : List String} {name : String} (h : name ∉ names) :
    NewTo names [name] := by
  simpa [NewTo] using h

theorem NewTo.append {names added others : List String} (h : NewTo names added)
    (h' : NewTo (names ++ added) others) : NewTo names (added ++ others) := by
  simp only [NewTo, List.mem_append, not_or] at *
  refine ⟨List.nodup_append'.mpr ⟨h.1, h'.1, fun name here there => (h'.2 name there).2 here⟩, ?_⟩
  rintro name (here | there)
  · exact h.2 name here
  · exact (h'.2 name there).1

theorem NewTo.nodup {names added : List String} (h : NewTo names added) (distinct : names.Nodup) :
    (names ++ added).Nodup :=
  List.nodup_append'.mpr ⟨distinct, h.1, fun name here there => h.2 name there here⟩

namespace Contents

variable {contents next last : Contents} {exchange : Exchange}
  {exchanges before after : List Exchange} {name : String}

/-- The files that are added have the display names that were uploaded, and so have the caches. -/
theorem Handles.adds (h : contents.Handles exchange next) :
    (∃ files, next.files = contents.files ++ files ∧
      files.map (·.displayName?) = exchange.uploadedName?.toList.map some) ∧
    ∃ caches, next.caches = contents.caches ++ caches ∧
      caches.map (·.displayName?) = exchange.createdName?.toList.map some := by
  cases h with
  | failed call error => cases call <;> exact ⟨⟨[], by simp, rfl⟩, [], by simp, rfl⟩
  | uploadFile upload file named =>
    exact ⟨⟨[file], rfl, by simp [Exchange.uploadedName?, named]⟩, [], by simp [addFile], rfl⟩
  | createCache request cache named =>
    exact ⟨⟨[], by simp [addCache], rfl⟩, [cache], rfl, by simp [Exchange.createdName?, named]⟩
  | listFiles | listCaches | getModel model card | generate request reply =>
    exact ⟨⟨[], by simp, rfl⟩, [], by simp, rfl⟩

theorem HandlesAll.adds (h : contents.HandlesAll exchanges next) :
    (∃ files, next.files = contents.files ++ files ∧
      files.map (·.displayName?) = (uploadedNames exchanges).map some) ∧
    ∃ caches, next.caches = contents.caches ++ caches ∧
      caches.map (·.displayName?) = (createdNames exchanges).map some := by
  induction h with
  | nil => exact ⟨⟨[], by simp, rfl⟩, [], by simp, rfl⟩
  | @cons contents next last exchange exchanges first others ih =>
    obtain ⟨⟨files, more, named⟩, caches, more', named'⟩ := first.adds
    obtain ⟨⟨files', still, named''⟩, caches', still', named'''⟩ := ih
    refine ⟨⟨files ++ files', by rw [still, more, List.append_assoc], ?_⟩,
      caches ++ caches', by rw [still', more', List.append_assoc], ?_⟩
    · rw [List.map_append, named, named'', ← List.map_append]
      cases found : exchange.uploadedName? <;> simp [uploadedNames, found]
    · rw [List.map_append, named', named''', ← List.map_append]
      cases found : exchange.createdName? <;> simp [createdNames, found]

theorem filterMap_of_map_eq {α : Type} {f : α → Option String} {items : List α}
    {names : List String} (h : items.map f = names.map some) : items.filterMap f = names := by
  have := congrArg (List.filterMap id) h
  simpa [List.filterMap_map] using this

theorem HandlesAll.fileNames (h : contents.HandlesAll exchanges next) :
    next.fileNames = contents.fileNames ++ uploadedNames exchanges := by
  obtain ⟨⟨files, more, named⟩, -⟩ := h.adds
  rw [Contents.fileNames, more, List.filterMap_append, filterMap_of_map_eq named]
  rfl

theorem HandlesAll.cacheNames (h : contents.HandlesAll exchanges next) :
    next.cacheNames = contents.cacheNames ++ createdNames exchanges := by
  obtain ⟨-, caches, more, named⟩ := h.adds
  rw [Contents.cacheNames, more, List.filterMap_append, filterMap_of_map_eq named]
  rfl

/-- Exchanges that leave the contents as they are upload and create nothing. -/
theorem HandlesAll.still (h : contents.HandlesAll exchanges contents) :
    uploadedNames exchanges = [] ∧ createdNames exchanges = [] :=
  ⟨List.self_eq_append_right.mp h.fileNames, List.self_eq_append_right.mp h.cacheNames⟩

/-- The later contents are the earlier ones with something behind them. -/
structure Within (earlier later : Contents) : Prop where
  files : earlier.files <+: later.files
  caches : earlier.caches <+: later.caches

theorem Within.refl (contents : Contents) : contents.Within contents :=
  ⟨List.prefix_refl _, List.prefix_refl _⟩

theorem Within.trans (h : contents.Within next) (h' : next.Within last) : contents.Within last :=
  ⟨h.files.trans h'.files, h.caches.trans h'.caches⟩

theorem HandlesAll.within (h : contents.HandlesAll exchanges next) : contents.Within next := by
  obtain ⟨⟨files, more, -⟩, caches, more', -⟩ := h.adds
  exact ⟨⟨files, more.symm⟩, ⟨caches, more'.symm⟩⟩

theorem Within.antisymm (h : contents.Within next) (h' : next.Within contents) :
    contents = next := by
  have files := h.files.eq_of_length_le h'.files.length_le
  have caches := h.caches.eq_of_length_le h'.caches.length_le
  cases contents
  cases next
  exact congr (congrArg Contents.mk files) caches

/-- What was listed first under a display name still is. -/
theorem Within.file?_eq (h : contents.Within next) {file : UploadedFile}
    (listed : contents.file? name = some file) : next.file? name = some file :=
  h.files.find?_eq_some listed

theorem Within.cache?_eq (h : contents.Within next) {cache : ContentCache}
    (listed : contents.cache? name = some cache) : next.cache? name = some cache :=
  h.caches.find?_eq_some listed

/-- All that exchanges add to the contents has new display names. -/
structure Fresh (contents : Contents) (exchanges : List Exchange) : Prop where
  files : NewTo contents.fileNames (uploadedNames exchanges)
  caches : NewTo contents.cacheNames (createdNames exchanges)

theorem Fresh.append (h : contents.Fresh before) (handled : contents.HandlesAll before next)
    (h' : next.Fresh after) : contents.Fresh (before ++ after) :=
  ⟨by simpa using h.files.append (handled.fileNames ▸ h'.files),
    by simpa using h.caches.append (handled.cacheNames ▸ h'.caches)⟩

/-- Exchanges that leave the contents as they are add nothing. -/
theorem HandlesAll.fresh_still (h : contents.HandlesAll exchanges contents) :
    contents.Fresh exchanges :=
  ⟨h.still.1 ▸ .nil _, h.still.2 ▸ .nil _⟩

theorem fresh_nil (contents : Contents) : contents.Fresh [] :=
  (HandlesAll.nil contents).fresh_still

end Contents

/-! ## Courses -/

/-- Where each part of a run adds only what is new, so do they all. -/
theorem fresh_closed :
    Courses.Closed fun α course => ∀ exchanges (result : Except AdviceError α),
      course exchanges result → ∀ contents last : Contents, contents.HandlesAll exchanges last →
        contents.Fresh exchanges where
  done := by
    rintro α a _ _ ⟨rfl, -⟩ contents last -
    exact contents.fresh_nil
  stuck := by
    rintro α error _ _ ⟨rfl, -⟩ contents last -
    exact contents.fresh_nil
  bind := by
    rintro α β first second here there _ _ (failed | ⟨course, course'⟩) contents last handled
    · exact here _ _ failed contents last handled
    · obtain ⟨next, handled, handled'⟩ := handled.split
      exact (here _ _ course contents next handled).append handled
        (there _ _ _ course' next last handled')

namespace Provision

open Contents

variable {contents last : Contents} {files : FileSystem} {exchanges : List Exchange}

/-- A cache is not obtained, which changes nothing and is due to a call; or it is listed; or none is
listed, and it is created. -/
theorem CacheCourse.handled {request : CacheRequest} {result : Except AdviceError ContentCache}
    (course : CacheCourse request exchanges result)
    (handled : contents.HandlesAll exchanges last) :
    (∃ error, result = .error error ∧ last = contents ∧ ¬ Answered exchanges) ∨
    (∃ cache, result = .ok cache ∧ contents.cache? request.displayName = some cache ∧
      last = contents ∧ exchanges = [⟨.listCaches, .ok contents.caches⟩]) ∨
    ∃ cache, result = .ok cache ∧ contents.cache? request.displayName = none ∧
      last = contents.addCache cache ∧ cache.displayName? = some request.displayName ∧
      exchanges = [⟨.listCaches, .ok contents.caches⟩, ⟨.createCache request, .ok cache⟩] := by
  cases handled with
  | nil => cases course
  | cons first others =>
    cases course with
    | unlisted error =>
      cases first
      cases others
      exact .inl ⟨_, rfl, rfl, fun answered => answered.failed_notMem (.head _)⟩
    | found present =>
      cases first
      cases others
      exact .inr (.inl ⟨_, rfl, present, rfl, rfl⟩)
    | refused error absent =>
      cases first
      rcases others with _ | ⟨⟨⟩, ⟨⟩⟩
      exact .inl ⟨_, rfl, rfl, fun answered => answered.failed_notMem (.tail _ (.head _))⟩
    | created cache absent =>
      cases first
      rcases others with _ | ⟨_ | ⟨_⟩, ⟨⟩⟩
      exact .inr (.inr ⟨cache, rfl, absent, rfl, ‹_›, rfl⟩)

/-- A cache that is obtained is listed from then on. -/
theorem CacheCourse.lists {request : CacheRequest} {cache : ContentCache}
    (course : CacheCourse request exchanges (.ok cache))
    (handled : contents.HandlesAll exchanges last) :
    last.cache? request.displayName = some cache := by
  obtain ⟨_, ⟨⟩, -⟩ | ⟨_, ⟨⟩, listed, rfl, -⟩ | ⟨_, ⟨⟩, absent, rfl, named, -⟩ :=
    course.handled handled
  · exact listed
  · rw [cache?] at absent ⊢
    rw [addCache, List.find?_append, absent]
    simp [named]

theorem CacheCourse.fresh {request : CacheRequest} {result : Except AdviceError ContentCache}
    (course : CacheCourse request exchanges result)
    (handled : contents.HandlesAll exchanges last) : contents.Fresh exchanges := by
  obtain ⟨_, -, rfl, -⟩ | ⟨_, -, -, rfl, -⟩ | ⟨_, -, absent, -, -, rfl⟩ := course.handled handled
  · exact handled.fresh_still
  · exact handled.fresh_still
  · exact ⟨.nil _, .singleton (cache?_eq_none.mp absent)⟩

variable [MediaTypes]

/-- A file is not obtained, which changes nothing and is due to a call or to the path; or it is
listed; or none is listed, and it is uploaded. -/
theorem FileCourse.handled {name : String} {path : Path} {result : Except AdviceError UploadedFile}
    (course : FileCourse files name path exchanges result)
    (handled : contents.HandlesAll exchanges last) :
    (∃ error, result = .error error ∧ last = contents ∧
      (Answered exchanges → contents.file? name = none ∧ ∃ why, files.read path = .error why)) ∨
    (∃ file, result = .ok file ∧ contents.file? name = some file ∧ last = contents ∧
      exchanges = [⟨.listFiles, .ok contents.files⟩]) ∨
    ∃ file bytes, result = .ok file ∧ contents.file? name = none ∧ last = contents.addFile file ∧
      file.displayName? = some name ∧ files.read path = .ok bytes ∧
      exchanges = [⟨.listFiles, .ok contents.files⟩,
        ⟨.uploadFile ⟨name, path.mediaType?, bytes⟩, .ok file⟩] := by
  cases handled with
  | nil => cases course
  | cons first others =>
    cases course with
    | unlisted error =>
      cases first
      cases others
      exact .inl ⟨_, rfl, rfl, fun answered => (answered.failed_notMem (.head _)).elim⟩
    | found present =>
      cases first
      cases others
      exact .inr (.inl ⟨_, rfl, present, rfl, rfl⟩)
    | unread absent unread =>
      cases first
      cases others
      exact .inl ⟨_, rfl, rfl, fun _ => ⟨absent, _, unread⟩⟩
    | refused error absent read =>
      cases first
      rcases others with _ | ⟨⟨⟩, ⟨⟩⟩
      exact .inl ⟨_, rfl, rfl, fun answered =>
        (answered.failed_notMem (.tail _ (.head _))).elim⟩
    | uploaded file absent read =>
      cases first
      rcases others with _ | ⟨_ | ⟨_⟩, ⟨⟩⟩
      exact .inr (.inr ⟨file, _, rfl, absent, rfl, ‹_›, read, rfl⟩)

/-- A file that is obtained is listed from then on. -/
theorem FileCourse.lists {name : String} {path : Path} {file : UploadedFile}
    (course : FileCourse files name path exchanges (.ok file))
    (handled : contents.HandlesAll exchanges last) : last.file? name = some file := by
  obtain ⟨_, ⟨⟩, -⟩ | ⟨_, ⟨⟩, listed, rfl, -⟩ | ⟨_, _, ⟨⟩, absent, rfl, named, -⟩ :=
    course.handled handled
  · exact listed
  · rw [file?] at absent ⊢
    rw [addFile, List.find?_append, absent]
    simp [named]

theorem FileCourse.fresh {name : String} {path : Path} {result : Except AdviceError UploadedFile}
    (course : FileCourse files name path exchanges result)
    (handled : contents.HandlesAll exchanges last) : contents.Fresh exchanges := by
  obtain ⟨_, -, rfl, -⟩ | ⟨_, -, -, rfl, -⟩ | ⟨_, _, -, absent, -, -, -, rfl⟩ :=
    course.handled handled
  · exact handled.fresh_still
  · exact handled.fresh_still
  · exact ⟨.singleton (file?_eq_none.mp absent), .nil _⟩

/-- Whatever a walk meets, and wherever it stops. -/
theorem VisitsCourse.fresh {name : Path → String} {accepts : Path → Bool} {visits : List Visit}
    {result : Except AdviceError (List UploadedFile)}
    (course : VisitsCourse files name accepts visits exchanges result)
    (handled : contents.HandlesAll exchanges last) : contents.Fresh exchanges :=
  VisitsCourse.of_closed fresh_closed (fun _ _ _ _ course _ _ => course.fresh) visits _ _ course _ _
    handled

end Provision

namespace Advisor

open Provision Contents

variable {σ : Type} {advisor : Advisor σ} {question : Question} {files : FileSystem}
  {contents last : Contents} {exchanges : List Exchange}

theorem CardCourse.fresh {model : String} {result : Except AdviceError ModelCard}
    (course : CardCourse model exchanges result) : contents.Fresh exchanges := by
  cases course <;> exact ⟨.nil _, .nil _⟩

variable [MediaTypes]

theorem PrepareCourse.fresh {result : Except AdviceError ModelRequest}
    (course : PrepareCourse advisor question files exchanges result)
    (handled : contents.HandlesAll exchanges last) : contents.Fresh exchanges :=
  PrepareCourse.of_closed fresh_closed (fun _ _ _ _ course _ _ => course.fresh)
    (fun _ _ _ course _ _ => course.fresh) (fun _ _ _ course _ _ _ => course.fresh) _ _ course _ _
    handled

/-- A whole answer adds nothing under a display name that is there. -/
theorem Course.fresh {result : Except AdviceError String}
    (course : Course advisor question files exchanges result)
    (handled : contents.HandlesAll exchanges last) : contents.Fresh exchanges := by
  cases course with
  | unprepared prepared => exact prepared.fresh handled
  | refused prepared error | generated prepared reply =>
    obtain ⟨next, here, there⟩ := handled.split
    exact (prepared.fresh here).append here ⟨.nil _, .nil _⟩

end Advisor

end BattleAdvisor
