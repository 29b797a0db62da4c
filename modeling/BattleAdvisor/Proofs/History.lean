import BattleAdvisor.Advice.CommonTypes
import BattleAdvisor.Proofs.Contents

/-!
# Histories

A history is what comes of steps that are taken one after another with the same service: a file, a
directory or a cache is obtained, or a question is answered. Each step has its own files and its own
choices. The steps meet only in what the service holds.

**Theorem (`history_consistent`).** In every history with a depot, whatever calls fail: what is
listed stays listed, in its place; under each display name at most one file is uploaded and at most
one cache created, and none if there was one at first; and all steps that obtain a file or a cache
under one display name obtain the same.
-/

namespace BattleAdvisor

open Provision

variable {σ : Type}

/-! ## Steps -/

/-- What a step is to do. -/
inductive Task where
  | file (displayName : String) (path : Path)
  | directory (start : String) (dir : Path) (accepts : Path → Bool)
  | cache (model displayName systemInstruction : String) (files : List UploadedFile)
  | advice (preferences : Preferences) (templates : Templates) (notes : Notes)
      (question : Question)

namespace Task

/-- What a task gives. -/
@[reducible] def Result : Task → Type
  | .file .. => UploadedFile
  | .directory .. => List UploadedFile
  | .cache .. => ContentCache
  | .advice .. => String

variable [MediaTypes]

/-- The part of a run that a task stands for. -/
def action (service : Service σ) : (task : Task) → Action σ task.Result
  | .file displayName path => obtainFile service displayName path
  | .directory start dir accepts => obtainDirectory service start dir accepts
  | .cache model displayName systemInstruction files =>
    obtainCache service model displayName systemInstruction files
  | .advice preferences templates notes question =>
    (Advisor.mk service preferences templates notes).advise question

/-- The courses of a task. -/
def Course (service : Service σ) : (task : Task) → FileSystem → List Exchange →
    Except AdviceError task.Result → Prop
  | .file displayName path, files => FileCourse files displayName path
  | .directory start dir accepts, files =>
    VisitsCourse files (displayName start dir) accepts (files.walk dir)
  | .cache model displayName systemInstruction uploads, _ =>
    CacheCourse ⟨model, displayName, systemInstruction, uploads, cacheLifetime⟩
  | .advice preferences templates notes question, files =>
    let advisor := Advisor.mk service preferences templates notes
    Advisor.Course advisor question (advisor.filesAfterPrompt question files)

theorem action_course (service : Service σ) (task : Task) (world : World σ) :
    ∃ result next exchanges, (task.action service).start world = (result, next) ∧
      world.Goes service exchanges next ∧ task.Course service world.files exchanges result := by
  cases task with
  | file displayName path =>
    obtain ⟨result, next, exchanges, run, goes, -, course⟩ :=
      obtainFile_course service displayName path world
    exact ⟨result, next, exchanges, run, goes, course⟩
  | directory start dir accepts =>
    obtain ⟨result, next, exchanges, run, goes, -, course⟩ :=
      obtainDirectory_course service start dir accepts world
    exact ⟨result, next, exchanges, run, goes, course⟩
  | cache model displayName systemInstruction files =>
    obtain ⟨result, next, exchanges, run, goes, -, course⟩ :=
      obtainCache_course service model displayName systemInstruction files world
    exact ⟨result, next, exchanges, run, goes, course⟩
  | advice preferences templates notes question =>
    exact (Advisor.mk service preferences templates notes).advise_course question world

theorem Course.fresh {service : Service σ} {task : Task} {files : FileSystem}
    {exchanges : List Exchange} {result : Except AdviceError task.Result}
    {contents last : Contents} (course : task.Course service files exchanges result)
    (handled : contents.HandlesAll exchanges last) : contents.Fresh exchanges := by
  cases task with
  | file => exact FileCourse.fresh course handled
  | directory => exact VisitsCourse.fresh course handled
  | cache => exact CacheCourse.fresh course handled
  | advice => exact Advisor.Course.fresh course handled

end Task

/-- A task, and the files as they are when it begins. -/
structure Step where
  task : Task
  files : FileSystem

/-- A step, what came of it, and what it said to the service. -/
structure Event where
  step : Step
  result : Except AdviceError step.task.Result
  exchanges : List Exchange

/-- All that was said to the service. -/
def conversation (events : List Event) : List Exchange :=
  events.flatMap (·.exchanges)

theorem conversation_of_mem {events : List Event} {event : Event} (h : event ∈ events) :
    ∃ before after, conversation events = before ++ event.exchanges ++ after := by
  obtain ⟨before, after, rfl⟩ := List.append_of_mem h
  exact ⟨conversation before, conversation after, by simp [conversation]⟩

/-- A part of what is said leads from contents to contents, behind which nothing is lost. -/
theorem Contents.HandlesAll.part {contents last : Contents} {before during after : List Exchange}
    (handled : contents.HandlesAll (before ++ during ++ after) last) :
    ∃ here there : Contents, here.HandlesAll during there ∧ there.Within last := by
  obtain ⟨there, handled, later⟩ := handled.split
  obtain ⟨here, -, handled⟩ := handled.split
  exact ⟨here, there, handled, later.within⟩

section

variable [MediaTypes]

/-- Takes a step. -/
def Step.take (service : Service σ) (step : Step) (state : σ) : Event × σ :=
  let run := (step.task.action service).start (.start state step.files)
  (⟨step, run.1, run.2.exchanges⟩, run.2.remote)

/-- Takes steps one after another. -/
def history (service : Service σ) : List Step → σ → List Event × σ
  | [], state => ([], state)
  | step :: steps, state =>
    let (event, next) := step.take service state
    let (events, last) := history service steps next
    (event :: events, last)

/-- An event takes a course of its task. -/
def Event.Follows (service : Service σ) (event : Event) : Prop :=
  event.step.task.Course service event.step.files event.exchanges event.result

theorem Step.take_course (service : Service σ) (step : Step) (state : σ) :
    (step.take service state).1.Follows service ∧
      service.Served state (step.take service state).1.exchanges (step.take service state).2 := by
  obtain ⟨result, next, exchanges, run, goes, course⟩ :=
    step.task.action_course service (.start state step.files)
  have recorded : next.exchanges = exchanges := goes.recorded
  unfold take Event.Follows
  simp only [run, recorded]
  exact ⟨course, goes.served⟩

theorem history_course (service : Service σ) (steps : List Step) (state : σ) :
    (∀ event ∈ (history service steps state).1, event.Follows service) ∧
      service.Served state (conversation (history service steps state).1)
        (history service steps state).2 := by
  induction steps generalizing state with
  | nil => exact ⟨by simp [history], .nil state⟩
  | cons step steps ih =>
    obtain ⟨course, served⟩ := step.take_course service state
    obtain ⟨courses, served'⟩ := ih (step.take service state).2
    exact ⟨List.forall_mem_cons.mpr ⟨course, courses⟩, served.append served'⟩

/-- Steps that follow their courses add nothing under a display name that is there. -/
theorem fresh_conversation {service : Service σ} {events : List Event} {contents last : Contents}
    (courses : ∀ event ∈ events, event.Follows service)
    (handled : contents.HandlesAll (conversation events) last) :
    contents.Fresh (conversation events) := by
  induction events generalizing contents with
  | nil => exact Contents.fresh_nil contents
  | cons event events ih =>
    obtain ⟨course, courses⟩ := List.forall_mem_cons.mp courses
    obtain ⟨next, here, there⟩ := handled.split
    exact (Task.Course.fresh course here).append here (ih courses there)

/-! ## What steps obtain -/

/-- A step obtained a file under a display name. -/
inductive Event.ObtainedFile (name : String) (file : UploadedFile) : Event → Prop
  /-- The step was to obtain it. -/
  | file {files : FileSystem} {path : Path} {exchanges : List Exchange} :
      ObtainedFile name file ⟨⟨.file name path, files⟩, .ok file, exchanges⟩
  /-- The step obtained a directory, of which it is a part. -/
  | directory {files : FileSystem} {start : String} {dir : Path} {accepts : Path → Bool}
      {uploads : List UploadedFile} {exchanges : List Exchange}
      (part : (name, file) ∈
        (wantedNames files (displayName start dir) accepts (files.walk dir)).zip uploads) :
      ObtainedFile name file ⟨⟨.directory start dir accepts, files⟩, .ok uploads, exchanges⟩
  /-- It was obtained in the course of the step, whatever came of that later. -/
  | within {event : Event} {before part after : List Exchange} {files : FileSystem} {path : Path}
      (split : event.exchanges = before ++ part ++ after)
      (course : FileCourse files name path part (.ok file)) : ObtainedFile name file event

/-- A step obtained a cache under a display name. -/
inductive Event.ObtainedCache (name : String) (cache : ContentCache) : Event → Prop
  /-- The step was to obtain it. -/
  | cache {files : FileSystem} {model systemInstruction : String} {uploads : List UploadedFile}
      {exchanges : List Exchange} :
      ObtainedCache name cache
        ⟨⟨.cache model name systemInstruction uploads, files⟩, .ok cache, exchanges⟩
  /-- It was obtained in the course of the step, whatever came of that later. -/
  | within {event : Event} {before part after : List Exchange} {request : CacheRequest}
      (split : event.exchanges = before ++ part ++ after) (named : request.displayName = name)
      (course : CacheCourse request part (.ok cache)) : ObtainedCache name cache event

/-- Each file of a directory is obtained in a part of the course. -/
theorem Provision.VisitsCourse.obtained {files : FileSystem} {name : Path → String}
    {accepts : Path → Bool} {visits : List Visit} {exchanges : List Exchange}
    {result : Except AdviceError (List UploadedFile)} {uploads : List UploadedFile}
    (course : VisitsCourse files name accepts visits exchanges result)
    (h : result = .ok uploads) {pair : String × UploadedFile}
    (part : pair ∈ (wantedNames files name accepts visits).zip uploads) :
    ∃ before steps after path, exchanges = before ++ steps ++ after ∧
      FileCourse files pair.1 path steps (.ok pair.2) := by
  induction course generalizing uploads with
  | done => simp [wantedNames] at part
  | unwalkable | stopped => cases h
  | passed unwanted others ih =>
    rw [wantedNames_cons_ok, unwanted] at part
    exact ih h part
  | @taken path rest before after file result wanted first others ih =>
    cases result with
    | error => cases h
    | ok found =>
      cases h
      rw [wantedNames_cons_ok, if_pos wanted, List.zip_cons_cons] at part
      rcases List.mem_cons.mp part with rfl | part
      · exact ⟨[], before, after, path, rfl, first⟩
      · obtain ⟨before', steps, after', path, rfl, course⟩ := ih rfl part
        exact ⟨before ++ before', steps, after', path, by simp, course⟩

/-- Each wanted file of a directory is obtained. -/
theorem Provision.VisitsCourse.length_eq {files : FileSystem} {name : Path → String}
    {accepts : Path → Bool} {visits : List Visit} {exchanges : List Exchange}
    {uploads : List UploadedFile}
    (course : VisitsCourse files name accepts visits exchanges (.ok uploads)) :
    (wantedNames files name accepts visits).length = uploads.length := by
  have ensured := course.ensured rfl
  clear course
  generalize wantedNames files name accepts visits = names at ensured
  induction ensured with
  | nil => rfl
  | found _ _ ih | uploaded _ _ _ ih => exact congrArg (· + 1) ih

namespace Event

theorem ObtainedFile.part {service : Service σ} {event : Event} {name : String}
    {file : UploadedFile} (h : event.ObtainedFile name file) (follows : event.Follows service) :
    ∃ before steps after files path, event.exchanges = before ++ steps ++ after ∧
      FileCourse files name path steps (.ok file) := by
  cases h with
  | file => exact ⟨[], _, [], _, _, by simp, follows⟩
  | directory part =>
    obtain ⟨before, steps, after, path, split, course⟩ :=
      VisitsCourse.obtained follows rfl part
    exact ⟨before, steps, after, _, path, split, course⟩
  | within split course => exact ⟨_, _, _, _, _, split, course⟩

theorem ObtainedCache.part {service : Service σ} {event : Event} {name : String}
    {cache : ContentCache} (h : event.ObtainedCache name cache) (follows : event.Follows service) :
    ∃ before steps after request, event.exchanges = before ++ steps ++ after ∧
      request.displayName = name ∧ CacheCourse request steps (.ok cache) := by
  cases h with
  | cache => exact ⟨[], _, [], _, by simp, rfl, follows⟩
  | within split named course => exact ⟨_, _, _, _, split, named, course⟩

end Event

namespace Contents

variable {contents last : Contents} {service : Service σ} {events : List Event} {event : Event}
  {name : String}

/-- What a step obtained is the first thing that is listed under its display name in the end. -/
theorem HandlesAll.lists_file (handled : contents.HandlesAll (conversation events) last)
    (here : event ∈ events) (follows : event.Follows service) {file : UploadedFile}
    (obtained : event.ObtainedFile name file) : last.file? name = some file := by
  obtain ⟨before, after, split⟩ := conversation_of_mem here
  obtain ⟨_, _, handled, within⟩ := (split ▸ handled).part
  obtain ⟨before, steps, after, files, path, split, course⟩ := obtained.part follows
  obtain ⟨_, _, handled, within'⟩ := (split ▸ handled).part
  exact within.file?_eq (within'.file?_eq (course.lists handled))

theorem HandlesAll.lists_cache (handled : contents.HandlesAll (conversation events) last)
    (here : event ∈ events) (follows : event.Follows service) {cache : ContentCache}
    (obtained : event.ObtainedCache name cache) : last.cache? name = some cache := by
  obtain ⟨before, after, split⟩ := conversation_of_mem here
  obtain ⟨_, _, handled, within⟩ := (split ▸ handled).part
  obtain ⟨before, steps, after, request, split, rfl, course⟩ := obtained.part follows
  obtain ⟨_, _, handled, within'⟩ := (split ▸ handled).part
  exact within.cache?_eq (within'.cache?_eq (course.lists handled))

end Contents

/-! ## Consistency -/

/-- What holds of a history with a depot that goes from the first state to the last. -/
structure Depot.Consistent (depot : Depot σ) (first : σ) (events : List Event) (last : σ) :
    Prop where
  /-- The calls of all steps are answered one after another. -/
  served : depot.service.Served first (conversation events) last
  /-- At any two moments, what is held at the earlier one begins what is held at the later one. -/
  lasting : ∀ before during after earlier later,
    conversation events = before ++ during ++ after →
    depot.service.Served first before earlier → depot.service.Served earlier during later →
      (depot.contents earlier).Within (depot.contents later)
  /-- What is uploaded has new display names, each at most once. -/
  uploads : NewTo (depot.contents first).fileNames (uploadedNames (conversation events))
  /-- What is created has new display names, each at most once. -/
  creations : NewTo (depot.contents first).cacheNames (createdNames (conversation events))
  distinctFiles : (depot.contents first).fileNames.Nodup → (depot.contents last).fileNames.Nodup
  distinctCaches :
    (depot.contents first).cacheNames.Nodup → (depot.contents last).cacheNames.Nodup
  /-- A directory that is obtained comes to one file for each wanted name, in their order. -/
  directories : ∀ files start dir accepts uploads exchanges,
    ⟨⟨.directory start dir accepts, files⟩, .ok uploads, exchanges⟩ ∈ events →
      (wantedNames files (displayName start dir) accepts (files.walk dir)).length = uploads.length
  /-- Whatever the paths are, one display name stands for one file. -/
  sameFile : ∀ event ∈ events, ∀ other ∈ events, ∀ name file file',
    event.ObtainedFile name file → other.ObtainedFile name file' → file = file'
  /-- Whatever the models, instructions and files are, one display name stands for one cache. -/
  sameCache : ∀ event ∈ events, ∀ other ∈ events, ∀ name cache cache',
    event.ObtainedCache name cache → other.ObtainedCache name cache' → cache = cache'

/-- Every history with a depot is consistent. -/
theorem history_consistent (depot : Depot σ) (steps : List Step) (first : σ)
    (sound : depot.Sound first) :
    depot.Consistent first (history depot.service steps first).1
      (history depot.service steps first).2 := by
  obtain ⟨courses, served⟩ := history_course depot.service steps first
  obtain ⟨-, handled⟩ := Depot.served sound served
  have fresh := fresh_conversation courses handled
  exact {
    served := served
    lasting := fun before during after earlier later split here there =>
      (Depot.served (Depot.served sound here).1 there).2.within
    uploads := fresh.files
    creations := fresh.caches
    distinctFiles := fun distinct => handled.fileNames ▸ fresh.files.nodup distinct
    distinctCaches := fun distinct => handled.cacheNames ▸ fresh.caches.nodup distinct
    directories := fun files start dir accepts uploads exchanges here =>
      VisitsCourse.length_eq (courses _ here)
    sameFile := fun event here other there name file file' obtained obtained' =>
      Option.some.inj ((handled.lists_file here (courses event here) obtained).symm.trans
        (handled.lists_file there (courses other there) obtained'))
    sameCache := fun event here other there name cache cache' obtained obtained' =>
      Option.some.inj ((handled.lists_cache here (courses event here) obtained).symm.trans
        (handled.lists_cache there (courses other there) obtained')) }

end

/-! ## A service in memory -/

/-- An empty service in memory that refuses the first upload. -/
def busyStore : Store where
  files := []
  caches := []
  model? := none
  replies := []
  breakdowns := [⟨.uploadFile, some 1, .api 503 "busy"⟩]
  keeps := true
  history := []

/-- Steps for one display name: with a file, with the file again, and with a path to nothing. -/
def rulesSteps : List Step :=
  let files : FileSystem := ⟨.directory [([0x61], .file [0x2E])], []⟩
  let step (byte : UInt8) : Step := ⟨.file "rules" ⟨[byte]⟩, files⟩
  [step 0x61, step 0x61, step 0x62]

/-- The first step is refused, the second uploads the file, and the third finds it. -/
theorem history_of_rules :
    Store.depot.Sound busyStore ∧
    (history Store.service rulesSteps busyStore).1.map (operations ·.exchanges) =
      [[.listFiles, .uploadFile], [.listFiles, .uploadFile], [.listFiles]] ∧
    Store.depot.Consistent busyStore (history Store.service rulesSteps busyStore).1
      (history Store.service rulesSteps busyStore).2 :=
  ⟨rfl, by decide +kernel, history_consistent Store.depot rulesSteps busyStore rfl⟩

end BattleAdvisor
