import BattleAdvisor.Proofs.History

/-!
# Resumption

A run that stopped at a failure is started again. What it had provided is found now, and it goes on
from there.

`Stock.Resumable` says of a part of a run that attempts do no harm: wherever an attempt stops, a run
without failures comes to the same result and the same contents as it would have before. It goes
on to parts in sequence (`Resumable.bind`), so that it holds of a whole answer because it holds of a
file, a cache and a model.

**Theorem (`advice_resumes`).** After any attempts at a question, whatever calls failed in them, one
more run in which no call fails has the model generate on the same request, and leaves the same
files and caches, as a single run without failures at the beginning. It uploads and creates nothing
if an attempt had got as far as the model.
-/

namespace BattleAdvisor

open Provision

/-! ## What a service makes -/

/-- How a service makes files and caches, and its models. -/
structure Stock where
  newFile : Contents → Upload → UploadedFile
  newCache : Contents → CacheRequest → ContentCache
  card : String → ModelCard
  file_named : ∀ contents upload,
    (newFile contents upload).displayName? = some upload.displayName
  cache_named : ∀ contents request,
    (newCache contents request).displayName? = some request.displayName

namespace Stock

variable (stock : Stock)

/-- What an exchange makes is what is made of such contents. -/
def Made (contents : Contents) : Exchange → Prop
  | ⟨.uploadFile upload, .ok file⟩ => file = stock.newFile contents upload
  | ⟨.createCache request, .ok cache⟩ => cache = stock.newCache contents request
  | ⟨.getModel model, .ok card⟩ => card = stock.card model
  | _ => True

/-- What exchanges do to the contents, one after another, if all they make is as it is made. -/
inductive Supplies : Contents → List Exchange → Contents → Prop
  | nil (contents : Contents) : Supplies contents [] contents
  | cons {contents next last : Contents} {exchange : Exchange} {exchanges : List Exchange}
      (first : contents.Handles exchange next) (made : stock.Made contents exchange)
      (others : Supplies next exchanges last) : Supplies contents (exchange :: exchanges) last

end Stock

/-- A depot makes what is new as the stock says. -/
def Depot.Makes {σ : Type} (depot : Depot σ) (stock : Stock) : Prop :=
  ∀ (call : Call) (state : σ), depot.Sound state →
    stock.Made (depot.contents state) ⟨call, (depot.service.answer call state).1.result⟩

theorem Depot.Makes.supplies {σ : Type} {depot : Depot σ} {stock : Stock}
    (makes : depot.Makes stock) {state last : σ} {exchanges : List Exchange}
    (sound : depot.Sound state) (h : depot.service.Served state exchanges last) :
    stock.Supplies (depot.contents state) exchanges (depot.contents last) := by
  induction h with
  | nil => exact .nil _
  | @cons state next last call outcome exchanges answered others ih =>
    have handles := depot.handles call state sound
    have made := makes call state sound
    have stays := depot.stays call state sound
    rw [answered] at handles made stays
    exact .cons handles made (ih stays)

namespace Stock

variable {stock : Stock} {contents next last : Contents} {exchanges before after : List Exchange}

theorem Supplies.handled (h : stock.Supplies contents exchanges last) :
    contents.HandlesAll exchanges last := by
  induction h with
  | nil => exact .nil _
  | cons first made others ih => exact .cons first ih

theorem Supplies.append (h : stock.Supplies contents before next)
    (h' : stock.Supplies next after last) : stock.Supplies contents (before ++ after) last := by
  induction h with
  | nil => exact h'
  | cons first made others ih => exact .cons first made (ih h')

theorem Supplies.split (h : stock.Supplies contents (before ++ after) last) :
    ∃ next, stock.Supplies contents before next ∧ stock.Supplies next after last := by
  induction before generalizing contents with
  | nil => exact ⟨contents, .nil contents, h⟩
  | cons exchange before ih =>
    cases h with
    | cons first made others =>
      obtain ⟨next, h, h'⟩ := ih others
      exact ⟨next, .cons first made h, h'⟩

end Stock

/-! ## Parts that can be resumed -/

namespace Stock

/-- Without a failure the part comes to the value, and to the last contents. -/
def Comes {α : Type} (stock : Stock) (course : Courses α) (contents : Contents) (a : α)
    (last : Contents) : Prop :=
  ∃ exchanges, course exchanges (.ok a) ∧ stock.Supplies contents exchanges last

/-- Attempts at a part of a run do no harm. -/
structure Resumable {α : Type} (stock : Stock) (course : Courses α) : Prop where
  /-- A failing call ends the part. -/
  answered : ∀ {exchanges : List Exchange} {a : α}, course exchanges (.ok a) → Answered exchanges
  /-- An attempt in which no call fails comes to what is to come. -/
  completes : ∀ {contents last next : Contents} {a : α} {exchanges : List Exchange}
    {result : Except AdviceError α}, stock.Comes course contents a last →
    course exchanges result → stock.Supplies contents exchanges next → Answered exchanges →
      result = .ok a ∧ next = last
  /-- Any attempt leaves what is to come as it is. -/
  resumes : ∀ {contents last next : Contents} {a : α} {exchanges : List Exchange}
    {result : Except AdviceError α}, stock.Comes course contents a last →
    course exchanges result → stock.Supplies contents exchanges next →
      stock.Comes course next a last
  /-- What was provided needs nothing more later. -/
  settled : ∀ {contents last later : Contents} {a : α}, stock.Comes course contents a last →
    last.Within later → stock.Comes course later a later

variable {stock : Stock} {α β : Type}

theorem resumable_done (a : α) : stock.Resumable (Courses.Done a) where
  answered := by
    rintro exchanges a ⟨rfl, -⟩
    exact answered_nil
  completes := by
    rintro contents last next b exchanges result ⟨_, ⟨rfl, same⟩, ⟨⟩⟩ ⟨rfl, rfl⟩ ⟨⟩ -
    exact ⟨same.symm, rfl⟩
  resumes := by
    rintro contents last next b exchanges result clean ⟨rfl, rfl⟩ ⟨⟩
    exact clean
  settled := by
    rintro contents last later b ⟨exchanges, ⟨rfl, same⟩, -⟩ -
    exact ⟨[], ⟨rfl, same⟩, .nil later⟩

/-- What is stuck comes to nothing anyway. -/
theorem resumable_stuck (error : AdviceError) :
    stock.Resumable (Courses.Stuck error : Courses α) where
  answered h := nomatch h.2
  completes clean := nomatch clean.choose_spec.1.2
  resumes clean := nomatch clean.choose_spec.1.2
  settled clean := nomatch clean.choose_spec.1.2

theorem Comes.bind {course : Courses α} {rest : α → Courses β} {contents next last : Contents}
    {a : α} {b : β} (h : stock.Comes course contents a next)
    (h' : stock.Comes (rest a) next b last) :
    stock.Comes (Courses.Then course rest) contents b last := by
  obtain ⟨before, here, supplied⟩ := h
  obtain ⟨after, there, supplied'⟩ := h'
  exact ⟨before ++ after, .continued here there, supplied.append supplied'⟩

theorem Comes.split {course : Courses α} {rest : α → Courses β} {contents last : Contents}
    {b : β} (h : stock.Comes (Courses.Then course rest) contents b last) :
    ∃ a next, stock.Comes course contents a next ∧ stock.Comes (rest a) next b last := by
  obtain ⟨_, ⟨⟩ | ⟨here, there⟩, supplied⟩ := h
  obtain ⟨next, supplied, supplied'⟩ := supplied.split
  exact ⟨_, next, ⟨_, here, supplied⟩, _, there, supplied'⟩

theorem Comes.within {course : Courses α} {contents last : Contents} {a : α}
    (h : stock.Comes course contents a last) : contents.Within last := by
  obtain ⟨exchanges, -, supplied⟩ := h
  exact supplied.handled.within

theorem Resumable.bind {course : Courses α} {rest : α → Courses β}
    (first : stock.Resumable course) (second : ∀ a, stock.Resumable (rest a)) :
    stock.Resumable (Courses.Then course rest) where
  answered := by
    rintro _ b (_ | ⟨here, there⟩)
    exact (answered_append _ _).mpr ⟨first.answered here, (second _).answered there⟩
  completes := by
    rintro contents last next b exchanges result clean course supplied answered
    obtain ⟨a, middle, here, there⟩ := clean.split
    cases course with
    | stopped failed => exact nomatch (first.completes here failed supplied answered).1
    | continued here' there' =>
      obtain ⟨answered, answered'⟩ := (answered_append _ _).mp answered
      obtain ⟨next, supplied, supplied'⟩ := supplied.split
      obtain ⟨⟨⟩, rfl⟩ := first.completes here here' supplied answered
      exact (second a).completes there there' supplied' answered'
  resumes := by
    rintro contents last next b exchanges result clean course supplied
    obtain ⟨a, middle, here, there⟩ := clean.split
    cases course with
    | stopped failed => exact (first.resumes here failed supplied).bind there
    | continued here' there' =>
      -- the attempt came past the first part, which is settled from then on
      obtain ⟨next, supplied, supplied'⟩ := supplied.split
      obtain ⟨⟨⟩, rfl⟩ := first.completes here here' supplied (first.answered here')
      exact (first.settled here supplied'.handled.within).bind
        ((second a).resumes there there' supplied')
  settled := by
    rintro contents last later b clean within
    obtain ⟨a, middle, here, there⟩ := clean.split
    exact (first.settled here (there.within.trans within)).bind ((second a).settled there within)

theorem resumable_closed : Courses.Closed fun _ course => stock.Resumable course :=
  ⟨resumable_done, resumable_stuck, Resumable.bind⟩

/-- A part whose attempts either change nothing or succeed. -/
theorem Resumable.of_once {course : Courses α}
    (answered : ∀ {exchanges : List Exchange} {a : α},
      course exchanges (.ok a) → Answered exchanges)
    (completes : ∀ {contents last next : Contents} {a : α} {exchanges : List Exchange}
      {result : Except AdviceError α}, stock.Comes course contents a last →
      course exchanges result → stock.Supplies contents exchanges next → Answered exchanges →
        result = .ok a ∧ next = last)
    (once : ∀ {contents next : Contents} {exchanges : List Exchange}
      {result : Except AdviceError α}, course exchanges result →
      stock.Supplies contents exchanges next → next = contents ∨ ∃ a, result = .ok a)
    (settled : ∀ {contents last later : Contents} {a : α}, stock.Comes course contents a last →
      last.Within later → stock.Comes course later a later) : stock.Resumable course where
  answered := answered
  completes := completes
  resumes := by
    intro contents last next a exchanges result clean attempt supplied
    obtain rfl | ⟨b, rfl⟩ := once attempt supplied
    · exact clean
    · obtain ⟨-, rfl⟩ := completes clean attempt supplied (answered attempt)
      exact settled clean (.refl next)
  settled := settled

/-! ## Provision -/

theorem Supplies.uploaded {contents last : Contents} {listing : List UploadedFile} {upload : Upload}
    {file : UploadedFile}
    (h : stock.Supplies contents [⟨.listFiles, .ok listing⟩, ⟨.uploadFile upload, .ok file⟩] last) :
    file = stock.newFile contents upload := by
  obtain _ | ⟨⟨⟩, -, _ | ⟨-, made, -⟩⟩ := h
  exact made

theorem Supplies.created {contents last : Contents} {listing : List ContentCache}
    {request : CacheRequest} {cache : ContentCache}
    (h : stock.Supplies contents
      [⟨.listCaches, .ok listing⟩, ⟨.createCache request, .ok cache⟩] last) :
    cache = stock.newCache contents request := by
  obtain _ | ⟨⟨⟩, -, _ | ⟨-, made, -⟩⟩ := h
  exact made

end Stock

namespace Provision

variable (stock : Stock)

theorem FileCourse.resumable [MediaTypes] (files : FileSystem) (name : String) (path : Path) :
    stock.Resumable (FileCourse files name path) := by
  refine .of_once ?answered ?completes ?once ?settled
  case answered =>
    intro exchanges file course
    cases course <;> simp [Except.isOk, Except.toBool]
  case completes =>
    rintro contents last next file exchanges result ⟨_, clean, supplied⟩ course supplied' answered
    obtain ⟨_, ⟨⟩, -⟩ | ⟨_, ⟨⟩, listed, rfl, -⟩ | ⟨_, bytes, ⟨⟩, absent, rfl, -, read, rfl⟩ :=
      clean.handled supplied.handled
    all_goals obtain ⟨_, rfl, rfl, why⟩ | ⟨other, rfl, listed', rfl, -⟩ |
      ⟨other, bytes', rfl, absent', rfl, -, read', rfl⟩ := course.handled supplied'.handled
    · exact nomatch listed.symm.trans (why answered).1
    · exact ⟨congrArg _ (Option.some.inj (listed'.symm.trans listed)), rfl⟩
    · exact nomatch listed.symm.trans absent'
    · obtain ⟨_, error, unread⟩ := why answered
      exact nomatch read.symm.trans unread
    · exact nomatch listed'.symm.trans absent
    · obtain rfl := Except.ok.inj (read.symm.trans read')
      rw [supplied.uploaded, supplied'.uploaded]
      exact ⟨rfl, rfl⟩
  case once =>
    intro contents next exchanges result course supplied
    obtain ⟨_, -, rfl, -⟩ | ⟨file, rfl, -⟩ | ⟨file, _, rfl, -⟩ := course.handled supplied.handled
    · exact .inl rfl
    · exact .inr ⟨file, rfl⟩
    · exact .inr ⟨file, rfl⟩
  case settled =>
    rintro contents last later file ⟨_, clean, supplied⟩ within
    have listed := within.file?_eq (clean.lists supplied.handled)
    exact ⟨_, .found listed, .cons .listFiles trivial (.nil later)⟩

theorem CacheCourse.resumable (request : CacheRequest) :
    stock.Resumable (CacheCourse request) := by
  refine .of_once ?answered ?completes ?once ?settled
  case answered =>
    intro exchanges cache course
    cases course <;> simp [Except.isOk, Except.toBool]
  case completes =>
    rintro contents last next cache exchanges result ⟨_, clean, supplied⟩ course supplied' answered
    obtain ⟨_, ⟨⟩, -⟩ | ⟨_, ⟨⟩, listed, rfl, -⟩ | ⟨_, ⟨⟩, absent, rfl, -, rfl⟩ :=
      clean.handled supplied.handled
    all_goals obtain ⟨_, rfl, rfl, failed⟩ | ⟨other, rfl, listed', rfl, -⟩ |
      ⟨other, rfl, absent', rfl, -, rfl⟩ := course.handled supplied'.handled
    · exact absurd answered failed
    · exact ⟨congrArg _ (Option.some.inj (listed'.symm.trans listed)), rfl⟩
    · exact nomatch listed.symm.trans absent'
    · exact absurd answered failed
    · exact nomatch listed'.symm.trans absent
    · rw [supplied.created, supplied'.created]
      exact ⟨rfl, rfl⟩
  case once =>
    intro contents next exchanges result course supplied
    obtain ⟨_, -, rfl, -⟩ | ⟨cache, rfl, -⟩ | ⟨cache, rfl, -⟩ := course.handled supplied.handled
    · exact .inl rfl
    · exact .inr ⟨cache, rfl⟩
    · exact .inr ⟨cache, rfl⟩
  case settled =>
    rintro contents last later cache ⟨_, clean, supplied⟩ within
    have listed := within.cache?_eq (clean.lists supplied.handled)
    exact ⟨_, .found listed, .cons .listCaches trivial (.nil later)⟩

end Provision

/-! ## Answers -/

namespace Advisor

theorem CardCourse.resumable (stock : Stock) (model : String) :
    stock.Resumable (CardCourse model) := by
  refine .of_once ?answered ?completes ?once ?settled
  case answered =>
    rintro _ card ⟨⟩
    simp [Except.isOk, Except.toBool]
  case completes =>
    rintro contents last next card exchanges result ⟨_, ⟨⟩, supplied⟩ course supplied' answered
    obtain _ | ⟨⟨⟩, rfl, ⟨⟩⟩ := supplied
    cases course with
    | refused error => exact (answered.failed_notMem (.head _)).elim
    | found card =>
      obtain _ | ⟨⟨⟩, rfl, ⟨⟩⟩ := supplied'
      exact ⟨rfl, rfl⟩
  case once =>
    rintro contents next exchanges result (error | card) supplied
    · obtain _ | ⟨⟨⟩, -, ⟨⟩⟩ := supplied
      exact .inl rfl
    · exact .inr ⟨card, rfl⟩
  case settled =>
    rintro contents last later card ⟨_, ⟨⟩, supplied⟩ -
    obtain _ | ⟨⟨⟩, made, -⟩ := supplied
    exact ⟨_, .found card, .cons (.getModel model card) made (.nil later)⟩

variable [MediaTypes] {σ : Type} (stock : Stock) (advisor : Advisor σ) (question : Question)
  (files : FileSystem)

/-- Everything before the model generates can be resumed. -/
theorem PrepareCourse.resumable : stock.Resumable (PrepareCourse advisor question files) :=
  PrepareCourse.of_closed Stock.resumable_closed (FileCourse.resumable stock files)
    (CacheCourse.resumable stock) (CardCourse.resumable stock)

variable {stock advisor question files} {contents next last : Contents} {request : ModelRequest}
  {exchanges : List Exchange} {result : Except AdviceError String}

/-- An attempt at an answer leaves the request that is to come as it is. If it gets as far as the
model, nothing is left to be provided. -/
theorem Course.resumes
    (clean : stock.Comes (PrepareCourse advisor question files) contents request last)
    (course : Course advisor question files exchanges result)
    (supplied : stock.Supplies contents exchanges next) :
    stock.Comes (PrepareCourse advisor question files) next request last ∧
      (.generate ∈ operations exchanges → next = last) := by
  have resumable := PrepareCourse.resumable stock advisor question files
  cases course with
  | unprepared prepared =>
    exact ⟨resumable.resumes clean prepared supplied, fun h => (prepared.generate_notMem h).elim⟩
  | refused prepared error | generated prepared reply =>
    obtain ⟨middle, supplied, supplied'⟩ := supplied.split
    obtain _ | ⟨⟨⟩, -, ⟨⟩⟩ := supplied'
    obtain ⟨-, rfl⟩ := resumable.completes clean prepared supplied (resumable.answered prepared)
    exact ⟨resumable.settled clean (.refl _), fun _ => rfl⟩

/-- An attempt in which no call fails has the model generate on the request that is to come. -/
theorem Course.completes
    (clean : stock.Comes (PrepareCourse advisor question files) contents request last)
    (course : Course advisor question files exchanges result)
    (supplied : stock.Supplies contents exchanges next) (answered : Answered exchanges) :
    next = last ∧ ∃ before reply, exchanges = before ++ [⟨.generate request, .ok reply⟩] ∧
      result = textOf reply := by
  have resumable := PrepareCourse.resumable stock advisor question files
  cases course with
  | unprepared prepared =>
    exact nomatch (resumable.completes clean prepared supplied answered).1
  | refused prepared error =>
    exact (answered.failed_notMem (List.mem_append_right _ (.head _))).elim
  | generated prepared reply =>
    obtain ⟨middle, supplied, supplied'⟩ := supplied.split
    obtain _ | ⟨⟨⟩, -, ⟨⟩⟩ := supplied'
    obtain ⟨⟨⟩, rfl⟩ :=
      resumable.completes clean prepared supplied ((answered_append _ _).mp answered).1
    exact ⟨rfl, _, reply, rfl, rfl⟩

/-- A run in which no call fails comes to the request on which the model generates. -/
theorem Course.comes (course : Course advisor question files exchanges result)
    (supplied : stock.Supplies contents exchanges last) (answered : Answered exchanges)
    (reached : .generate ∈ operations exchanges) :
    ∃ request, stock.Comes (PrepareCourse advisor question files) contents request last := by
  cases course with
  | unprepared prepared => exact (prepared.generate_notMem reached).elim
  | refused prepared error =>
    exact (answered.failed_notMem (List.mem_append_right _ (.head _))).elim
  | generated prepared reply =>
    obtain ⟨middle, supplied, supplied'⟩ := supplied.split
    obtain _ | ⟨⟨⟩, -, ⟨⟩⟩ := supplied'
    exact ⟨_, _, prepared, supplied⟩

end Advisor

/-- Calls that are answered and add nothing neither upload nor create. -/
theorem Answered.silent {exchanges : List Exchange} (h : Answered exchanges)
    (still : uploadedNames exchanges = [] ∧ createdNames exchanges = []) :
    .uploadFile ∉ operations exchanges ∧ .createCache ∉ operations exchanges := by
  have silent : ∀ exchange ∈ exchanges,
      exchange.operation ≠ .uploadFile ∧ exchange.operation ≠ .createCache := by
    rintro ⟨call, result⟩ here
    have unnamed := List.filterMap_eq_nil_iff.mp still.1 _ here
    have unnamed' := List.filterMap_eq_nil_iff.mp still.2 _ here
    cases result with
    | error error => exact (h.failed_notMem here).elim
    | ok answer =>
      cases call with
      | uploadFile upload => exact nomatch unnamed
      | createCache request => exact nomatch unnamed'
      | listFiles | listCaches | getModel | generate =>
        simp [Exchange.operation, Call.operation]
  simp only [operations, List.mem_map, not_exists, not_and]
  exact ⟨fun exchange here => (silent exchange here).1,
    fun exchange here => (silent exchange here).2⟩

/-! ## Attempts -/

section

open Advisor

variable [MediaTypes] {σ : Type} {depot : Depot σ} {stock : Stock}

/-- Attempts at an answer, one after another, leave the request that is to come as it is. Behind one
that gets as far as the model, nothing is left to be provided. -/
theorem history_resumes (makes : depot.Makes stock) (preferences : Preferences)
    (templates : Templates) (question : Question) (files : FileSystem) (attempts : ℕ) {first : σ}
    (sound : depot.Sound first) {request : ModelRequest} {last : Contents}
    (clean : stock.Comes
      (PrepareCourse (Advisor.mk depot.service preferences templates .off) question files)
      (depot.contents first) request last) :
    let step : Step := ⟨.advice preferences templates .off question, files⟩
    let run := history depot.service (List.replicate attempts step) first
    stock.Comes
      (PrepareCourse (Advisor.mk depot.service preferences templates .off) question files)
      (depot.contents run.2) request last ∧
      ((∃ event ∈ run.1, .generate ∈ operations event.exchanges) →
        depot.contents run.2 = last) := by
  intro step
  induction attempts generalizing first with
  | zero => exact ⟨clean, by simp [history]⟩
  | succ attempts ih =>
    obtain ⟨course, served⟩ := step.take_course depot.service first
    have sound' := (Depot.served sound served).1
    obtain ⟨clean', reached⟩ := Course.resumes clean course (makes.supplies sound served)
    obtain ⟨clean'', reached'⟩ := ih sound' clean'
    refine ⟨clean'', ?_⟩
    rintro ⟨event, here, generates⟩
    obtain rfl | here := List.mem_cons.mp here
    · -- from here on the contents lie between what is to come and itself
      have served' := (history_course depot.service (List.replicate attempts step)
        (step.take depot.service first).2).2
      have within := (Depot.served sound' served').2.within
      exact Contents.Within.antisymm clean''.within (reached generates ▸ within)
    · exact reached' ⟨event, here, generates⟩

/-- After any attempts, a further run without failures does what a single one does. -/
theorem advice_resumes (depot : Depot σ) (stock : Stock) (makes : depot.Makes stock)
    (preferences : Preferences) (templates : Templates) (question : Question) (files : FileSystem)
    (attempts : ℕ) (first fresh : σ) (sound : depot.Sound first) (sound' : depot.Sound fresh)
    (same : depot.contents fresh = depot.contents first) :
    let advisor : Advisor σ := ⟨depot.service, preferences, templates, .off⟩
    let step : Step := ⟨.advice preferences templates .off question, files⟩
    let earlier := history depot.service (List.replicate attempts step) first
    let further := (advisor.advise question).start (.start earlier.2 files)
    let single := (advisor.advise question).start (.start fresh files)
    Answered single.2.exchanges → .generate ∈ operations single.2.exchanges →
    Answered further.2.exchanges →
      depot.contents further.2.remote = depot.contents single.2.remote ∧
      (∃ request before before' reply reply',
        further.2.exchanges = before ++ [⟨.generate request, .ok reply⟩] ∧
        single.2.exchanges = before' ++ [⟨.generate request, .ok reply'⟩] ∧
        (reply = reply' → further.1 = single.1)) ∧
      ((∃ event ∈ earlier.1, .generate ∈ operations event.exchanges) →
        .uploadFile ∉ operations further.2.exchanges ∧
        .createCache ∉ operations further.2.exchanges) := by
  intro advisor step earlier further single answered reached answered'
  obtain ⟨course, served⟩ := step.take_course depot.service fresh
  obtain ⟨course', served'⟩ := step.take_course depot.service earlier.2
  obtain ⟨request, clean⟩ :=
    Course.comes course (makes.supplies sound' served) answered reached
  have attempted := history_course depot.service (List.replicate attempts step) first
  have sound'' := (Depot.served sound attempted.2).1
  obtain ⟨-, before', reply', ended', result'⟩ :=
    Course.completes clean course (makes.supplies sound' served) answered
  obtain ⟨clean', settled⟩ := history_resumes makes preferences templates question files attempts
    sound (same ▸ clean)
  obtain ⟨arrived, before, reply, ended, result⟩ :=
    Course.completes clean' course' (makes.supplies sound'' served') answered'
  refine ⟨arrived, ⟨request, before, before', reply, reply', ended, ended', ?_⟩, ?_⟩
  · rintro rfl
    exact result.trans result'.symm
  · intro generated
    have handled := (Depot.served sound'' served').2
    rw [settled generated, arrived] at handled
    exact answered'.silent handled.still

end

/-! ## A shelf -/

/-- A service in memory whose failures are laid out in advance: the fate of each call is an error,
or none. Behind the last fate no call fails. -/
structure Shelf where
  contents : Contents
  fates : List (Option ServiceError)

namespace Stock

/-- Answers a call from the contents. -/
def serve (stock : Stock) (reply : ModelRequest → ModelReply) (contents : Contents) :
    (call : Call) → call.Answer × Contents
  | .listFiles => (contents.files, contents)
  | .uploadFile upload =>
    let file := stock.newFile contents upload
    (file, contents.addFile file)
  | .listCaches => (contents.caches, contents)
  | .createCache request =>
    let cache := stock.newCache contents request
    (cache, contents.addCache cache)
  | .getModel model => (stock.card model, contents)
  | .generate request => (reply request, contents)

/-- Answers a call, if its fate allows. -/
def answer (stock : Stock) (reply : ModelRequest → ModelReply) (call : Call) (shelf : Shelf) :
    Except ServiceError call.Answer × Shelf :=
  match shelf.fates.head?.join with
  | some error => (.error error, ⟨shelf.contents, shelf.fates.tail⟩)
  | none =>
    let (answer, contents) := stock.serve reply shelf.contents call
    (.ok answer, ⟨contents, shelf.fates.tail⟩)

/-- The service whose states are shelves, with fixed replies. -/
def depot (stock : Stock) (reply : ModelRequest → ModelReply) : Depot Shelf where
  service := ⟨fun call shelf =>
    let (result, shelf) := stock.answer reply call shelf
    (⟨result, []⟩, shelf)⟩
  contents := (·.contents)
  Sound _ := True
  handles call shelf _ := by
    simp only [answer]
    split
    next error _ => exact .failed call error
    next =>
      cases call with
      | listFiles => exact .listFiles
      | uploadFile upload => exact .uploadFile upload _ (stock.file_named _ upload)
      | listCaches => exact .listCaches
      | createCache request => exact .createCache request _ (stock.cache_named _ request)
      | getModel model => exact .getModel model _
      | generate request => exact .generate request _
  stays _ _ _ := trivial

theorem depot_makes (stock : Stock) (reply : ModelRequest → ModelReply) :
    (stock.depot reply).Makes stock := by
  intro call shelf _
  simp only [depot, answer]
  split
  next error => cases call <;> trivial
  next => cases call <;> trivial

end Stock

/-- Names what is new by how much there is. -/
def numberedStock : Stock where
  newFile contents upload :=
    ⟨"files/" ++ toString contents.files.length, some upload.displayName, "", upload.mimeType?⟩
  newCache contents request :=
    ⟨"caches/" ++ toString contents.caches.length, some request.displayName, some request.model,
      none⟩
  card model := ⟨model, none, none⟩
  file_named _ _ := rfl
  cache_named _ _ := rfl

/-- The service of numbered things, which always replies the same. -/
def numberedDepot : Depot Shelf :=
  numberedStock.depot fun _ => ⟨some "go", .null⟩

/-- A directory with two data files. -/
def twoFiles : FileSystem :=
  ⟨.directory [([0x64], .directory [
    (Utf8.encode "a.json", .file [0x31]), (Utf8.encode "b.json", .file [0x32])])], []⟩

/-- A question that wants the two data files, and a cache. -/
def twoFilesQuestion : Question :=
  ⟨"player", "\x7b\x7d", true, some ⟨[0x64]⟩, true⟩

/-- An empty shelf on which the second upload fails, then the creation of the cache, and then the
generation. -/
def unluckyShelf : Shelf :=
  let busy := some (.api 503 "busy")
  ⟨⟨[], []⟩, [none, none, none, none, busy] ++ [none, none, none, none, none, busy] ++
    [none, none, none, none, none, busy]⟩

/-- After three unlucky attempts, of which the last got as far as the model, a further run does what
a single one does, and neither uploads nor creates. -/
theorem advice_resumes_on_shelf :
    let advisor : Advisor Shelf := ⟨numberedDepot.service, .usual, ⟨"Rules", ""⟩, .off⟩
    let step : Step := ⟨.advice .usual ⟨"Rules", ""⟩ .off twoFilesQuestion, twoFiles⟩
    let earlier := history numberedDepot.service (List.replicate 3 step) unluckyShelf
    let further := (advisor.advise twoFilesQuestion).start (.start earlier.2 twoFiles)
    let single := (advisor.advise twoFilesQuestion).start (.start ⟨⟨[], []⟩, []⟩ twoFiles)
    Answered single.2.exchanges ∧ .generate ∈ operations single.2.exchanges ∧
    Answered further.2.exchanges ∧
    (∃ event ∈ earlier.1, .generate ∈ operations event.exchanges) ∧
    numberedDepot.contents further.2.remote = numberedDepot.contents single.2.remote ∧
    .uploadFile ∉ operations further.2.exchanges ∧
    .createCache ∉ operations further.2.exchanges := by
  have resumed := advice_resumes numberedDepot numberedStock (numberedStock.depot_makes _) .usual
    ⟨"Rules", ""⟩ twoFilesQuestion twoFiles 3 unluckyShelf ⟨⟨[], []⟩, []⟩ trivial trivial rfl
    (by decide +kernel) (by decide +kernel) (by decide +kernel)
  exact ⟨by decide +kernel, by decide +kernel, by decide +kernel, by decide +kernel, resumed.1,
    resumed.2.2 (by decide +kernel)⟩

end BattleAdvisor
