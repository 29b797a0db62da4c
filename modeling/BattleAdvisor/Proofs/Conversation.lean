import BattleAdvisor.Proofs.Sequence
import Mathlib.Computability.Language

/-!
# The order of the calls

**Theorem (`advise_conversation`).** Whatever the service answers, the calls of one answer begin a
word of the language

  `getModel (listFiles uploadFile?)* (listCaches createCache?) generate`

whose second part is there if data files are wanted and whose third part is there if a cache is
wanted. A failure of a call ends the run, and what is sent to the service carries what the service
returned before: its name of the model, the files, and the name of the cache.

The statement is the structure `Conversation`; each of its fields is read off the courses of
`advise_course`.
-/

namespace BattleAdvisor

open Provision
open scoped Computability

/-! ## Words -/

/-- The operation of an exchange. -/
def Exchange.operation (exchange : Exchange) : Operation :=
  exchange.call.operation

/-- The operations of exchanges. -/
def operations (exchanges : List Exchange) : List Operation :=
  exchanges.map Exchange.operation

@[simp] theorem operations_nil : operations [] = [] := rfl

@[simp] theorem operations_cons (exchange : Exchange) (rest : List Exchange) :
    operations (exchange :: rest) = exchange.call.operation :: operations rest := rfl

@[simp] theorem operations_append (before after : List Exchange) :
    operations (before ++ after) = operations before ++ operations after :=
  List.map_append

/-- Some word of the language begins like this. -/
def Begins (words : Language Operation) (word : List Operation) : Prop :=
  ∃ rest, word ++ rest ∈ words

theorem Begins.of_mem {words : Language Operation} {word : List Operation} (h : word ∈ words) :
    Begins words word :=
  ⟨[], by simpa using h⟩

/-- What begins a word still begins one when more has to follow. -/
theorem Begins.mul {words others : Language Operation} {word : List Operation}
    (h : Begins words word) {other : List Operation} (more : other ∈ others) :
    Begins (words * others) word := by
  obtain ⟨rest, h⟩ := h
  exact ⟨rest ++ other, by simpa using Language.append_mem_mul h more⟩

theorem Begins.append {words others : Language Operation} {before after : List Operation}
    (h : before ∈ words) (h' : Begins others after) :
    Begins (words * others) (before ++ after) := by
  obtain ⟨rest, h'⟩ := h'
  exact ⟨rest, by simpa using Language.append_mem_mul h h'⟩

/-- Listing the files, and perhaps uploading one. -/
def fileWords : Language Operation :=
  {[.listFiles], [.listFiles, .uploadFile]}

/-- Listing the caches, and perhaps creating one. -/
def cacheWords : Language Operation :=
  {[.listCaches], [.listCaches, .createCache]}

/-- The operations that may provide the data files of a question. -/
def Question.filesWords (question : Question) : Language Operation :=
  if question.useDataFiles then fileWords∗ else 1

/-- The operations that may provide the cache of a question. -/
def Question.contextWords (question : Question) : Language Operation :=
  if question.useCache then cacheWords else 1

/-- The operations that may prepare the answer to a question. -/
def Question.prepareWords (question : Question) : Language Operation :=
  {[.getModel]} * (question.filesWords * question.contextWords)

/-- The operations that may answer a question. -/
def Question.words (question : Question) : Language Operation :=
  question.prepareWords * {[.generate]}

theorem mem_singleton_word (word : List Operation) : word ∈ ({word} : Language Operation) := rfl

theorem append_mem_kstar {words : Language Operation} {before after : List Operation}
    (h : before ∈ words) (h' : after ∈ words∗) : before ++ after ∈ words∗ := by
  rw [← Language.one_add_self_mul_kstar_eq_kstar]
  exact .inr (Language.append_mem_mul h h')

theorem Question.nil_mem_filesWords (question : Question) : [] ∈ question.filesWords := by
  unfold filesWords
  split
  · exact Language.nil_mem_kstar _
  · exact Language.nil_mem_one

theorem Question.exists_mem_contextWords (question : Question) :
    ∃ word, word ∈ question.contextWords := by
  unfold contextWords
  split
  · exact ⟨_, .inl rfl⟩
  · exact ⟨_, Language.nil_mem_one⟩

theorem Question.conflict_of_check {question : Question} {error : AdviceError}
    (h : question.check = .error error) : ∃ why, error = .conflict why := by
  unfold check at h
  split at h
  · exact ⟨_, (Except.error.inj h).symm⟩
  · split at h
    · exact ⟨_, (Except.error.inj h).symm⟩
    · cases h

/-! ## Failures of calls -/

/-- The failure of a run that the failure of a call leads to. -/
def Call.failure : Call → ServiceError → AdviceError
  | .generate _, error => .generationFailed error.message
  | _, error => .remote error

/-- A call that fails is the last one, and its failure is what comes of the exchanges. -/
def StopsAtFailure {α : Type} (exchanges : List Exchange) (result : Except AdviceError α) : Prop :=
  ∀ before call error after, exchanges = before ++ ⟨call, .error error⟩ :: after →
    after = [] ∧ result = .error (call.failure error)

namespace StopsAtFailure

variable {α β : Type}

theorem nil (result : Except AdviceError α) : StopsAtFailure [] result := by
  intro before call error after h
  simp at h

theorem failed (call : Call) (error : ServiceError) :
    StopsAtFailure [⟨call, .error error⟩] (.error (call.failure error) : Except AdviceError α) := by
  intro before call' error' after h
  obtain ⟨rfl, h⟩ | ⟨rest, rfl, h⟩ := List.cons_eq_append_iff.mp h
  · cases h
    exact ⟨rfl, rfl⟩
  · simp at h

/-- Behind exchanges with a result, everything is as it would be without them. -/
theorem append {before after : List Exchange} {a : α} {result : Except AdviceError β}
    (h : StopsAtFailure before (.ok a)) (h' : StopsAtFailure after result) :
    StopsAtFailure (before ++ after) result := by
  intro start call error rest whole
  obtain ⟨middle, cut, inside⟩ | ⟨middle, cut, inside⟩ := List.append_eq_append_iff.mp whole
  · exact h' middle call error rest inside
  · cases middle with
    | nil => exact h' [] call error rest inside.symm
    | cons first middle =>
      obtain ⟨rfl, rfl⟩ := List.cons.inj inside
      exact absurd (h start call error middle cut).2 (by simp)

theorem answered (call : Call) (answer : call.Answer) (result : Except AdviceError α) :
    StopsAtFailure [⟨call, .ok answer⟩] result := by
  intro before call' error after h
  obtain ⟨rfl, h⟩ | ⟨rest, rfl, h⟩ := List.cons_eq_append_iff.mp h
  · cases h
  · simp at h

/-- A failure stays one whatever it is that was wanted. -/
theorem failure {exchanges : List Exchange} {error : AdviceError}
    (h : StopsAtFailure exchanges (.error error : Except AdviceError α)) :
    StopsAtFailure exchanges (.error error : Except AdviceError β) := by
  intro before call error' after whole
  obtain ⟨last, same⟩ := h before call error' after whole
  cases same
  exact ⟨last, rfl⟩

theorem closed : Courses.Closed fun _ course =>
    ∀ exchanges result, course exchanges result → StopsAtFailure exchanges result where
  done := by
    rintro α a _ _ ⟨rfl, -⟩
    exact .nil _
  stuck := by
    rintro α error _ _ ⟨rfl, -⟩
    exact .nil _
  bind := by
    rintro α β first second here there _ _ (failed | ⟨course, course'⟩)
    · exact (here _ _ failed).failure
    · exact (here _ _ course).append (there _ _ _ course')

end StopsAtFailure

/-! ## Provision -/

/-- The exchanges of ensuring files of the given names, one after another: each file is the first
of its name that is listed, or is uploaded under its name if none is. -/
inductive Ensured : List String → List Exchange → List UploadedFile → Prop
  | nil : Ensured [] [] []
  | found {name : String} {names : List String} {listing files : List UploadedFile}
      {file : UploadedFile} {rest : List Exchange}
      (present : listing.find? (fun file => file.displayName? = some name) = some file)
      (others : Ensured names rest files) :
      Ensured (name :: names) (⟨.listFiles, .ok listing⟩ :: rest) (file :: files)
  | uploaded {upload : Upload} {names : List String} {listing files : List UploadedFile}
      {rest : List Exchange} (file : UploadedFile)
      (absent : listing.find? (fun file => file.displayName? = some upload.displayName) = none)
      (others : Ensured names rest files) :
      Ensured (upload.displayName :: names)
        (⟨.listFiles, .ok listing⟩ :: ⟨.uploadFile upload, .ok file⟩ :: rest) (file :: files)

namespace Provision

variable {files : FileSystem} {exchanges : List Exchange}

theorem CacheCourse.mem_words {request : CacheRequest} {cache : ContentCache}
    (course : CacheCourse request exchanges (.ok cache)) : operations exchanges ∈ cacheWords := by
  cases course with
  | found => exact .inl rfl
  | created => exact .inr rfl

theorem CacheCourse.begins {request : CacheRequest} {result : Except AdviceError ContentCache}
    (course : CacheCourse request exchanges result) :
    Begins cacheWords (operations exchanges) := by
  cases course with
  | unlisted | found => exact .of_mem (.inl rfl)
  | refused | created => exact .of_mem (.inr rfl)

theorem CacheCourse.stops {request : CacheRequest} {result : Except AdviceError ContentCache}
    (course : CacheCourse request exchanges result) : StopsAtFailure exchanges result := by
  cases course with
  | unlisted error => exact .failed .listCaches error
  | found => exact .answered .listCaches _ _
  | refused error => exact (StopsAtFailure.answered .listCaches _ (.ok ())).append (.failed _ error)
  | created cache =>
    exact (StopsAtFailure.answered .listCaches _ (.ok ())).append
      (.answered (.createCache _) cache _)

theorem CacheCourse.operations_subset {request : CacheRequest}
    {result : Except AdviceError ContentCache}
    (course : CacheCourse request exchanges result) :
    operations exchanges ⊆ [.listCaches, .createCache] := by
  cases course <;> simp [Call.operation]

/-- The display names of what a walk meets, as far as it is wanted. -/
def wantedNames (files : FileSystem) (name : Path → String) (accepts : Path → Bool)
    (visits : List Visit) : List String :=
  visits.filterMap fun
    | .ok path => if files.isFile path && accepts path then some (name path) else none
    | .error _ => none

theorem wantedNames_cons_ok (name : Path → String) (accepts : Path → Bool) (path : Path)
    (rest : List Visit) :
    wantedNames files name accepts (.ok path :: rest) =
      if files.isFile path && accepts path then name path :: wantedNames files name accepts rest
      else wantedNames files name accepts rest := by
  unfold wantedNames
  cases wanted : files.isFile path && accepts path <;> simp only [List.filterMap_cons, wanted] <;>
    rfl

variable [MediaTypes]

theorem FileCourse.begins {name : String} {path : Path}
    {result : Except AdviceError UploadedFile}
    (course : FileCourse files name path exchanges result) :
    Begins fileWords (operations exchanges) := by
  cases course with
  | unlisted | found | unread => exact .of_mem (.inl rfl)
  | refused | uploaded => exact .of_mem (.inr rfl)

theorem FileCourse.mem_words {name : String} {path : Path} {file : UploadedFile}
    (course : FileCourse files name path exchanges (.ok file)) :
    operations exchanges ∈ fileWords := by
  cases course with
  | found => exact .inl rfl
  | uploaded => exact .inr rfl

theorem FileCourse.stops {name : String} {path : Path} {result : Except AdviceError UploadedFile}
    (course : FileCourse files name path exchanges result) : StopsAtFailure exchanges result := by
  cases course with
  | unlisted error => exact .failed .listFiles error
  | found | unread => exact .answered .listFiles _ _
  | refused error => exact (StopsAtFailure.answered .listFiles _ (.ok ())).append (.failed _ error)
  | uploaded file =>
    exact (StopsAtFailure.answered .listFiles _ (.ok ())).append (.answered (.uploadFile _) file _)

theorem VisitsCourse.begins {name : Path → String} {accepts : Path → Bool} {visits : List Visit}
    {result : Except AdviceError (List UploadedFile)}
    (course : VisitsCourse files name accepts visits exchanges result) :
    Begins fileWords∗ (operations exchanges) := by
  induction course with
  | done | unwalkable => exact .of_mem (Language.nil_mem_kstar _)
  | passed _ _ ih => exact ih
  | stopped _ first =>
    obtain ⟨rest, h⟩ := first.begins
    exact ⟨rest, by simpa using append_mem_kstar h (Language.nil_mem_kstar _)⟩
  | taken _ first _ ih =>
    obtain ⟨rest, h⟩ := ih
    exact ⟨rest, by simpa using append_mem_kstar first.mem_words h⟩

theorem VisitsCourse.mem_words {name : Path → String} {accepts : Path → Bool}
    {visits : List Visit} {result : Except AdviceError (List UploadedFile)}
    (course : VisitsCourse files name accepts visits exchanges result)
    {uploads : List UploadedFile} (h : result = .ok uploads) :
    operations exchanges ∈ fileWords∗ := by
  induction course generalizing uploads with
  | done => exact Language.nil_mem_kstar _
  | unwalkable | stopped => cases h
  | passed _ _ ih => exact ih h
  | @taken _ _ _ _ _ result _ first _ ih =>
    cases result with
    | error => cases h
    | ok others => simpa using append_mem_kstar first.mem_words (ih rfl)

theorem VisitsCourse.ensured {name : Path → String} {accepts : Path → Bool} {visits : List Visit}
    {result : Except AdviceError (List UploadedFile)}
    (course : VisitsCourse files name accepts visits exchanges result)
    {uploads : List UploadedFile} (h : result = .ok uploads) :
    Ensured (wantedNames files name accepts visits) exchanges uploads := by
  induction course generalizing uploads with
  | done => cases h; exact .nil
  | unwalkable | stopped => cases h
  | passed unwanted _ ih =>
    rw [wantedNames_cons_ok, unwanted]
    exact ih h
  | @taken _ _ _ _ _ result wanted first _ ih =>
    cases result with
    | error => cases h
    | ok others =>
      cases h
      rw [wantedNames_cons_ok, if_pos wanted]
      cases first with
      | found present => exact .found present (ih rfl)
      | uploaded file absent => exact @Ensured.uploaded ⟨_, _, _⟩ _ _ _ _ _ absent (ih rfl)

theorem FileCourse.operations_subset {name : String} {path : Path}
    {result : Except AdviceError UploadedFile}
    (course : FileCourse files name path exchanges result) :
    operations exchanges ⊆ [.listFiles, .uploadFile] := by
  cases course <;> simp [Call.operation]

theorem VisitsCourse.operations_subset {name : Path → String} {accepts : Path → Bool}
    {visits : List Visit} {result : Except AdviceError (List UploadedFile)}
    (course : VisitsCourse files name accepts visits exchanges result) :
    operations exchanges ⊆ [.listFiles, .uploadFile] := by
  induction course with
  | done | unwalkable => simp
  | passed _ _ ih => exact ih
  | stopped _ first => exact first.operations_subset
  | taken _ first _ ih =>
    rw [operations_append]
    exact List.append_subset.mpr ⟨first.operations_subset, ih⟩

end Provision

/-! ## Answers -/

namespace Advisor

variable {σ : Type} {advisor : Advisor σ} {question : Question} {files : FileSystem}
  {exchanges : List Exchange} {model : String}

/-- The display names of the data files that a question wants, in the order of the walk. -/
def wantedNames (advisor : Advisor σ) (question : Question) (files : FileSystem) : List String :=
  match question.dataDirectory?, question.useDataFiles with
  | some dir, true =>
    Provision.wantedNames files (displayName advisor.preferences.filePrefix dir)
      advisor.preferences.selects (files.walk dir)
  | _, _ => []

theorem ContextCourse.begins {uploads : List UploadedFile}
    {result : Except AdviceError (Option ContentCache)}
    (course : ContextCourse advisor question model uploads exchanges result) :
    Begins question.contextWords (operations exchanges) := by
  unfold Question.contextWords
  cases course with
  | provided wanted cache =>
    rw [if_pos wanted]
    exact cache.begins
  | unwanted unwanted =>
    rw [if_neg (by simp [unwanted])]
    exact .of_mem Language.nil_mem_one

theorem ContextCourse.mem_words {uploads : List UploadedFile} {cache? : Option ContentCache}
    (course : ContextCourse advisor question model uploads exchanges (.ok cache?)) :
    operations exchanges ∈ question.contextWords := by
  unfold Question.contextWords
  generalize told : Except.ok cache? = result at course
  cases course with
  | @provided _ result wanted cache =>
    rw [if_pos wanted]
    cases result with
    | error => cases told
    | ok => exact cache.mem_words
  | unwanted unwanted =>
    rw [if_neg (by simp [unwanted])]
    exact Language.nil_mem_one

theorem ContextCourse.operations_subset {uploads : List UploadedFile}
    {result : Except AdviceError (Option ContentCache)}
    (course : ContextCourse advisor question model uploads exchanges result) :
    operations exchanges ⊆ [.listCaches, .createCache] := by
  cases course with
  | provided _ cache => exact cache.operations_subset
  | unwanted => simp

theorem ContextCourse.created {uploads : List UploadedFile}
    {result : Except AdviceError (Option ContentCache)}
    (course : ContextCourse advisor question model uploads exchanges result)
    {request : CacheRequest} {answer : Except ServiceError ContentCache}
    (h : ⟨.createCache request, answer⟩ ∈ exchanges) :
    ∃ listing,
      exchanges = [⟨.listCaches, .ok listing⟩, ⟨.createCache request, answer⟩] ∧
      request = advisor.cacheRequest model uploads ∧
      listing.find? (fun cache => cache.displayName? = some request.displayName) = none := by
  cases course with
  | unwanted => simp at h
  | provided _ cache =>
    cases cache with
    | unlisted | found => simp at h
    | @refused listing _ absent | @created listing _ absent =>
      obtain ⟨same, rfl⟩ : request = advisor.cacheRequest model uploads ∧ _ := by simpa using h
      subst same
      exact ⟨listing, rfl, rfl, absent⟩

theorem CardCourse.stops {result : Except AdviceError ModelCard}
    (course : CardCourse model exchanges result) : StopsAtFailure exchanges result := by
  cases course with
  | refused error => exact .failed (.getModel model) error
  | found card => exact .answered (.getModel model) card _

theorem CardCourse.operations_subset {result : Except AdviceError ModelCard}
    (course : CardCourse model exchanges result) : operations exchanges ⊆ [.getModel] := by
  cases course <;> simp [Call.operation]

theorem textOf_eq_ok {reply : ModelReply} {text : String} (h : textOf reply = .ok text) :
    reply.text? = some text ∧ text ≠ "" := by
  unfold textOf at h
  split at h
  next text' given =>
    split at h
    · cases h
    · cases h; exact ⟨given, by assumption⟩
  next => cases h

theorem textOf_of_textless {reply : ModelReply} (h : reply.text? = none ∨ reply.text? = some "") :
    textOf reply = .error (.generationFailed "Model returned no text") := by
  unfold textOf
  rcases h with h | h
  · rw [h]
  · rw [h]; rfl

variable [MediaTypes]

theorem FilesCourse.begins {result : Except AdviceError (List UploadedFile)}
    (course : FilesCourse advisor question files exchanges result) :
    Begins question.filesWords (operations exchanges) := by
  cases course with
  | walked given wanted visits =>
    rw [Question.filesWords, if_pos wanted]
    exact visits.begins
  | unwanted => exact .of_mem question.nil_mem_filesWords

theorem FilesCourse.mem_words {uploads : List UploadedFile}
    (course : FilesCourse advisor question files exchanges (.ok uploads)) :
    operations exchanges ∈ question.filesWords := by
  cases course with
  | walked given wanted visits =>
    rw [Question.filesWords, if_pos wanted]
    exact visits.mem_words rfl
  | unwanted => exact question.nil_mem_filesWords

theorem FilesCourse.ensured {uploads : List UploadedFile}
    (course : FilesCourse advisor question files exchanges (.ok uploads)) :
    Ensured (advisor.wantedNames question files) exchanges uploads := by
  unfold wantedNames
  cases course with
  | walked given wanted visits =>
    rw [given, wanted]
    exact visits.ensured rfl
  | unwanted unwanted =>
    split
    next given wanted => simp [given, wanted] at unwanted
    next => exact .nil

theorem RequestCourse.begins {result : Except AdviceError ModelRequest}
    (course : RequestCourse advisor question model files exchanges result) :
    Begins (question.filesWords * question.contextWords) (operations exchanges) := by
  cases course with
  | noFiles provided =>
    obtain ⟨word, h⟩ := question.exists_mem_contextWords
    exact provided.begins.mul h
  | noCache provided context | formed provided context =>
    rw [operations_append]
    exact .append provided.mem_words context.begins

theorem RequestCourse.mem_words {request : ModelRequest}
    (course : RequestCourse advisor question model files exchanges (.ok request)) :
    operations exchanges ∈ question.filesWords * question.contextWords := by
  cases course with
  | formed provided context =>
    rw [operations_append]
    exact Language.append_mem_mul provided.mem_words context.mem_words

theorem PrepareCourse.begins {result : Except AdviceError ModelRequest}
    (course : PrepareCourse advisor question files exchanges result) :
    Begins question.prepareWords (operations exchanges) := by
  obtain ⟨word, h⟩ := question.exists_mem_contextWords
  have more := Language.append_mem_mul question.nil_mem_filesWords h
  cases course with
  | rejected => exact Begins.mul ⟨[.getModel], rfl⟩ more
  | noModel => exact (Begins.of_mem (mem_singleton_word _)).mul more
  | provided fit card course =>
    exact .append (mem_singleton_word [.getModel]) course.begins

theorem PrepareCourse.mem_words {request : ModelRequest}
    (course : PrepareCourse advisor question files exchanges (.ok request)) :
    operations exchanges ∈ question.prepareWords := by
  cases course with
  | provided fit card course =>
    exact Language.append_mem_mul (mem_singleton_word [.getModel]) course.mem_words

theorem PrepareCourse.stops {result : Except AdviceError ModelRequest}
    (course : PrepareCourse advisor question files exchanges result) :
    StopsAtFailure exchanges result :=
  PrepareCourse.of_closed StopsAtFailure.closed (fun _ _ _ _ course => course.stops)
    (fun _ _ _ course => course.stops) (fun _ _ _ course => course.stops) _ _ course

theorem Course.begins {result : Except AdviceError String}
    (course : Course advisor question files exchanges result) :
    Begins question.words (operations exchanges) := by
  cases course with
  | unprepared prepared => exact prepared.begins.mul (mem_singleton_word _)
  | refused prepared | generated prepared =>
    rw [operations_append]
    exact .of_mem (Language.append_mem_mul prepared.mem_words (mem_singleton_word _))

theorem Course.stops {result : Except AdviceError String}
    (course : Course advisor question files exchanges result) :
    StopsAtFailure exchanges result := by
  cases course with
  | unprepared prepared => exact prepared.stops.failure
  | @refused _ request prepared error =>
    exact prepared.stops.append (.failed (.generate request) error)
  | @generated _ request prepared reply =>
    exact prepared.stops.append (.answered (.generate request) reply _)

/-! ## Which operations take part -/

theorem FilesCourse.operations_subset {result : Except AdviceError (List UploadedFile)}
    (course : FilesCourse advisor question files exchanges result) :
    operations exchanges ⊆ [.listFiles, .uploadFile] := by
  cases course with
  | walked _ _ visits => exact visits.operations_subset
  | unwanted => simp

theorem FilesCourse.eq_nil {result : Except AdviceError (List UploadedFile)}
    (course : FilesCourse advisor question files exchanges result)
    (unwanted : question.useDataFiles = false) : exchanges = [] := by
  cases course with
  | walked _ wanted => simp [unwanted] at wanted
  | unwanted => rfl

/-- Before the model generates, data files are listed and uploaded only if they are wanted. -/
theorem PrepareCourse.wanted {result : Except AdviceError ModelRequest}
    (course : PrepareCourse advisor question files exchanges result)
    (h : .listFiles ∈ operations exchanges ∨ .uploadFile ∈ operations exchanges) :
    question.useDataFiles = true := by
  by_contra unwanted
  have unwanted : question.useDataFiles = false := by simpa using unwanted
  cases course with
  | rejected | noModel => simp [Call.operation] at h
  | provided _ _ course =>
    cases course with
    | noFiles provided => simp [provided.eq_nil unwanted, Call.operation] at h
    | noCache provided context | formed provided context =>
      have := context.operations_subset
      simp only [provided.eq_nil unwanted, List.nil_append, operations_cons, List.mem_cons] at h
      rcases h with (h | h) | (h | h)
      · cases h
      · simpa using this h
      · cases h
      · simpa using this h

theorem PrepareCourse.generate_notMem {result : Except AdviceError ModelRequest}
    (course : PrepareCourse advisor question files exchanges result) :
    .generate ∉ operations exchanges := by
  have others : ∀ exchange ∈ exchanges, exchange.operation ≠ .generate := by
    refine PrepareCourse.of_closed (Courses.closed_forall _) ?file ?cache ?card _ _ course
    case file =>
      intro name path exchanges result course exchange here same
      simpa [same] using course.operations_subset (List.mem_map_of_mem here)
    case cache =>
      intro request exchanges result course exchange here same
      simpa [same] using course.operations_subset (List.mem_map_of_mem here)
    case card =>
      intro model exchanges result course exchange here same
      simpa [same] using course.operations_subset (List.mem_map_of_mem here)
  intro h
  obtain ⟨exchange, here, same⟩ := List.mem_map.mp h
  exact others exchange here same

/-! ## What is sent -/

/-- A cache is created behind the steps that ensure its files, if none of its name is listed. -/
theorem RequestCourse.created {result : Except AdviceError ModelRequest}
    (course : RequestCourse advisor question model files exchanges result)
    {request : CacheRequest} {answer : Except ServiceError ContentCache}
    (h : ⟨.createCache request, answer⟩ ∈ exchanges) :
    ∃ steps uploads listing,
      exchanges = steps ++ [⟨.listCaches, .ok listing⟩, ⟨.createCache request, answer⟩] ∧
      Ensured (advisor.wantedNames question files) steps uploads ∧
      request = advisor.cacheRequest model uploads ∧
      listing.find? (fun cache => cache.displayName? = some request.displayName) = none := by
  have elsewhere {steps : List Exchange} {result : Except AdviceError (List UploadedFile)}
      (provided : FilesCourse advisor question files steps result)
      (h : ⟨.createCache request, answer⟩ ∈ steps) : False := by
    simpa [Exchange.operation, Call.operation] using
      provided.operations_subset (List.mem_map_of_mem h)
  cases course with
  | noFiles provided => exact (elsewhere provided h).elim
  | @noCache steps _ uploads _ provided context | @formed steps _ uploads _ provided context =>
    have h := (List.mem_append.mp h).resolve_left (elsewhere provided)
    obtain ⟨listing, rfl, rest⟩ := context.created h
    exact ⟨steps, uploads, listing, rfl, provided.ensured, rest⟩

/-! ## The whole conversation -/

/-- What an advisor and a service say to each other about a question, and what comes of it. The
files are those on which the question is answered. -/
structure Conversation (advisor : Advisor σ) (question : Question) (files : FileSystem)
    (exchanges : List Exchange) (result : Except AdviceError String) : Prop where
  /-- The calls begin a word of the language. -/
  ordered : Begins question.words (operations exchanges)
  /-- There is no call if and only if the choices are rejected. -/
  silent_iff : exchanges = [] ↔ ∃ error, question.check = .error error
  /-- Choices are rejected because of a conflict, which is what comes of the run. -/
  rejected : ∀ error, question.check = .error error →
    (∃ why, error = .conflict why) ∧ result = .error error
  /-- Data files are listed and uploaded only if they are wanted. -/
  filesWanted : .listFiles ∈ operations exchanges ∨ .uploadFile ∈ operations exchanges →
    question.useDataFiles = true
  stops : StopsAtFailure exchanges result
  /-- The model generates at most once, and nothing follows. -/
  generateLast : ∀ before request answer after,
    exchanges = before ++ ⟨.generate request, answer⟩ :: after →
      after = [] ∧ .generate ∉ operations before
  /-- First of all the preferred model is looked up. -/
  first : ∀ exchange rest, exchanges = exchange :: rest →
    exchange.call = .getModel advisor.preferences.model
  /-- A cache is made for the model that was found, of the files that were ensured before, and only
  if none of its name is listed. -/
  created : ∀ request answer, ⟨.createCache request, answer⟩ ∈ exchanges →
    ∃ card steps uploads listing,
      ⟨.getModel advisor.preferences.model, .ok card⟩ ::
        (steps ++ [⟨.listCaches, .ok listing⟩, ⟨.createCache request, answer⟩]) <+: exchanges ∧
      Ensured (advisor.wantedNames question files) steps uploads ∧
      request = ⟨card.name, advisor.preferences.cacheName, advisor.templates.context, uploads,
        cacheLifetime⟩ ∧
      listing.find? (fun cache => cache.displayName? = some request.displayName) = none
  /-- The model that was found generates, on the filled prompt, with the cache that was found or
  created if one is wanted, and else with the context and no files. -/
  generates : ∀ request answer, ⟨.generate request, answer⟩ ∈ exchanges →
    ∃ card steps uploads ending,
      exchanges = ⟨.getModel advisor.preferences.model, .ok card⟩ ::
        (steps ++ ending ++ [⟨.generate request, answer⟩]) ∧
      Ensured (advisor.wantedNames question files) steps uploads ∧
      request.model = card.name ∧
      request.prompt = advisor.templates.fillPrompt question.player question.battle ∧
      if question.useCache then
        ∃ cache, CacheCourse (advisor.cacheRequest card.name uploads) ending (.ok cache) ∧
          request.config = .cached cache.name
      else ending = [] ∧ request.config = .inline advisor.templates.context []
  /-- Advice is the text of what the model generates, which is not empty. -/
  advises : ∀ text, result = .ok text → text ≠ "" ∧
    ∃ before request reply, exchanges = before ++ [⟨.generate request, .ok reply⟩] ∧
      reply.text? = some text
  /-- A reply without text is no advice. -/
  textless : ∀ request reply, ⟨.generate request, .ok reply⟩ ∈ exchanges →
    reply.text? = none ∨ reply.text? = some "" →
      result = .error (.generationFailed "Model returned no text")

theorem PrepareCourse.eq_nil_iff {result : Except AdviceError ModelRequest}
    (course : PrepareCourse advisor question files exchanges result) :
    exchanges = [] ↔ ∃ error, question.check = .error error := by
  cases course with
  | rejected unfit => simp [unfit]
  | noModel fit | provided fit => simp [fit]

theorem PrepareCourse.first {result : Except AdviceError ModelRequest}
    (course : PrepareCourse advisor question files exchanges result) {exchange : Exchange}
    {rest : List Exchange} (h : exchanges = exchange :: rest) :
    exchange.call = .getModel advisor.preferences.model := by
  cases course with
  | rejected => cases h
  | noModel | provided => cases h; rfl

/-- What is prepared for a question that passes the check begins with the search for the model. -/
theorem PrepareCourse.ne_nil {request : ModelRequest}
    (course : PrepareCourse advisor question files exchanges (.ok request)) : exchanges ≠ [] := by
  cases course with
  | provided => simp

/-- The model generates on a prepared request, and that is the end. -/
theorem Course.generate_mem {result : Except AdviceError String}
    (course : Course advisor question files exchanges result) {request : ModelRequest}
    {answer : Except ServiceError ModelReply} (h : ⟨.generate request, answer⟩ ∈ exchanges) :
    ∃ before, exchanges = before ++ [⟨.generate request, answer⟩] ∧
      PrepareCourse advisor question files before (.ok request) ∧
      ∀ reply, answer = .ok reply → result = textOf reply := by
  have elsewhere {before : List Exchange} {result : Except AdviceError ModelRequest}
      (prepared : PrepareCourse advisor question files before result) :
      ⟨.generate request, answer⟩ ∉ before := fun h =>
    prepared.generate_notMem (List.mem_map_of_mem h)
  cases course with
  | unprepared prepared => exact (elsewhere prepared h).elim
  | refused prepared error =>
    obtain ⟨rfl, rfl⟩ : request = _ ∧ answer = .error error := by
      simpa using (List.mem_append.mp h).resolve_left (elsewhere prepared)
    exact ⟨_, rfl, prepared, nofun⟩
  | generated prepared reply =>
    obtain ⟨rfl, rfl⟩ : request = _ ∧ answer = .ok reply := by
      simpa using (List.mem_append.mp h).resolve_left (elsewhere prepared)
    exact ⟨_, rfl, prepared, fun _ same => by cases same; rfl⟩

theorem Course.eq_nil_iff {result : Except AdviceError String}
    (course : Course advisor question files exchanges result) :
    exchanges = [] ↔ ∃ error, question.check = .error error := by
  cases course with
  | unprepared prepared => exact prepared.eq_nil_iff
  | refused prepared | generated prepared =>
    have fit := prepared.eq_nil_iff.not.mp prepared.ne_nil
    simp only [List.append_eq_nil_iff, List.cons_ne_nil, and_false, false_iff]
    exact fit

theorem Course.rejected {result : Except AdviceError String}
    (course : Course advisor question files exchanges result) {error : AdviceError}
    (unfit : question.check = .error error) : result = .error error := by
  have silent := course.eq_nil_iff.mpr ⟨error, unfit⟩
  cases course with
  | unprepared prepared =>
    subst silent
    cases prepared with
    | rejected unfit' => rw [unfit] at unfit'; cases unfit'; rfl
  | refused | generated => simp at silent

theorem Course.wanted {result : Except AdviceError String}
    (course : Course advisor question files exchanges result)
    (h : .listFiles ∈ operations exchanges ∨ .uploadFile ∈ operations exchanges) :
    question.useDataFiles = true := by
  cases course with
  | unprepared prepared => exact prepared.wanted h
  | refused prepared | generated prepared =>
    exact prepared.wanted (by simpa [Call.operation] using h)

theorem Course.generateLast {result : Except AdviceError String}
    (course : Course advisor question files exchanges result) {before after : List Exchange}
    {request : ModelRequest} {answer : Except ServiceError ModelReply}
    (h : exchanges = before ++ ⟨.generate request, answer⟩ :: after) :
    after = [] ∧ .generate ∉ operations before := by
  have present : ⟨.generate request, answer⟩ ∈ exchanges := by simp [h]
  obtain ⟨start, whole, prepared, -⟩ := course.generate_mem present
  have once := prepared.generate_notMem
  obtain ⟨middle, rfl, rest⟩ | ⟨middle, rfl, rest⟩ :=
    List.append_eq_append_iff.mp (whole.symm.trans h)
  · cases middle with
    | nil => exact ⟨by simpa using rest.symm, by simpa using once⟩
    | cons => simp at rest
  · cases middle with
    | nil => exact ⟨by simpa using rest, by simpa using once⟩
    | cons first middle =>
      obtain ⟨rfl, -⟩ := List.cons.inj rest
      simp [Call.operation] at once

theorem Course.first {result : Except AdviceError String}
    (course : Course advisor question files exchanges result) {exchange : Exchange}
    {rest : List Exchange} (h : exchanges = exchange :: rest) :
    exchange.call = .getModel advisor.preferences.model := by
  cases course with
  | unprepared prepared => exact prepared.first h
  | refused prepared | generated prepared =>
    obtain ⟨first, others, rfl⟩ := List.exists_cons_of_ne_nil prepared.ne_nil
    obtain ⟨rfl, -⟩ := List.cons.inj h
    exact prepared.first rfl

theorem PrepareCourse.created {result : Except AdviceError ModelRequest}
    (course : PrepareCourse advisor question files exchanges result)
    {request : CacheRequest} {answer : Except ServiceError ContentCache}
    (h : ⟨.createCache request, answer⟩ ∈ exchanges) :
    ∃ card steps uploads listing,
      exchanges = ⟨.getModel advisor.preferences.model, .ok card⟩ ::
        (steps ++ [⟨.listCaches, .ok listing⟩, ⟨.createCache request, answer⟩]) ∧
      Ensured (advisor.wantedNames question files) steps uploads ∧
      request = advisor.cacheRequest card.name uploads ∧
      listing.find? (fun cache => cache.displayName? = some request.displayName) = none := by
  cases course with
  | rejected | noModel => simp at h
  | provided fit card course =>
    obtain ⟨steps, uploads, listing, rfl, rest⟩ := course.created (by simpa using h)
    exact ⟨card, steps, uploads, listing, rfl, rest⟩

theorem Course.created {result : Except AdviceError String}
    (course : Course advisor question files exchanges result)
    {request : CacheRequest} {answer : Except ServiceError ContentCache}
    (h : ⟨.createCache request, answer⟩ ∈ exchanges) :
    ∃ card steps uploads listing,
      ⟨.getModel advisor.preferences.model, .ok card⟩ ::
        (steps ++ [⟨.listCaches, .ok listing⟩, ⟨.createCache request, answer⟩]) <+: exchanges ∧
      Ensured (advisor.wantedNames question files) steps uploads ∧
      request = advisor.cacheRequest card.name uploads ∧
      listing.find? (fun cache => cache.displayName? = some request.displayName) = none := by
  cases course with
  | unprepared prepared =>
    obtain ⟨card, steps, uploads, listing, rfl, rest⟩ := prepared.created h
    exact ⟨card, steps, uploads, listing, List.prefix_refl _, rest⟩
  | refused prepared | generated prepared =>
    obtain ⟨card, steps, uploads, listing, rfl, rest⟩ := prepared.created (by simpa using h)
    exact ⟨card, steps, uploads, listing, List.prefix_append _ _, rest⟩

/-- What a prepared request carries. -/
theorem PrepareCourse.formed {request : ModelRequest}
    (course : PrepareCourse advisor question files exchanges (.ok request)) :
    ∃ card steps uploads ending,
      exchanges = ⟨.getModel advisor.preferences.model, .ok card⟩ :: (steps ++ ending) ∧
      Ensured (advisor.wantedNames question files) steps uploads ∧
      request.model = card.name ∧ request.prompt = advisor.promptOf question ∧
      if question.useCache then
        ∃ cache, CacheCourse (advisor.cacheRequest card.name uploads) ending (.ok cache) ∧
          request.config = .cached cache.name
      else ending = [] ∧ request.config = .inline advisor.templates.context [] := by
  cases course with
  | provided fit card course =>
    cases course with
    | @formed steps ending uploads cache? provided context =>
      refine ⟨card, steps, uploads, ending, rfl, provided.ensured, rfl, rfl, ?_⟩
      generalize told : Except.ok cache? = result at context
      cases context with
      | @provided _ result wanted cache =>
        rw [if_pos wanted]
        cases result with
        | error => cases told
        | ok found => cases told; exact ⟨found, cache, rfl⟩
      | unwanted unwanted =>
        cases told
        rw [if_neg (by simp [unwanted])]
        exact ⟨rfl, rfl⟩

theorem Course.advises {text : String}
    (course : Course advisor question files exchanges (.ok text)) :
    text ≠ "" ∧ ∃ before request reply, exchanges = before ++ [⟨.generate request, .ok reply⟩] ∧
      reply.text? = some text := by
  generalize told : Except.ok text = result at course
  cases course with
  | unprepared | refused => cases told
  | generated prepared reply =>
    obtain ⟨given, nonempty⟩ := textOf_eq_ok told.symm
    exact ⟨nonempty, _, _, reply, rfl, given⟩

/-- Each course of an answer is a conversation as described. -/
theorem Course.conversation {result : Except AdviceError String}
    (course : Course advisor question files exchanges result) :
    Conversation advisor question files exchanges result where
  ordered := course.begins
  silent_iff := course.eq_nil_iff
  rejected _ unfit := ⟨Question.conflict_of_check unfit, course.rejected unfit⟩
  filesWanted := course.wanted
  stops := course.stops
  generateLast _ _ _ _ := course.generateLast
  first _ _ := course.first
  created _ _ := course.created
  generates request answer h := by
    obtain ⟨before, rfl, prepared, -⟩ := course.generate_mem h
    obtain ⟨card, steps, uploads, ending, rfl, rest⟩ := prepared.formed
    exact ⟨card, steps, uploads, ending, rfl, rest⟩
  advises _ h := (h ▸ course).advises
  textless request reply h textless := by
    obtain ⟨before, rfl, -, answered⟩ := course.generate_mem h
    rw [answered reply rfl, textOf_of_textless textless]

/-- Whatever the service answers, an advisor has such a conversation with it. -/
theorem advise_conversation (advisor : Advisor σ) (question : Question) (remote : σ)
    (files : FileSystem) :
    let run := (advisor.advise question).start (.start remote files)
    Conversation advisor question (advisor.filesAfterPrompt question files) run.2.exchanges
      run.1 := by
  obtain ⟨result, next, exchanges, run, goes, course⟩ :=
    advisor.advise_course question (.start remote files)
  have recorded : next.exchanges = exchanges := goes.recorded
  simp only [run, recorded]
  exact course.conversation

end Advisor

end BattleAdvisor
