import BattleAdvisor.Proofs.Course

/-!
# Courses in sequence

Everything a run does before the model generates is put together from the courses of a file, of a
cache and of a model: one part behind another, up to the first that fails (`Courses.Then`). What is
`Closed` under that and holds of the parts holds of the whole (`VisitsCourse.of_closed`,
`PrepareCourse.of_closed`).
-/

namespace BattleAdvisor

/-- The courses of a part of a run. -/
abbrev Courses (α : Type) := List Exchange → Except AdviceError α → Prop

namespace Courses

theorem ext {α : Type} {course course' : Courses α}
    (h : ∀ exchanges result, course exchanges result ↔ course' exchanges result) :
    course = course' := by
  funext exchanges result
  exact propext (h exchanges result)

/-- No exchange, and the value. -/
def Done {α : Type} (a : α) : Courses α :=
  fun exchanges result => exchanges = [] ∧ result = .ok a

/-- No exchange, and the error. -/
def Stuck {α : Type} (error : AdviceError) : Courses α :=
  fun exchanges result => exchanges = [] ∧ result = .error error

/-- One part, and behind it another, if the first one does not fail. -/
inductive Then {α β : Type} (first : Courses α) (second : α → Courses β) :
    List Exchange → Except AdviceError β → Prop
  | stopped {exchanges : List Exchange} {error : AdviceError}
      (failed : first exchanges (.error error)) :
      Then first second exchanges (.error error)
  | continued {before after : List Exchange} {a : α} {result : Except AdviceError β}
      (here : first before (.ok a)) (there : second a after result) :
      Then first second (before ++ after) result

/-- A property of courses that goes on to parts in sequence. -/
structure Closed (P : (α : Type) → Courses α → Prop) : Prop where
  done : ∀ {α : Type} (a : α), P α (Done a)
  stuck : ∀ {α : Type} (error : AdviceError), P α (Stuck error)
  bind : ∀ {α β : Type} {first : Courses α} {second : α → Courses β},
    P α first → (∀ a, P β (second a)) → P β (Then first second)

/-- Everything that parts say is said by one of them. -/
theorem closed_forall (holds : Exchange → Prop) :
    Closed fun α course => ∀ exchanges (result : Except AdviceError α), course exchanges result →
      ∀ exchange ∈ exchanges, holds exchange where
  done := by
    rintro α a _ _ ⟨rfl, -⟩ exchange ⟨⟩
  stuck := by
    rintro α error _ _ ⟨rfl, -⟩ exchange ⟨⟩
  bind := by
    rintro α β first second here there _ _ (failed | ⟨course, course'⟩) exchange h
    · exact here _ _ failed exchange h
    · obtain h | h := List.mem_append.mp h
      · exact here _ _ course exchange h
      · exact there _ _ _ course' exchange h

end Courses

/-! ## Provision -/

namespace Provision

open Courses

variable [MediaTypes] {files : FileSystem} {name : Path → String} {accepts : Path → Bool}
  {rest : List Visit}

theorem visitsCourse_nil : VisitsCourse files name accepts [] = Done [] := by
  refine Courses.ext fun exchanges result => ⟨?_, ?_⟩
  · rintro ⟨⟩
    exact ⟨rfl, rfl⟩
  · rintro ⟨rfl, rfl⟩
    exact .done

theorem visitsCourse_error (error : IoError) :
    VisitsCourse files name accepts (.error error :: rest) = Stuck (.io error) := by
  refine Courses.ext fun exchanges result => ⟨?_, ?_⟩
  · rintro ⟨⟩
    exact ⟨rfl, rfl⟩
  · rintro ⟨rfl, rfl⟩
    exact .unwalkable error rest

theorem visitsCourse_unwanted {path : Path}
    (unwanted : (files.isFile path && accepts path) = false) :
    VisitsCourse files name accepts (.ok path :: rest) = VisitsCourse files name accepts rest := by
  refine Courses.ext fun exchanges result => ⟨?_, .passed unwanted⟩
  intro course
  cases course with
  | passed _ others => exact others
  | stopped wanted | taken wanted => exact nomatch unwanted.symm.trans wanted

/-- What a walk meets is obtained one by one. -/
theorem visitsCourse_wanted {path : Path} (wanted : (files.isFile path && accepts path) = true) :
    VisitsCourse files name accepts (.ok path :: rest) =
      Then (FileCourse files (name path) path) fun file =>
        Then (VisitsCourse files name accepts rest) fun others => Done (file :: others) := by
  refine Courses.ext fun exchanges result => ⟨?_, ?_⟩
  · intro course
    cases course with
    | passed unwanted others => exact nomatch wanted.symm.trans unwanted
    | stopped wanted first => exact .stopped first
    | @taken _ _ before after file result wanted first others =>
      refine .continued first ?_
      cases result with
      | error error => exact .stopped others
      | ok found => exact List.append_nil after ▸ .continued others ⟨rfl, rfl⟩
  · rintro (first | ⟨first, others | ⟨others, rfl, rfl⟩⟩)
    · exact .stopped wanted first
    · exact .taken wanted first others
    · rw [List.append_nil]
      exact .taken wanted first others

/-- What holds of files in sequence holds of a walk. -/
theorem VisitsCourse.of_closed {P : (α : Type) → Courses α → Prop} (closed : Closed P)
    (file : ∀ name path, P _ (FileCourse files name path)) (visits : List Visit) :
    P _ (VisitsCourse files name accepts visits) := by
  induction visits with
  | nil =>
    rw [visitsCourse_nil]
    exact closed.done []
  | cons visit rest ih =>
    cases visit with
    | error error =>
      rw [visitsCourse_error]
      exact closed.stuck _
    | ok path =>
      cases wanted : files.isFile path && accepts path with
      | false =>
        rw [visitsCourse_unwanted wanted]
        exact ih
      | true =>
        rw [visitsCourse_wanted wanted]
        exact closed.bind (file _ _) fun first => closed.bind ih fun others => closed.done _

end Provision

/-! ## Answers -/

namespace Advisor

open Provision Courses

variable [MediaTypes] {σ : Type} {advisor : Advisor σ} {question : Question} {files : FileSystem}
  {model : String} {uploads : List UploadedFile}

/-- The courses of asking for a model. -/
inductive CardCourse (model : String) : List Exchange → Except AdviceError ModelCard → Prop
  | refused (error : ServiceError) :
      CardCourse model [⟨.getModel model, .error error⟩] (.error (.remote error))
  | found (card : ModelCard) : CardCourse model [⟨.getModel model, .ok card⟩] (.ok card)

theorem filesCourse_unwanted
    (unwanted : question.dataDirectory? = none ∨ question.useDataFiles = false) :
    FilesCourse advisor question files = Done [] := by
  refine Courses.ext fun exchanges result => ⟨?_, ?_⟩
  · rintro (⟨given, wanted, -⟩ | -)
    · simp [given, wanted] at unwanted
    · exact ⟨rfl, rfl⟩
  · rintro ⟨rfl, rfl⟩
    exact .unwanted unwanted

theorem filesCourse_wanted {dir : Path} (given : question.dataDirectory? = some dir)
    (wanted : question.useDataFiles = true) :
    FilesCourse advisor question files =
      VisitsCourse files (displayName advisor.preferences.filePrefix dir)
        advisor.preferences.selects (files.walk dir) := by
  refine Courses.ext fun exchanges result => ⟨?_, .walked given wanted⟩
  rintro (⟨given', -, visits⟩ | unwanted)
  · obtain rfl := Option.some.inj (given.symm.trans given')
    exact visits
  · simp [given, wanted] at *

omit [MediaTypes] in
theorem contextCourse_unwanted (unwanted : question.useCache = false) :
    ContextCourse advisor question model uploads = Done none := by
  refine Courses.ext fun exchanges result => ⟨?_, ?_⟩
  · rintro (⟨wanted, -⟩ | -)
    · exact nomatch unwanted.symm.trans wanted
    · exact ⟨rfl, rfl⟩
  · rintro ⟨rfl, rfl⟩
    exact .unwanted unwanted

omit [MediaTypes] in
theorem contextCourse_wanted (wanted : question.useCache = true) :
    ContextCourse advisor question model uploads =
      Then (CacheCourse (advisor.cacheRequest model uploads)) fun cache => Done (some cache) := by
  refine Courses.ext fun exchanges result => ⟨?_, ?_⟩
  · rintro (@⟨_, result, -, course⟩ | unwanted)
    · cases result with
      | error error => exact .stopped course
      | ok cache => exact List.append_nil exchanges ▸ .continued course ⟨rfl, rfl⟩
    · exact nomatch wanted.symm.trans unwanted
  · rintro (course | ⟨course, rfl, rfl⟩)
    · exact .provided wanted course
    · rw [List.append_nil]
      exact .provided wanted course

theorem requestCourse_eq :
    RequestCourse advisor question model files =
      Then (FilesCourse advisor question files) fun uploads =>
        Then (ContextCourse advisor question model uploads) fun cache? =>
          Done ⟨model, advisor.promptOf question,
            configuration advisor.templates.context cache?⟩ := by
  refine Courses.ext fun exchanges result => ⟨?_, ?_⟩
  · rintro (provided | ⟨provided, context⟩ | @⟨steps, ending, _, _, provided, context⟩)
    · exact .stopped provided
    · exact .continued provided (.stopped context)
    · exact .continued provided (List.append_nil ending ▸ .continued context ⟨rfl, rfl⟩)
  · rintro (provided | ⟨provided, context | ⟨context, rfl, rfl⟩⟩)
    · exact .noFiles provided
    · exact .noCache provided context
    · rw [List.append_nil]
      exact .formed provided context

theorem prepareCourse_rejected {error : AdviceError} (unfit : question.check = .error error) :
    PrepareCourse advisor question files = Stuck error := by
  refine Courses.ext fun exchanges result => ⟨?_, ?_⟩
  · intro course
    cases course with
    | rejected unfit' => exact ⟨rfl, by rw [Except.error.inj (unfit.symm.trans unfit')]⟩
    | noModel fit | provided fit => exact nomatch unfit.symm.trans fit
  · rintro ⟨rfl, rfl⟩
    exact .rejected unfit

theorem prepareCourse_fit (fit : question.check = .ok ()) :
    PrepareCourse advisor question files =
      Then (CardCourse advisor.preferences.model) fun card =>
        RequestCourse advisor question card.name files := by
  refine Courses.ext fun exchanges result => ⟨?_, ?_⟩
  · intro course
    cases course with
    | rejected unfit => exact nomatch fit.symm.trans unfit
    | noModel _ error => exact .stopped (.refused error)
    | provided _ card course => exact Then.continued (CardCourse.found card) course
  · rintro (failed | ⟨here, course⟩)
    · cases failed
      exact .noModel fit _
    · cases here
      exact .provided fit _ course

/-- What holds of a file, of a cache and of a model, in sequence, holds of everything before the
model generates. -/
theorem PrepareCourse.of_closed {P : (α : Type) → Courses α → Prop} (closed : Closed P)
    (file : ∀ name path, P _ (FileCourse files name path))
    (cache : ∀ request, P _ (CacheCourse request)) (card : ∀ model, P _ (CardCourse model)) :
    P _ (PrepareCourse advisor question files) := by
  have ofFiles : P _ (FilesCourse advisor question files) := by
    by_cases unwanted : question.dataDirectory? = none ∨ question.useDataFiles = false
    · rw [filesCourse_unwanted unwanted]
      exact closed.done []
    · obtain ⟨dir, given⟩ := Option.ne_none_iff_exists'.mp fun h => unwanted (.inl h)
      rw [filesCourse_wanted given (by simpa using fun h => unwanted (.inr h))]
      exact VisitsCourse.of_closed closed file (files.walk dir)
  have ofContext (model : String) (uploads : List UploadedFile) :
      P _ (ContextCourse advisor question model uploads) := by
    cases wanted : question.useCache with
    | false =>
      rw [contextCourse_unwanted wanted]
      exact closed.done none
    | true =>
      rw [contextCourse_wanted wanted]
      exact closed.bind (cache _) fun found => closed.done _
  cases fit : question.check with
  | error error =>
    rw [prepareCourse_rejected fit]
    exact closed.stuck error
  | ok _ =>
    rw [prepareCourse_fit fit]
    refine closed.bind (card _) fun found => ?_
    rw [requestCourse_eq]
    exact closed.bind ofFiles fun uploads =>
      closed.bind (ofContext _ uploads) fun cache? => closed.done _

end Advisor

end BattleAdvisor
