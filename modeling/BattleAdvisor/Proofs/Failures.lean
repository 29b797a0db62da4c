import BattleAdvisor.Advice.CommonTypes
import BattleAdvisor.Proofs.Battle
import BattleAdvisor.Proofs.Conversation
import BattleAdvisor.Proofs.FileSystem.Walk
import BattleAdvisor.Remote.Store

/-!
# How a run can fail

A question is accepted on the files on which it is answered. What was found out about its directory
then is enough later: the walk through it does not fail, whatever links there are, and each file
that it meets can be read. So the files are no cause of failure (`advise_on_accepted`).
-/

namespace BattleAdvisor

/-- The failures that an accepted question can still meet. -/
inductive AdviceError.Late : AdviceError → Prop
  | conflict (why : Conflict) : Late (.conflict why)
  | remote (error : ServiceError) : Late (.remote error)
  | generationFailed (reason : String) : Late (.generationFailed reason)

/-- A path that leads to a file can be read. -/
theorem FileSystem.exists_read {fs : FileSystem} {path : Path} (found : fs.isFile path = true) :
    ∃ content, fs.read path = .ok content := by
  unfold isFile at found
  split at found
  next content leads =>
    refine ⟨content, ?_⟩
    rw [read, leads]
  next => cases found

/-- If all paths that a walk through a directory meets are short enough, it does not fail. -/
theorem FileSystem.error_notMem_walk {fs : FileSystem} {dir : Path}
    (found : fs.isDirectory dir = true)
    (short : ∀ path, .ok path ∈ fs.walk dir → path.bytes.length ≤ pathLimit) (error : IoError) :
    .error error ∉ fs.walk dir := by
  intro failed
  obtain ⟨long, -, length, met⟩ := exists_long found failed
  exact Nat.not_lt.mpr (short long met) length

/-- Whether all paths that a walk meets are short enough can be decided. -/
theorem Visit.length_le_of_all {visits : List Visit}
    (short : (visits.all fun visit => visit.toOption.all fun path =>
      path.bytes.length ≤ pathLimit) = true) {path : Path} (met : .ok path ∈ visits) :
    path.bytes.length ≤ pathLimit := by
  simpa [Except.toOption] using List.all_eq_true.mp short _ met

namespace Provision

variable {files : FileSystem} {exchanges : List Exchange}

theorem CacheCourse.late {request : CacheRequest} {result : Except AdviceError ContentCache}
    (course : CacheCourse request exchanges result) {error : AdviceError}
    (failed : result = .error error) : error.Late := by
  cases course with
  | unlisted error' | refused error' =>
    cases failed
    exact .remote error'
  | found | created => cases failed

variable [MediaTypes]

theorem FileCourse.late {name : String} {path : Path} {result : Except AdviceError UploadedFile}
    (course : FileCourse files name path exchanges result) (found : files.isFile path = true)
    {error : AdviceError} (failed : result = .error error) : error.Late := by
  cases course with
  | unlisted error' | refused error' =>
    cases failed
    exact .remote error'
  | found | uploaded => cases failed
  | unread _ unread =>
    obtain ⟨content, read⟩ := FileSystem.exists_read found
    cases unread.symm.trans read

theorem VisitsCourse.late {name : Path → String} {accepts : Path → Bool} {visits : List Visit}
    {result : Except AdviceError (List UploadedFile)}
    (course : VisitsCourse files name accepts visits exchanges result)
    (walkable : ∀ error, .error error ∉ visits) {error : AdviceError}
    (failed : result = .error error) : error.Late := by
  induction course with
  | done => cases failed
  | unwalkable error' rest => exact absurd List.mem_cons_self (walkable error')
  | passed _ _ ih =>
    exact ih (fun error among => walkable error (List.mem_cons_of_mem _ among)) failed
  | stopped wanted first =>
    exact first.late (Bool.and_eq_true_iff.mp wanted).1 (by cases failed; rfl)
  | @taken _ _ _ _ _ result _ _ _ ih =>
    cases result with
    | ok others => cases failed
    | error error' =>
      cases failed
      exact ih (fun error among => walkable error (List.mem_cons_of_mem _ among)) rfl

end Provision

namespace Advisor

open Provision

variable {σ : Type} {advisor : Advisor σ} {question : Question} {files : FileSystem}
  {exchanges : List Exchange}

/-- The walk through the data directory does not fail. -/
def Walkable (question : Question) (files : FileSystem) : Prop :=
  ∀ dir, question.dataDirectory? = some dir → ∀ error, .error error ∉ files.walk dir

theorem textOf_late {reply : ModelReply} {error : AdviceError}
    (failed : textOf reply = .error error) : error.Late := by
  unfold textOf at failed
  split at failed
  · split at failed
    · cases failed
      exact .generationFailed _
    · cases failed
  · cases failed
    exact .generationFailed _

theorem ContextCourse.late {model : String} {uploads : List UploadedFile}
    {result : Except AdviceError (Option ContentCache)}
    (course : ContextCourse advisor question model uploads exchanges result) {error : AdviceError}
    (failed : result = .error error) : error.Late := by
  cases course with
  | @provided _ result _ cache =>
    cases result with
    | ok found => cases failed
    | error error' =>
      cases failed
      exact cache.late rfl
  | unwanted => cases failed

section

variable [MediaTypes]

theorem FilesCourse.late {result : Except AdviceError (List UploadedFile)}
    (course : FilesCourse advisor question files exchanges result)
    (walkable : Walkable question files) {error : AdviceError} (failed : result = .error error) :
    error.Late := by
  cases course with
  | walked given _ visits => exact visits.late (walkable _ given) failed
  | unwanted => cases failed

theorem PrepareCourse.late {result : Except AdviceError ModelRequest}
    (course : PrepareCourse advisor question files exchanges result)
    (walkable : Walkable question files) {error : AdviceError} (failed : result = .error error) :
    error.Late := by
  cases course with
  | rejected unfit =>
    cases failed
    obtain ⟨why, rfl⟩ := Question.conflict_of_check unfit
    exact .conflict why
  | noModel _ error' =>
    cases failed
    exact .remote error'
  | provided _ card course =>
    cases course with
    | noFiles provided => exact provided.late walkable (by cases failed; rfl)
    | noCache _ context => exact context.late (by cases failed; rfl)
    | formed => cases failed

theorem Course.late {result : Except AdviceError String}
    (course : Course advisor question files exchanges result)
    (walkable : Walkable question files) {error : AdviceError} (failed : result = .error error) :
    error.Late := by
  cases course with
  | unprepared prepared => exact prepared.late walkable (by cases failed; rfl)
  | refused =>
    cases failed
    exact .generationFailed _
  | generated _ reply => exact textOf_late failed

/-- **Early checks suffice.** Answering an accepted question on the same files without notes fails,
if at all, for the choices, the service or the generation, as far as the paths in the data directory
are not too long: the walk through it does not fail, and what it selects can be read. -/
theorem advise_on_accepted (advisor : Advisor σ) (off : advisor.notes = .off) (remote : σ)
    {player? battle? : Option String} {useCache : Bool} {dataDirectory? : Option Path}
    {useDataFiles : Bool}
    (accepted : Question.make files player? battle? useCache dataDirectory? useDataFiles =
      .ok question)
    (short : ∀ dir, dataDirectory? = some dir → ∀ path, .ok path ∈ files.walk dir →
      path.bytes.length ≤ pathLimit) :
    (∀ error, ((advisor.advise question).start (.start remote files)).1 = .error error →
      error.Late) ∧
    (∀ dir, dataDirectory? = some dir → (∀ error, .error error ∉ files.walk dir) ∧
      ∀ path, .ok path ∈ files.walk dir → files.isFile path = true →
        advisor.preferences.selects path = true → ∃ content, files.read path = .ok content) := by
  have made := Battle.of_make accepted
  have walkable : ∀ dir, dataDirectory? = some dir → ∀ error, .error error ∉ files.walk dir :=
    fun dir given => FileSystem.error_notMem_walk (made.found dir given) (short dir given)
  constructor
  · intro error failed
    obtain ⟨result, next, exchanges, run, -, course⟩ :=
      advisor.advise_course question (.start remote files)
    have unchanged : advisor.filesAfterPrompt question files = files := by
      rw [filesAfterPrompt, off]
      rfl
    rw [run] at failed
    refine course.late ?_ failed
    intro dir given
    show ∀ error, .error error ∉ (advisor.filesAfterPrompt question files).walk dir
    rw [unchanged]
    exact walkable dir (made.given.symm.trans given)
  · intro dir given
    exact ⟨walkable dir given, fun path _ found _ => FileSystem.exists_read found⟩

end

/-- A directory with a data file and three links: to that file, to nothing, and to itself. -/
def linkedFiles : FileSystem :=
  ⟨.directory [(Utf8.encode "d", .directory [
    (Utf8.encode "a.json", .file [0x31]), (Utf8.encode "b.json", .link (.ofString "a.json")),
    (Utf8.encode "c.json", .link (.ofString "gone")),
    (Utf8.encode "e.json", .link (.ofString "e.json"))])], []⟩

/-- A question about the data files there. The store never replies, and that is why it fails. -/
theorem advise_on_linkedFiles :
    let dir := Path.ofString "d"
    let question : Question := ⟨"p1", Battle.leastBattle.write, true, some dir, true⟩
    let advisor : Advisor Store := ⟨Store.service, .usual, ⟨"c", "p"⟩, .off⟩
    let run := (advisor.advise question).start (.start ⟨[], [], none, [], [], true, []⟩ linkedFiles)
    Question.make linkedFiles (some "p1") (some Battle.leastBattle.write) true (some dir) true =
      .ok question ∧
    (∀ error, run.1 = .error error → error.Late) ∧ (∀ error, .error error ∉ linkedFiles.walk dir) ∧
    run.1.toOption = none := by
  have named : Battle.readPlayer (some "p1") = .ok "p1" := by
    rw [Battle.readPlayer, if_neg (by decide), if_pos (by decide)]
  have accepted := Battle.make_of_isDirectory named Battle.readBattle_leastBattle
    (by decide : (Path.ofString "d").bytes ≠ [])
    (by decide +kernel : linkedFiles.isDirectory (Path.ofString "d") = true) true true
  have answered := advise_on_accepted ⟨Store.service, .usual, ⟨"c", "p"⟩, .off⟩ rfl
    ⟨[], [], none, [], [], true, []⟩ accepted (by
      rintro dir ⟨⟩ path met
      exact Visit.length_le_of_all (by decide +kernel) met)
  exact ⟨accepted, answered.1, (answered.2 _ rfl).1, by decide +kernel⟩

end Advisor

end BattleAdvisor
