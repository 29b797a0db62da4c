import BattleAdvisor.Advice.CommonTypes
import BattleAdvisor.Proofs.Contents
import BattleAdvisor.Proofs.Failures
import BattleAdvisor.Proofs.FileSystem.Links
import BattleAdvisor.Proofs.FileSystem.Order

/-!
# Which files are provided

`FileSystem.Selects` says which files of a directory are to be provided, without a walk: those to
which a path leads, through links as well, that goes on from the directory through directories that
are no links. `Provision.InTurn` says that files are provided one after another.

**Theorem (`provide_selects`).** If no call fails, the selected files are provided in turn, in
ascending order of the names that lead to them, each once, and no others. The order in which
directories list their entries does not matter.
-/

namespace BattleAdvisor

/-- The names lead from a directory to a file that is to be provided. -/
structure FileSystem.Selects (fs : FileSystem) (accepts : Path → Bool) (dir : Path)
    (names : Location) : Prop where
  below : names ≠ []
  /-- The directory's path may be a link; the names go through directories only. -/
  reached : ∃ root node, fs.LeadsTo dir root ∧ root.at? names = some node
  /-- The last name may be that of a link. -/
  file : ∃ content, fs.LeadsTo (dir.below names) (.file content)
  accepted : accepts (dir.below names) = true

namespace FileSystem

variable {fs : FileSystem} {accepts : Path → Bool} {dir : Path} {root : Node}

theorem exists_leadsTo (found : fs.isDirectory dir = true) :
    ∃ entries, fs.LeadsTo dir (.directory entries) := by
  unfold isDirectory at found
  split at found
  next entries leads => exact ⟨entries, stat_eq_ok_iff.mp leads⟩
  next => cases found

theorem LeadsTo.proper {p : Path} {node : Node} (leads : fs.LeadsTo p node)
    (proper : fs.top.Proper) : node.Proper := by
  obtain ⟨-, links, -, last, -, there⟩ := leads
  exact proper.at? there

/-- A walk that does not fail meets the directory, and below it a path for each location. -/
theorem walk_eq_below (leads : fs.LeadsTo dir root)
    (walkable : ∀ error, .error error ∉ fs.walk dir) :
    fs.walk dir = .ok dir :: root.locationsBelow.map fun names => .ok (dir.below names) := by
  have whole := walk_eq_visitsAt leads
  rw [whole] at walkable ⊢
  rw [Node.visitsAt, root.visitsBelow_eq dir]
  exact fun error among => walkable error (List.mem_cons_of_mem _ among)

/-- Where the files are that are to be provided, if the path of the directory leads to that node. -/
def selectedBelow (fs : FileSystem) (accepts : Path → Bool) (dir : Path) (root : Node) :
    List Location :=
  root.locationsBelow.filter fun names =>
    fs.isFile (dir.below names) && accepts (dir.below names)

theorem mem_selectedBelow (proper : fs.top.Proper) (leads : fs.LeadsTo dir root)
    {names : Location} :
    names ∈ fs.selectedBelow accepts dir root ↔ fs.Selects accepts dir names := by
  rw [selectedBelow, List.mem_filter, (leads.proper proper).mem_locationsBelow,
    Bool.and_eq_true_iff, isFile_iff]
  constructor
  · rintro ⟨⟨below, node, there⟩, file, accepted⟩
    exact ⟨below, ⟨root, node, leads, there⟩, file, accepted⟩
  · rintro ⟨below, ⟨root', node, leads', there⟩, file, accepted⟩
    obtain rfl := leads.unique leads'
    exact ⟨⟨below, node, there⟩, file, accepted⟩

/-- The selected locations ascend, name by name. -/
theorem ascending_selectedBelow (proper : fs.top.Proper) (leads : fs.LeadsTo dir root) :
    (fs.selectedBelow accepts dir root).Pairwise (· < ·) :=
  (leads.proper proper).ascending_locationsBelow.filter _

/-- Different locations have different paths. -/
theorem nodup_selectedBelow (proper : fs.top.Proper) (leads : fs.LeadsTo dir root)
    (given : dir.bytes ≠ []) : ((fs.selectedBelow accepts dir root).map dir.below).Nodup := by
  have distinct : (fs.selectedBelow accepts dir root).Nodup :=
    (ascending_selectedBelow proper leads).nodup
  apply distinct.map_on
  intro names among names' among' same
  have ordinary {names : Location} (among : names ∈ fs.selectedBelow accepts dir root) :
      ∀ name ∈ names, Name.Ordinary name :=
    (leads.proper proper).ordinary_of_mem (List.mem_of_mem_filter among)
  exact Path.below_injective given (ordinary among) (ordinary among') same

end FileSystem

namespace Provision

open FileSystem

variable {files : FileSystem} {name : Path → String} {accepts : Path → Bool} {dir : Path}
  {root : Node} {exchanges : List Exchange}

/-- The paths of the files that a walk meets, as far as they are wanted. -/
def wantedPaths (files : FileSystem) (accepts : Path → Bool) (visits : List Visit) : List Path :=
  (visits.filterMap Except.toOption).filter fun path => files.isFile path && accepts path

/-- What a walk through a directory wants is what is selected. -/
theorem wantedPaths_walk (found : files.isDirectory dir = true) (leads : files.LeadsTo dir root)
    (walkable : ∀ error, .error error ∉ files.walk dir) :
    wantedPaths files accepts (files.walk dir) =
      (files.selectedBelow accepts dir root).map dir.below := by
  have paths : (files.walk dir).filterMap Except.toOption =
      dir :: root.locationsBelow.map dir.below := by
    rw [walk_eq_below leads walkable]
    simp [List.filterMap_map, Function.comp_def, Except.toOption]
  rw [wantedPaths, paths, List.filter_cons_of_neg (by simp [isFile_of_isDirectory found]),
    List.filter_map]
  rfl

section

variable [MediaTypes]

/-- Files are obtained one after another: the exchanges for each of them, and what comes of it. -/
inductive InTurn (files : FileSystem) (name : Path → String) :
    List Path → List Exchange → List UploadedFile → Prop
  | nil : InTurn files name [] [] []
  | cons {path : Path} {paths : List Path} {before after : List Exchange} {file : UploadedFile}
      {uploads : List UploadedFile} (first : FileCourse files (name path) path before (.ok file))
      (others : InTurn files name paths after uploads) :
      InTurn files name (path :: paths) (before ++ after) (file :: uploads)

/-- A file that can be read is obtained if no call fails. -/
theorem FileCourse.ok_of_answered {displayName : String} {path : Path}
    {result : Except AdviceError UploadedFile}
    (course : FileCourse files displayName path exchanges result)
    (found : files.isFile path = true) (answered : Answered exchanges) :
    ∃ file, result = .ok file := by
  cases course with
  | unlisted error => exact (answered.failed_notMem (.head _)).elim
  | refused error => exact (answered.failed_notMem (.tail _ (.head _))).elim
  | unread _ unread =>
    obtain ⟨content, read⟩ := FileSystem.exists_read found
    cases unread.symm.trans read
  | found | uploaded => exact ⟨_, rfl⟩

/-- If neither the walk nor a call fails, the wanted files are obtained in turn. -/
theorem VisitsCourse.inTurn {visits : List Visit} {result : Except AdviceError (List UploadedFile)}
    (course : VisitsCourse files name accepts visits exchanges result)
    (walkable : ∀ error, .error error ∉ visits) (answered : Answered exchanges) :
    ∃ uploads, result = .ok uploads ∧
      InTurn files name (wantedPaths files accepts visits) exchanges uploads := by
  induction course with
  | done => exact ⟨[], rfl, .nil⟩
  | unwalkable error rest => exact absurd List.mem_cons_self (walkable error)
  | @passed path rest exchanges result unwanted _ ih =>
    have skipped : wantedPaths files accepts (.ok path :: rest) = wantedPaths files accepts rest :=
      List.filter_cons_of_neg (by simpa using unwanted)
    rw [skipped]
    exact ih (fun error among => walkable error (List.mem_cons_of_mem _ among)) answered
  | stopped wanted first =>
    obtain ⟨file, ⟨⟩⟩ := first.ok_of_answered (Bool.and_eq_true_iff.mp wanted).1 answered
  | @taken path rest before after file result wanted first _ ih =>
    have taken : wantedPaths files accepts (.ok path :: rest) =
        path :: wantedPaths files accepts rest := List.filter_cons_of_pos wanted
    obtain ⟨-, answered⟩ := (answered_append before after).mp answered
    obtain ⟨uploads, rfl, others⟩ :=
      ih (fun error among => walkable error (List.mem_cons_of_mem _ among)) answered
    rw [taken]
    exact ⟨file :: uploads, rfl, .cons first others⟩

variable {σ : Type}

/-- A run that provides the files of a directory. -/
def provide (service : Service σ) (start : String) (dir : Path) (accepts : Path → Bool)
    (files : FileSystem) (remote : σ) : Except AdviceError (List UploadedFile) × World σ :=
  (obtainDirectory service start dir accepts).start (.start remote files)

/-- The courses of such a run. -/
theorem provide_course (service : Service σ) (start : String) (dir : Path) (accepts : Path → Bool)
    (files : FileSystem) (remote : σ) :
    VisitsCourse files (displayName start dir) accepts (files.walk dir)
      (provide service start dir accepts files remote).2.exchanges
      (provide service start dir accepts files remote).1 ∧
    service.Served remote (provide service start dir accepts files remote).2.exchanges
      (provide service start dir accepts files remote).2.remote := by
  obtain ⟨result, next, exchanges, run, goes, -, course⟩ :=
    obtainDirectory_course service start dir accepts (.start remote files)
  have recorded : next.exchanges = exchanges := goes.recorded
  rw [provide, run, recorded]
  exact ⟨course, goes.served⟩

/-- A run takes the course that the service answers. -/
theorem provide_of_course {service : Service σ} {start : String} {files : FileSystem}
    {result : Except AdviceError (List UploadedFile)} {first last : σ}
    (course : VisitsCourse files (displayName start dir) accepts (files.walk dir) exchanges result)
    (served : service.Served first exchanges last) :
    (provide service start dir accepts files first).1 = result ∧
      (provide service start dir accepts files first).2.exchanges = exchanges ∧
      (provide service start dir accepts files first).2.remote = last := by
  obtain ⟨next, run, goes, -, arrived⟩ := obtainVisits_of_course service course
    ⟨first, files, [], [⟨.info, s!"Ensuring all files in {dir.display} are uploaded"⟩]⟩ rfl served
  have whole : provide service start dir accepts files first = (result, next) := by
    unfold provide obtainDirectory
    rw [Action.start_bind_ok (Action.start_report ..), Action.start_bind_ok (Action.start_files _)]
    exact run
  rw [whole]
  exact ⟨rfl, goes.recorded, arrived⟩

/-- **The files of a directory.** If no call fails and no path is too long, exactly the selected
files are provided, each once and in ascending order of the names that lead to them. A walk that
sorts what directories list, in whatever order, is the same. -/
theorem provide_selects (service : Service σ) (start : String) (accepts : Path → Bool)
    (remote : σ) {fs : FileSystem} (proper : fs.top.Proper)
    (found : Question.readDirectory fs (some dir) = .ok dir)
    (short : ∀ path, .ok path ∈ fs.walk dir → path.bytes.length ≤ pathLimit)
    (answered : Answered (provide service start dir accepts fs remote).2.exchanges) :
    ∃ (selected : List Location) (uploads : List UploadedFile),
      (∀ names, names ∈ selected ↔ fs.Selects accepts dir names) ∧
      selected.Pairwise (· < ·) ∧ (selected.map dir.below).Nodup ∧
      (provide service start dir accepts fs remote).1 = .ok uploads ∧
      InTurn fs (displayName start dir) (selected.map dir.below)
        (provide service start dir accepts fs remote).2.exchanges uploads ∧
      ∀ root listed, fs.LeadsTo dir root → Node.Rearranged listed root →
        .ok dir :: listed.sortedVisitsBelow dir = fs.walk dir := by
  obtain ⟨-, given, found⟩ := Battle.readDirectory_eq_ok.mp found
  obtain ⟨entries, leads⟩ := exists_leadsTo found
  have walkable := error_notMem_walk found short
  obtain ⟨course, -⟩ := provide_course service start dir accepts fs remote
  obtain ⟨uploads, obtained, inTurn⟩ := course.inTurn walkable answered
  refine ⟨fs.selectedBelow accepts dir (.directory entries), uploads, ?_, ?_, ?_, obtained, ?_, ?_⟩
  · intro names
    exact mem_selectedBelow proper leads
  · exact ascending_selectedBelow proper leads
  · exact nodup_selectedBelow proper leads given
  · rw [← wantedPaths_walk found leads walkable]
    exact inTurn
  · intro root listed leads rearranged
    rw [rearranged.sortedVisitsBelow_eq (leads.proper proper), walk_eq_visitsAt leads]
    rfl

end

/-- A directory behind a link. It has a directory with a file, a file of which the name begins like
that of the directory, and links to that file, to nothing, to itself and to the directory. -/
def linkedTree : FileSystem :=
  ⟨.directory [(Utf8.encode "d", .link (.ofString "real")), (Utf8.encode "real", .directory [
    (Utf8.encode "a", .directory [(Utf8.encode "x", .file [0x31])]),
    (Utf8.encode "a.json", .file [0x32]), (Utf8.encode "b.json", .link (.ofString "a.json")),
    (Utf8.encode "c.json", .link (.ofString "gone")),
    (Utf8.encode "e.json", .link (.ofString "e.json")),
    (Utf8.encode "l", .link (.ofString "a"))])], []⟩

theorem proper_linkedTree : linkedTree.top.Proper := by
  refine .directory (by decide +kernel) (by decide +kernel) ?_
  simp only [List.forall_mem_cons]
  refine ⟨.link _, .directory (by decide +kernel) (by decide +kernel) ?_, List.forall_mem_nil _⟩
  simp only [List.forall_mem_cons]
  refine ⟨.directory (by decide +kernel) (by decide +kernel) ?_, .file _, .link _, .link _, .link _,
    .link _, List.forall_mem_nil _⟩
  simp only [List.forall_mem_cons]
  exact ⟨.file _, List.forall_mem_nil _⟩

/-- What is in the directory `a` comes before `a.json`, and of the links only that to a file
counts. -/
theorem provide_linkedTree :
    let dir := Path.ofString "d"
    let run := provide Store.service "p" dir (fun _ => true) linkedTree
      ⟨[], [], none, [], [], true, []⟩
    linkedTree.top.Proper ∧ Question.readDirectory linkedTree (some dir) = .ok dir ∧
    (∀ path, .ok path ∈ linkedTree.walk dir → path.bytes.length ≤ pathLimit) ∧
    Answered run.2.exchanges ∧
    ∃ (selected : List Location) (uploads : List UploadedFile),
      (∀ names, names ∈ selected ↔ linkedTree.Selects (fun _ => true) dir names) ∧
      selected.Pairwise (· < ·) ∧ run.1 = .ok uploads ∧
      uploads.map (·.displayName?) = [some "p_a_x", some "p_a_json", some "p_b_json"] := by
  have found : Question.readDirectory linkedTree (some (.ofString "d")) = .ok (.ofString "d") :=
    Battle.readDirectory_eq_ok.mpr ⟨rfl, by decide, by decide +kernel⟩
  have short : ∀ path, .ok path ∈ linkedTree.walk (.ofString "d") →
      path.bytes.length ≤ pathLimit := by
    intro path met
    exact Visit.length_le_of_all (by decide +kernel) met
  obtain ⟨selected, uploads, mem, ascending, -, obtained, -⟩ := provide_selects
    Store.service "p" (fun _ => true) ⟨[], [], none, [], [], true, []⟩ proper_linkedTree found short
    (by decide +kernel)
  refine ⟨proper_linkedTree, found, short, by decide +kernel, selected, uploads, mem, ascending,
    obtained, Option.some.inj ?_⟩
  have named := congrArg (fun result => result.toOption.map (·.map (·.displayName?))) obtained
  refine named.symm.trans ?_
  decide +kernel

end Provision

end BattleAdvisor
