import BattleAdvisor.Advice.CommonTypes
import BattleAdvisor.Proofs.Offers
import BattleAdvisor.Proofs.Selection

/-!
# What providing a directory does to a service

`callsFor` are the calls by which files are provided: each file is looked for in a new listing, and
it is uploaded if its display name is neither listed at first nor that of a file before it.

**Theorem (`provide_uploads`).** If no call fails, a service that holds files is called in just this
way, and holds the uploads behind what it held before. What is obtained for each file is the first
thing of its display name. Providing the same files again uploads nothing and obtains the same.
-/

namespace BattleAdvisor

/-- The files that are uploaded by calls. -/
def uploadsOf (calls : List Call) : List Upload :=
  calls.filterMap fun
    | .uploadFile upload => some upload
    | _ => none

@[simp] theorem uploadsOf_listFiles (calls : List Call) :
    uploadsOf (.listFiles :: calls) = uploadsOf calls :=
  rfl

@[simp] theorem uploadsOf_uploadFile (upload : Upload) (calls : List Call) :
    uploadsOf (.uploadFile upload :: calls) = upload :: uploadsOf calls :=
  rfl

theorem mem_uploadsOf {upload : Upload} {calls : List Call} :
    upload ∈ uploadsOf calls ↔ .uploadFile upload ∈ calls := by
  induction calls with
  | nil => simp [uploadsOf]
  | cons call rest ih => cases call <;> simp [uploadsOf, ← ih]

/-- What successful uploads answer. -/
def uploadedFiles (exchanges : List Exchange) : List UploadedFile :=
  exchanges.filterMap fun
    | ⟨.uploadFile _, .ok file⟩ => some file
    | _ => none

namespace Provision

variable {σ : Type} {fs : FileSystem} {name : Path → String} {accepts : Path → Bool}
  {exchanges : List Exchange} {known : List String} {files : List (Path × Bytes)}
  {uploads : List UploadedFile} {contents last : Contents}

theorem fileNames_addFile {file : UploadedFile} {displayName : String}
    (named : file.displayName? = some displayName) :
    (contents.addFile file).fileNames = contents.fileNames ++ [displayName] := by
  simp [Contents.fileNames, Contents.addFile, named]

/-- If no call fails, the display names that come to be listed are those of all uploads. -/
theorem uploadedNames_of_answered (answered : Answered exchanges) :
    uploadedNames exchanges = (uploadsOf (exchanges.map (·.call))).map (·.displayName) := by
  induction exchanges with
  | nil => rfl
  | cons exchange rest ih =>
    obtain ⟨first, others⟩ := (answered_cons exchange rest).mp answered
    obtain ⟨call, result⟩ := exchange
    cases result with
    | error error => cases first
    | ok answer =>
      cases call with
      | uploadFile upload => exact congrArg (List.cons upload.displayName) (ih others)
      | _ => exact ih others

/-- Listings upload nothing. -/
theorem uploadedFiles_of_listFiles (only : ∀ exchange ∈ exchanges, exchange.call = .listFiles) :
    uploadedFiles exchanges = [] := by
  apply List.filterMap_eq_nil_iff.mpr
  rintro ⟨call, result⟩ among
  obtain rfl : call = .listFiles := only _ among
  rfl

/-- What is offered without a failure is wanted, and can be read. -/
theorem wantedPaths_of_offers {visits : List Visit}
    (offered : visits.filterMap (fs.offer? accepts) = files.map .ok) :
    wantedPaths fs accepts visits = files.map Prod.fst ∧
      (∀ file ∈ files, fs.read file.1 = .ok file.2) ∧ ∀ error, .error error ∉ visits := by
  induction visits generalizing files with
  | nil =>
    obtain rfl := List.map_eq_nil_iff.mp offered.symm
    exact ⟨rfl, List.forall_mem_nil _, fun error => List.not_mem_nil⟩
  | cons visit rest ih =>
    cases visit with
    | error error =>
      have here : fs.offer? accepts (.error error) = some (.error error) := rfl
      rw [List.filterMap_cons_some here] at offered
      cases files <;> cases offered
    | ok path =>
      cases here : fs.offer? accepts (.ok path) with
      | none =>
        rw [List.filterMap_cons_none here] at offered
        obtain ⟨paths, read, calm⟩ := ih offered
        have unwanted := FileSystem.offer?_ok_eq_none.mp here
        refine ⟨?_, read, by simpa using calm⟩
        exact (List.filter_cons_of_neg (by simpa using unwanted)).trans paths
      | some offer =>
        obtain ⟨content, leads, accepted, rfl⟩ := FileSystem.offer?_ok_eq_some.mp here
        rw [List.filterMap_cons_some here] at offered
        obtain ⟨file, others, rfl, same, later⟩ := List.map_eq_cons_iff.mp offered.symm
        cases same
        obtain ⟨paths, read, calm⟩ := ih later.symm
        refine ⟨?_, List.forall_mem_cons.mpr ⟨?_, read⟩, by simpa using calm⟩
        · rw [List.map_cons, ← paths]
          exact List.filter_cons_of_pos (by simp [FileSystem.isFile, leads, accepted])
        · rw [FileSystem.read, leads]

section

variable [MediaTypes]

/-- The calls by which files are provided one after another, with the display names that are listed
at first. -/
def callsFor (name : Path → String) : (known : List String) → List (Path × Bytes) → List Call
  | _, [] => []
  | known, (path, bytes) :: rest =>
    if name path ∈ known then .listFiles :: callsFor name known rest
    else .listFiles :: .uploadFile ⟨name path, path.mediaType?, bytes⟩ ::
      callsFor name (known ++ [name path]) rest

/-! ## The calls -/

theorem callsFor_cons_listed {path : Path} (listed : name path ∈ known) (bytes : Bytes)
    (rest : List (Path × Bytes)) :
    callsFor name known ((path, bytes) :: rest) = .listFiles :: callsFor name known rest := by
  rw [callsFor, if_pos listed]

theorem callsFor_cons_new {path : Path} (new : name path ∉ known) (bytes : Bytes)
    (rest : List (Path × Bytes)) :
    callsFor name known ((path, bytes) :: rest) =
      .listFiles :: .uploadFile ⟨name path, path.mediaType?, bytes⟩ ::
        callsFor name (known ++ [name path]) rest := by
  rw [callsFor, if_neg new]

/-- There is a listing for each file. -/
theorem count_listFiles_callsFor (name : Path → String) (known : List String)
    (files : List (Path × Bytes)) :
    (callsFor name known files).count .listFiles = files.length := by
  induction files generalizing known with
  | nil => rfl
  | cons file rest ih =>
    obtain ⟨path, bytes⟩ := file
    by_cases listed : name path ∈ known
    · rw [callsFor_cons_listed listed, List.count_cons_self, ih, List.length_cons]
    · rw [callsFor_cons_new listed, List.count_cons_self, List.count_cons_of_ne (by simp), ih,
        List.length_cons]

/-- Files are listed and uploaded, and nothing else is done. -/
theorem mem_callsFor {call : Call} (made : call ∈ callsFor name known files) :
    call = .listFiles ∨ ∃ upload, call = .uploadFile upload := by
  induction files generalizing known with
  | nil => cases made
  | cons file rest ih =>
    obtain ⟨path, bytes⟩ := file
    by_cases listed : name path ∈ known
    · rw [callsFor_cons_listed listed] at made
      rcases List.mem_cons.mp made with rfl | later
      · exact .inl rfl
      · exact ih later
    · rw [callsFor_cons_new listed] at made
      rcases List.mem_cons.mp made with rfl | made
      · exact .inl rfl
      · rcases List.mem_cons.mp made with rfl | later
        · exact .inr ⟨_, rfl⟩
        · exact ih later

/-- What is uploaded is the first file of its display name, which is new. -/
theorem first_of_mem_callsFor {upload : Upload}
    (made : .uploadFile upload ∈ callsFor name known files) :
    upload.displayName ∉ known ∧ ∃ earlier path bytes later,
      files = earlier ++ (path, bytes) :: later ∧
      (∀ file ∈ earlier, name file.1 ≠ upload.displayName) ∧
      upload = ⟨name path, path.mediaType?, bytes⟩ := by
  induction files generalizing known with
  | nil => cases made
  | cons file rest ih =>
    obtain ⟨path, bytes⟩ := file
    by_cases listed : name path ∈ known
    · rw [callsFor_cons_listed listed] at made
      obtain ⟨new, earlier, path', bytes', later, rfl, others, same⟩ :=
        ih (List.mem_of_ne_of_mem (by simp) made)
      have other : name path ≠ upload.displayName := fun same => new (same ▸ listed)
      exact ⟨new, (path, bytes) :: earlier, path', bytes', later, rfl,
        List.forall_mem_cons.mpr ⟨other, others⟩, same⟩
    · rw [callsFor_cons_new listed] at made
      rcases List.mem_cons.mp (List.mem_of_ne_of_mem (by simp) made) with here | made
      · cases here
        exact ⟨listed, [], path, bytes, rest, rfl, List.forall_mem_nil _, rfl⟩
      · obtain ⟨new, earlier, path', bytes', later, rfl, others, same⟩ := ih made
        rw [List.mem_append, List.mem_singleton, not_or] at new
        exact ⟨new.1, (path, bytes) :: earlier, path', bytes', later, rfl,
          List.forall_mem_cons.mpr ⟨Ne.symm new.2, others⟩, same⟩

/-- Each display name that is new is uploaded once, and no other. -/
theorem count_uploads_callsFor (name : Path → String) (known : List String)
    (files : List (Path × Bytes)) (displayName : String) :
    ((uploadsOf (callsFor name known files)).map (·.displayName)).count displayName =
      if displayName ∈ files.map (name ·.1) ∧ displayName ∉ known then 1 else 0 := by
  induction files generalizing known with
  | nil => simp [callsFor, uploadsOf]
  | cons file rest ih =>
    obtain ⟨path, bytes⟩ := file
    by_cases listed : name path ∈ known
    · rw [callsFor_cons_listed listed, uploadsOf_listFiles, ih]
      congr 1
      grind
    · rw [callsFor_cons_new listed, uploadsOf_listFiles, uploadsOf_uploadFile, List.map_cons,
        List.count_cons, ih]
      by_cases same : name path = displayName
      · subst same
        simp [listed]
      · grind

/-- If all display names are listed, there are only listings. -/
theorem callsFor_of_listed (listed : ∀ file ∈ files, name file.1 ∈ known) :
    callsFor name known files = List.replicate files.length .listFiles := by
  induction files with
  | nil => rfl
  | cons file rest ih =>
    obtain ⟨first, others⟩ := List.forall_mem_cons.mp listed
    rw [callsFor_cons_listed first, ih others]
    rfl

/-! ## What the calls do -/

/-- Files that are obtained in turn are obtained by just these calls, and what they upload comes
behind what was there. -/
theorem InTurn.calls (inTurn : InTurn fs name (files.map Prod.fst) exchanges uploads)
    (read : ∀ file ∈ files, fs.read file.1 = .ok file.2)
    (handled : contents.HandlesAll exchanges last) :
    exchanges.map (·.call) = callsFor name contents.fileNames files ∧
      last.files = contents.files ++ uploadedFiles exchanges ∧ last.caches = contents.caches := by
  induction files generalizing contents exchanges uploads with
  | nil =>
    cases inTurn
    cases handled
    exact ⟨rfl, (List.append_nil _).symm, rfl⟩
  | cons file rest ih =>
    obtain ⟨path, bytes⟩ := file
    obtain ⟨readable, read⟩ := List.forall_mem_cons.mp read
    cases inTurn with
    | cons first others =>
      obtain ⟨next, here, there⟩ := handled.split
      -- The display name is listed, or the file is uploaded and its name is listed from then on.
      rcases first.handled here with ⟨_, ⟨⟩, -⟩ | ⟨_, ⟨⟩, listed, rfl, rfl⟩ |
        ⟨file, bytes', ⟨⟩, absent, rfl, named, readable', rfl⟩
      · obtain ⟨calls, added, kept⟩ := ih others read there
        have known : name path ∈ next.fileNames := by
          by_contra new
          rw [Contents.file?_eq_none.mpr new] at listed
          cases listed
        refine ⟨?_, added, kept⟩
        rw [callsFor_cons_listed known, ← calls]
        rfl
      · obtain ⟨calls, added, kept⟩ := ih others read there
        cases readable.symm.trans readable'
        refine ⟨?_, ?_, kept⟩
        · rw [callsFor_cons_new (Contents.file?_eq_none.mp absent), ← fileNames_addFile named,
            ← calls]
          rfl
        · rw [added, Contents.addFile, List.append_assoc]
          rfl

/-- What is obtained in turn is in the end the first thing of each display name. -/
theorem InTurn.results {paths : List Path} (inTurn : InTurn fs name paths exchanges uploads)
    (handled : contents.HandlesAll exchanges last) :
    uploads.map some = paths.map fun path => last.file? (name path) := by
  induction inTurn generalizing contents with
  | nil => rfl
  | cons first others ih =>
    obtain ⟨next, here, there⟩ := handled.split
    rw [List.map_cons, List.map_cons, ih there, there.within.file?_eq (first.lists here)]

/-! ## Runs -/

/-- What it means to provide files to a service. -/
structure Provides (name : Path → String) (files : List (Path × Bytes)) (before after : Contents)
    (exchanges : List Exchange) (uploads : List UploadedFile) : Prop where
  calls : exchanges.map (·.call) = callsFor name before.fileNames files
  lists : (exchanges.map (·.call)).count .listFiles = files.length
  /-- Each display name that was not there is uploaded once, and no other. -/
  once : ∀ displayName,
    ((uploadsOf (exchanges.map (·.call))).map (·.displayName)).count displayName =
      if displayName ∈ files.map (name ·.1) ∧ displayName ∉ before.fileNames then 1 else 0
  /-- What is uploaded is the first file of its display name. -/
  first : ∀ upload ∈ uploadsOf (exchanges.map (·.call)), ∃ earlier path bytes later,
    files = earlier ++ (path, bytes) :: later ∧
    (∀ file ∈ earlier, name file.1 ≠ upload.displayName) ∧
    upload = ⟨name path, path.mediaType?, bytes⟩
  /-- Files are listed and uploaded, and nothing else is done. -/
  only : ∀ exchange ∈ exchanges,
    exchange.call = .listFiles ∨ ∃ upload, exchange.call = .uploadFile upload
  /-- The uploads come behind what was there, in their order. -/
  added : after.files = before.files ++ uploadedFiles exchanges
  named : (uploadedFiles exchanges).map (·.displayName?) =
    (uploadsOf (exchanges.map (·.call))).map (some ·.displayName)
  caches : after.caches = before.caches
  /-- What is obtained for a file is the first thing of its display name. -/
  results : uploads.map some = files.map fun file => after.file? (name file.1)

/-- Files that are obtained in turn, without a failure, are provided. -/
theorem InTurn.provides (inTurn : InTurn fs name (files.map Prod.fst) exchanges uploads)
    (read : ∀ file ∈ files, fs.read file.1 = .ok file.2) (answered : Answered exchanges)
    (handled : contents.HandlesAll exchanges last) :
    Provides name files contents last exchanges uploads := by
  obtain ⟨calls, added, caches⟩ := inTurn.calls read handled
  constructor
  · exact calls
  · rw [calls, count_listFiles_callsFor]
  · intro displayName
    rw [calls, count_uploads_callsFor]
  · intro upload sent
    rw [calls, mem_uploadsOf] at sent
    exact (first_of_mem_callsFor sent).2
  · intro exchange among
    apply mem_callsFor
    rw [← calls]
    exact List.mem_map_of_mem among
  · exact added
  · obtain ⟨⟨more, grown, named⟩, -⟩ := handled.adds
    obtain rfl : uploadedFiles exchanges = more :=
      List.append_cancel_left (added.symm.trans grown)
    rw [named, uploadedNames_of_answered answered, List.map_map]
    rfl
  · exact caches
  · rw [inTurn.results handled, List.map_map]
    rfl

/-- A run in which no call fails provides what is offered. -/
theorem exists_provides (depot : Depot σ) (start : String) {first : σ} (sound : depot.Sound first)
    {dir : Path} (offered : fs.offers accepts dir = files.map .ok)
    (answered : Answered (provide depot.service start dir accepts fs first).2.exchanges) :
    ∃ uploads, (provide depot.service start dir accepts fs first).1 = .ok uploads ∧
      depot.Sound (provide depot.service start dir accepts fs first).2.remote ∧
      Provides (displayName start dir) files (depot.contents first)
        (depot.contents (provide depot.service start dir accepts fs first).2.remote)
        (provide depot.service start dir accepts fs first).2.exchanges uploads := by
  obtain ⟨course, served⟩ := provide_course depot.service start dir accepts fs first
  obtain ⟨sound', handled⟩ := depot.served sound served
  obtain ⟨paths, read, walkable⟩ := wantedPaths_of_offers offered
  obtain ⟨uploads, obtained, inTurn⟩ := course.inTurn walkable answered
  rw [paths] at inTurn
  exact ⟨uploads, obtained, sound', inTurn.provides read answered handled⟩

namespace Provides

variable {later : Contents} {exchanges' : List Exchange} {uploads' : List UploadedFile}

/-- What was provided is listed. -/
theorem listed (h : Provides name files contents last exchanges uploads) :
    ∀ file ∈ files, name file.1 ∈ last.fileNames := by
  intro file among
  by_contra new
  have obtained : last.file? (name file.1) ∈ uploads.map some := by
    rw [h.results]
    exact List.mem_map_of_mem among
  rw [Contents.file?_eq_none.mpr new] at obtained
  simp at obtained

/-- What was provided is provided again by listings only, with the same results. -/
theorem again (h : Provides name files contents last exchanges uploads)
    (h' : Provides name files last later exchanges' uploads') :
    exchanges'.map (·.call) = List.replicate files.length .listFiles ∧ later = last ∧
      uploads' = uploads := by
  have calls : exchanges'.map (·.call) = List.replicate files.length .listFiles := by
    rw [h'.calls, callsFor_of_listed h.listed]
  have only : ∀ exchange ∈ exchanges', exchange.call = .listFiles := by
    intro exchange among
    apply List.eq_of_mem_replicate
    rw [← calls]
    exact List.mem_map_of_mem among
  have added := h'.added
  rw [uploadedFiles_of_listFiles only, List.append_nil] at added
  have same : later = last := congr (congrArg Contents.mk added) h'.caches
  refine ⟨calls, same, ?_⟩
  apply List.map_injective_iff.mpr (Option.some_injective _)
  rw [h'.results, h.results, same]

end Provides

/-- **The files of a directory on a service.** If no call fails, the files that a walk offers are
provided. A second run, on the same files, lists as often, uploads nothing, and obtains the same. -/
theorem provide_uploads (depot : Depot σ) (start : String) (accepts : Path → Bool) (dir : Path)
    {first : σ} (sound : depot.Sound first) (offered : fs.offers accepts dir = files.map .ok) :
    let run := provide depot.service start dir accepts fs
    Answered (run first).2.exchanges → Answered (run (run first).2.remote).2.exchanges →
    ∃ uploads, (run first).1 = .ok uploads ∧
      Provides (displayName start dir) files (depot.contents first)
        (depot.contents (run first).2.remote) (run first).2.exchanges uploads ∧
      (run (run first).2.remote).1 = .ok uploads ∧
      (run (run first).2.remote).2.exchanges.map (·.call) =
        List.replicate files.length .listFiles ∧
      depot.contents (run (run first).2.remote).2.remote =
        depot.contents (run first).2.remote := by
  intro run answered answered'
  obtain ⟨uploads, obtained, sound', provides⟩ := exists_provides depot start sound offered answered
  obtain ⟨uploads', obtained', -, provides'⟩ :=
    exists_provides depot start sound' offered answered'
  obtain ⟨calls, still, rfl⟩ := provides.again provides'
  exact ⟨uploads', obtained, provides, obtained', calls, still⟩

end

/-- A directory with four files. The display names of two are the same, and those of the others. -/
def collidingFiles : FileSystem :=
  ⟨.directory [(Utf8.encode "d", .directory [
    (Utf8.encode "a.json", .file [0x31]), (Utf8.encode "a_json", .file [0x32]),
    (Utf8.encode "b.json", .file [0x33]), (Utf8.encode "b_json", .file [0x34])])], []⟩

/-- A store that lists one of these display names, twice. -/
def collidingStore : Store :=
  ⟨[⟨"files/7", some "p_a_json", "", none⟩, ⟨"files/8", some "p_a_json", "", none⟩], [], none, [],
    [], true, []⟩

/-- Only the first file of the new display name is uploaded. -/
theorem provide_collidingFiles :
    let run := provide Store.depot.service "p" (.ofString "d") (fun _ => true) collidingFiles
    collidingFiles.offers (fun _ => true) (.ofString "d") =
      [(.ofString "d/a.json", [0x31]), (.ofString "d/a_json", [0x32]),
        (.ofString "d/b.json", [0x33]), (.ofString "d/b_json", [0x34])].map .ok ∧
    Answered (run collidingStore).2.exchanges ∧
    Answered (run (run collidingStore).2.remote).2.exchanges ∧
    (run collidingStore).2.exchanges.map (·.call) =
      [.listFiles, .listFiles, .listFiles,
        .uploadFile ⟨"p_b_json", some "application/json", [0x33]⟩, .listFiles] ∧
    ∃ uploads, (run collidingStore).1 = .ok uploads ∧
      uploads.map (·.name) = ["files/7", "files/7", "files/1", "files/1"] ∧
      (run (run collidingStore).2.remote).1 = .ok uploads := by
  have offered : collidingFiles.offers (fun _ => true) (.ofString "d") =
      [(.ofString "d/a.json", [0x31]), (.ofString "d/a_json", [0x32]),
        (.ofString "d/b.json", [0x33]), (.ofString "d/b_json", [0x34])].map .ok := rfl
  have sound : Store.depot.Sound collidingStore := rfl
  obtain ⟨uploads, obtained, -, obtained', -, -⟩ := provide_uploads Store.depot "p" (fun _ => true)
    (.ofString "d") sound offered (by decide +kernel) (by decide +kernel)
  refine ⟨offered, by decide +kernel, by decide +kernel, by decide +kernel, uploads, obtained,
    Option.some.inj ?_, obtained'⟩
  have named := congrArg (fun result => result.toOption.map (·.map (·.name))) obtained
  refine named.symm.trans ?_
  decide +kernel

end Provision

end BattleAdvisor
