import BattleAdvisor.Advice.CommonTypes
import BattleAdvisor.Proofs.FileSystem.Spellings
import BattleAdvisor.Proofs.Text.Collapse
import BattleAdvisor.Proofs.Uploads

/-!
# Display names of data files

The display name of a data file is the beginning that is asked for and the file's path in the
directory, with each longest run of characters that are no word characters collapsed.

**Theorem (`provide_anywhere`).** This is so wherever the directory is and however it is spelled. A
run through another spelling of the same directory says the same to a service, and finds what a run
before it has uploaded.

**Theorem (`provide_distinct`).** Two selected files have the same display name if and only if their
paths collapse to the same text (`Collide`). A file that collides with no other is uploaded once,
and if no two collide, all are uploaded and different remote files are obtained for them.
-/

namespace BattleAdvisor

open FileSystem

/-- Whether a path has the extension of data files does not depend on how its directory is spelled.
-/
theorem Preferences.selects_below (preferences : Preferences) {dir dir' : Path}
    (given : dir.bytes ≠ []) (given' : dir'.bytes ≠ []) {names : List Name} (further : names ≠ [])
    (ordinary : ∀ name ∈ names, name.Ordinary) :
    preferences.selects (dir.below names) = preferences.selects (dir'.below names) := by
  rw [selects, selects, Path.extension?_below given further ordinary,
    Path.extension?_below given' further ordinary]

namespace Provision

variable {σ : Type} {fs : FileSystem} {name name' : Path → String}
  {accepts accepts' : Path → Bool} {start : String} {dir dir' : Path} {location : Location}
  {names names' : List Name} {root : Node}

/-! ## Names -/

/-- The display name of a file in a directory. -/
theorem displayName_join (start : String) (dir : Path) (further : names ≠ [])
    (ordinary : ∀ name ∈ names, name.Ordinary) :
    displayName start dir (dir.join (.ofPieces names)) =
      start ++ "_" ++ String.ofList (Text.collapse (Path.ofPieces names).display.toList) := by
  rw [displayName, Path.relativeTo_join dir further ordinary]

theorem displayName_below (start : String) (dir : Path) (further : names ≠ [])
    (ordinary : ∀ name ∈ names, name.Ordinary) :
    displayName start dir (dir.below names) =
      start ++ "_" ++ String.ofList (Text.collapse (Path.ofPieces names).display.toList) := by
  rw [Path.below_eq_join dir further ordinary, displayName_join start dir further ordinary]

/-- The paths of these names collapse to the same text. -/
def Collide (names names' : List Name) : Prop :=
  ∃ shown, Text.Collapses (Path.ofPieces names).display.toList shown ∧
    Text.Collapses (Path.ofPieces names').display.toList shown

theorem collide_iff : Collide names names' ↔
    Text.collapse (Path.ofPieces names).display.toList =
      Text.collapse (Path.ofPieces names').display.toList := by
  simp only [Collide, Text.collapses_iff]
  exact ⟨fun ⟨_, same, same'⟩ => same.symm.trans same', fun same => ⟨_, rfl, same⟩⟩

/-- Files in one directory have the same display name if and only if their paths collide. -/
theorem displayName_eq_iff (start : String) (dir : Path) (further : names ≠ [])
    (ordinary : ∀ name ∈ names, name.Ordinary) (further' : names' ≠ [])
    (ordinary' : ∀ name ∈ names', name.Ordinary) :
    displayName start dir (dir.below names) = displayName start dir (dir.below names') ↔
      Collide names names' := by
  rw [displayName_below start dir further ordinary, displayName_below start dir further' ordinary',
    collide_iff]
  constructor
  · intro same
    have chars := congrArg String.toList same
    simpa only [String.toList_append, String.toList_ofList, List.append_cancel_left_eq] using chars
  · intro same
    rw [same]

/-! ## Spellings -/

section

variable [MediaTypes]

/-- Two walks that meet alike paths in turn have the same courses: the paths are wanted or not, and
those that are wanted have the same display names, media types and contents. -/
theorem visitsCourse_congr {α : Type} {items : List α} {path path' : α → Path}
    (wanted : ∀ item ∈ items, (fs.isFile (path item) && accepts (path item)) =
      (fs.isFile (path' item) && accepts' (path' item)))
    (alike : ∀ item ∈ items, fs.isFile (path item) = true →
      name (path item) = name' (path' item) ∧ (path item).mediaType? = (path' item).mediaType? ∧
        fs.read (path item) = fs.read (path' item)) :
    VisitsCourse fs name accepts (items.map fun item => .ok (path item)) =
      VisitsCourse fs name' accepts' (items.map fun item => .ok (path' item)) := by
  induction items with
  | nil => rw [List.map_nil, List.map_nil, visitsCourse_nil, visitsCourse_nil]
  | cons item rest ih =>
    obtain ⟨first, others⟩ := List.forall_mem_cons.mp wanted
    obtain ⟨here, there⟩ := List.forall_mem_cons.mp alike
    rw [List.map_cons, List.map_cons]
    cases met : fs.isFile (path item) && accepts (path item) with
    | false =>
      rw [visitsCourse_unwanted met, visitsCourse_unwanted (first.symm.trans met),
        ih others there]
    | true =>
      obtain ⟨named, media, read⟩ := here (Bool.and_eq_true_iff.mp met).1
      rw [visitsCourse_wanted met, visitsCourse_wanted (first.symm.trans met), ih others there,
        named, fileCourse_congr media read]

/-- The courses of a walk through a directory are those of a walk through another spelling of it. -/
theorem visitsCourse_of_spells (proper : fs.top.Proper) (spells : fs.Spells dir location)
    (spells' : fs.Spells dir' location)
    (blind : ∀ names, names ≠ [] → (∀ name ∈ names, name.Ordinary) →
      accepts (dir.below names) = accepts (dir'.below names)) :
    VisitsCourse fs (displayName start dir) accepts (fs.walk dir) =
      VisitsCourse fs (displayName start dir') accepts (fs.walk dir') := by
  obtain ⟨entries, there⟩ := spells.there
  have unwanted {dir : Path} (spells : fs.Spells dir location) :
      (fs.isFile dir && accepts dir) = false := by
    have directory : fs.isDirectory dir = true := by
      rw [isDirectory, stat_eq_ok_iff.mpr (spells.leadsTo there)]
    rw [isFile_of_isDirectory directory, Bool.false_and]
  rw [walk_eq_below (spells.leadsTo there) (spells.error_notMem proper),
    walk_eq_below (spells'.leadsTo there) (spells'.error_notMem proper),
    visitsCourse_unwanted (unwanted spells), visitsCourse_unwanted (unwanted spells')]
  have inside : (Node.directory entries).Proper := proper.at? there
  have same : ∀ names ∈ (Node.directory entries).locationsBelow, names ≠ [] ∧
      (∀ name ∈ names, name.Ordinary) ∧
      ∀ node, fs.LeadsTo (dir.below names) node ↔ fs.LeadsTo (dir'.below names) node := by
    intro names below
    obtain ⟨further, inner, found⟩ := inside.mem_locationsBelow.mp below
    have ordinary := inside.ordinary_of_mem below
    have found : fs.top.at? (location ++ names) = some inner := by
      rw [Node.at?_append, there]
      exact found
    exact ⟨further, ordinary, fun node => spells.leadsTo_below_iff spells' further ordinary found⟩
  apply visitsCourse_congr
  · intro names below
    obtain ⟨further, ordinary, leads⟩ := same names below
    rw [isFile_congr leads, blind names further ordinary]
  · intro names below found
    obtain ⟨further, ordinary, leads⟩ := same names below
    refine ⟨?_, ?_, read_congr leads found⟩
    · rw [displayName_below start dir further ordinary,
        displayName_below start dir' further ordinary]
    · rw [Path.mediaType?, Path.mediaType?, Path.extension?_below spells.given further ordinary,
        Path.extension?_below spells'.given further ordinary]

end

/-! ## Selected files -/

/-- The content that a file shows; none if there is no file. -/
def contentAt (fs : FileSystem) (path : Path) : Bytes :=
  (fs.shown path).getD []

theorem contentAt_of_leadsTo {path : Path} {content : Bytes}
    (leads : fs.LeadsTo path (.file content)) : contentAt fs path = content := by
  rw [contentAt, FileSystem.shown, FileSystem.read, stat_eq_ok_iff.mpr leads]
  rfl

/-- A walk that does not fail offers the selected files. -/
theorem offers_eq_selected (leads : fs.LeadsTo dir root) (found : fs.isDirectory dir = true)
    (walkable : ∀ error, .error error ∉ fs.walk dir) :
    fs.offers accepts dir = ((fs.selectedBelow accepts dir root).map fun names =>
      (dir.below names, contentAt fs (dir.below names))).map .ok := by
  have first : fs.offer? accepts (.ok dir) = none := by
    rw [offer?_ok_eq_none, isFile_of_isDirectory found, Bool.false_and]
  have chosen (names : Location) : fs.offer? accepts (.ok (dir.below names)) =
      if fs.isFile (dir.below names) && accepts (dir.below names) then
        some (.ok (dir.below names, contentAt fs (dir.below names))) else none := by
    split
    next wanted =>
      obtain ⟨file, accepted⟩ := Bool.and_eq_true_iff.mp wanted
      obtain ⟨content, leads⟩ := isFile_iff.mp file
      rw [offer?_ok_eq_some]
      exact ⟨content, stat_eq_ok_iff.mpr leads, accepted, by rw [contentAt_of_leadsTo leads]⟩
    next unwanted => exact offer?_ok_eq_none.mpr (by simpa using unwanted)
  rw [offers, walk_eq_below leads walkable, List.filterMap_cons_none first, List.filterMap_map,
    selectedBelow, List.map_map, ← List.filterMap_eq_map, List.filterMap_filter]
  exact List.filterMap_congr fun names _ => chosen names

/-! ## Names wherever a directory is -/

section

variable [MediaTypes]

/-- A run through another spelling of a directory says the same to a service, and has the same
result. -/
theorem provide_of_spells (service : Service σ) (start : String) (first : σ)
    (proper : fs.top.Proper) (spells : fs.Spells dir location) (spells' : fs.Spells dir' location)
    (blind : ∀ names, names ≠ [] → (∀ name ∈ names, name.Ordinary) →
      accepts (dir.below names) = accepts (dir'.below names)) :
    let run := provide service start dir accepts fs first
    let run' := provide service start dir' accepts fs first
    run'.1 = run.1 ∧ run'.2.exchanges = run.2.exchanges ∧ run'.2.remote = run.2.remote := by
  intro run run'
  obtain ⟨course, served⟩ := provide_course service start dir accepts fs first
  rw [visitsCourse_of_spells proper spells spells' blind] at course
  exact provide_of_course course served

/-- **Names wherever a directory is.** The display name of a file is made of the beginning and of
the names that lead from the directory to the file; the directory itself, and its spelling, add
nothing. So runs through two spellings of a directory say the same to a service, and the second
finds what the first has uploaded. -/
theorem provide_anywhere (start : String) :
    (∀ (dir : Path) (names : List Name), names ≠ [] → (∀ name ∈ names, name.Ordinary) →
      ∃ shown, Text.Collapses (Path.ofPieces names).display.toList shown ∧
        displayName start dir (dir.join (.ofPieces names)) =
          start ++ "_" ++ String.ofList shown) ∧
    ∀ (fs : FileSystem) (accepts : Path → Bool) (dir dir' : Path) (location : Location),
      fs.top.Proper → fs.Spells dir location → fs.Spells dir' location →
      (∀ names, names ≠ [] → (∀ name ∈ names, name.Ordinary) →
        accepts (dir.below names) = accepts (dir'.below names)) →
      (∀ (σ : Type) (service : Service σ) (first : σ),
        let run := provide service start dir accepts fs first
        let run' := provide service start dir' accepts fs first
        run'.1 = run.1 ∧ run'.2.exchanges = run.2.exchanges ∧ run'.2.remote = run.2.remote) ∧
      ∀ (σ : Type) (depot : Depot σ) (first : σ), depot.Sound first →
        let run := provide depot.service start dir accepts fs first
        let run' := provide depot.service start dir' accepts fs run.2.remote
        Answered run.2.exchanges → Answered run'.2.exchanges →
        run'.1 = run.1 ∧ (∀ exchange ∈ run'.2.exchanges, exchange.call = .listFiles) ∧
          depot.contents run'.2.remote = depot.contents run.2.remote := by
  refine ⟨?_, ?_⟩
  · intro dir names further ordinary
    exact ⟨_, Text.collapses_iff.mpr rfl, displayName_join start dir further ordinary⟩
  intro fs accepts dir dir' location proper spells spells' blind
  refine ⟨fun σ service first => provide_of_spells service start first proper spells spells' blind,
    ?_⟩
  intro σ depot first sound
  dsimp only
  intro answered answered'
  obtain ⟨entries, there⟩ := spells.there
  have leads := spells.leadsTo there
  have found : fs.isDirectory dir = true := by
    rw [isDirectory, stat_eq_ok_iff.mpr leads]
  have offered : fs.offers accepts dir = _ :=
    offers_eq_selected leads found (spells.error_notMem proper)
  -- The second run is like one through the first spelling.
  obtain ⟨result, exchanges, remote⟩ := provide_of_spells depot.service start
    (provide depot.service start dir accepts fs first).2.remote proper spells spells' blind
  rw [exchanges] at answered' ⊢
  obtain ⟨uploads, obtained, sound', provides⟩ := exists_provides depot start sound offered answered
  obtain ⟨uploads', obtained', -, provides'⟩ :=
    exists_provides depot start sound' offered answered'
  obtain ⟨calls, still, rfl⟩ := provides.again provides'
  refine ⟨result.trans (obtained'.trans obtained.symm), ?_, by rw [remote, still]⟩
  intro exchange among
  apply List.eq_of_mem_replicate
  rw [← calls]
  exact List.mem_map_of_mem among

end

/-- A directory with a file, and a directory below it with a file of which the name is no text. -/
def spelledFiles : FileSystem :=
  ⟨.directory [(Utf8.encode "d", .directory [
    (Utf8.encode "moves.json", .file [0x31]),
    (Utf8.encode "tables", .directory [
      (Utf8.encode "fire" ++ [0xFF] ++ Utf8.encode ".json", .file [0x32])])])], []⟩

theorem plain_spelledFiles : spelledFiles.top.Plain := by
  refine .single (by decide +kernel) (.directory (by decide +kernel) (by decide +kernel) ?_)
  simp only [List.forall_mem_cons]
  exact ⟨.file _, .single (by decide +kernel) (.file _), List.forall_mem_nil _⟩

/-- A store with nothing in it. -/
def emptyStore : Store :=
  ⟨[], [], none, [], [], true, []⟩

/-- What is uploaded from `d` is found from `/./d/../d//`. -/
theorem provide_twoSpellings :
    let dir := Path.ofString "d"
    let dir' := Path.ofString "/./d/../d//"
    let run := provide Store.depot.service "data" dir Preferences.usual.selects spelledFiles
      emptyStore
    let run' := provide Store.depot.service "data" dir' Preferences.usual.selects spelledFiles
      run.2.remote
    spelledFiles.Spells dir [Utf8.encode "d"] ∧ spelledFiles.Spells dir' [Utf8.encode "d"] ∧
    run.1.toOption.map (·.map (·.displayName?)) =
      some [some "data_moves_json", some "data_tables_fire_json"] ∧
    (∃ shown, Text.Collapses (Path.ofPieces [Utf8.encode "a -- b"]).display.toList shown ∧
      displayName "data" dir' (dir'.join (.ofPieces [Utf8.encode "a -- b"])) =
        "data" ++ "_" ++ String.ofList shown) ∧
    run'.1 = run.1 ∧ ∀ exchange ∈ run'.2.exchanges, exchange.call = .listFiles := by
  have spells : spelledFiles.Spells (.ofString "d") [Utf8.encode "d"] :=
    .of_plain plain_spelledFiles (by decide)
      ⟨0, .entered rfl (by decide) (by decide) (by decide) rfl nofun (.arrived _)⟩ rfl
      (by decide +kernel)
  have spells' : spelledFiles.Spells (.ofString "/./d/../d//") [Utf8.encode "d"] := by
    refine .of_plain plain_spelledFiles (by decide) ⟨0, ?_⟩ rfl (by decide +kernel)
    refine .here rfl (.entered rfl (by decide) (by decide) (by decide) rfl nofun ?_)
    exact .above rfl (.entered rfl (by decide) (by decide) (by decide) rfl nofun (.arrived _))
  obtain ⟨shown, named⟩ := (provide_anywhere "data").1 (.ofString "/./d/../d//")
    [Utf8.encode "a -- b"] (by decide) (by decide +kernel)
  obtain ⟨-, found⟩ := (provide_anywhere "data").2 spelledFiles Preferences.usual.selects
    (.ofString "d") (.ofString "/./d/../d//") [Utf8.encode "d"] plain_spelledFiles.proper spells
    spells' fun names further ordinary =>
      Preferences.usual.selects_below (by decide) (by decide) further ordinary
  obtain ⟨same, listings, -⟩ := found Store Store.depot emptyStore rfl (by decide +kernel)
    (by decide +kernel)
  exact ⟨spells, spells', by decide +kernel, ⟨shown, named⟩, same, listings⟩

/-! ## Files that collide -/

section

variable [MediaTypes]

/-- Files with new and different display names are uploaded one after another. -/
theorem uploadsOf_callsFor {known : List String} {files : List (Path × Bytes)}
    (distinct : (files.map (name ·.1)).Nodup) (new : ∀ file ∈ files, name file.1 ∉ known) :
    uploadsOf (callsFor name known files) =
      files.map fun file => ⟨name file.1, file.1.mediaType?, file.2⟩ := by
  induction files generalizing known with
  | nil => rfl
  | cons file rest ih =>
    obtain ⟨here, others⟩ := List.forall_mem_cons.mp new
    obtain ⟨apart, distinct⟩ := List.nodup_cons.mp distinct
    have later : ∀ other ∈ rest, name other.1 ∉ known ++ [name file.1] := by
      intro other among
      rw [List.mem_append, List.mem_singleton, not_or]
      exact ⟨others other among, fun same => apart (List.mem_map.mpr ⟨other, among, same⟩)⟩
    rw [callsFor_cons_new here, uploadsOf_listFiles, uploadsOf_uploadFile, ih distinct later]
    rfl

namespace Provides

variable {files : List (Path × Bytes)} {before after : Contents} {exchanges : List Exchange}
  {uploads : List UploadedFile}

/-- What is obtained for a file has the display name of that file. -/
theorem displayNames (h : Provides name files before after exchanges uploads) :
    uploads.map (·.displayName?) = files.map fun file => some (name file.1) := by
  have named : (uploads.map some).map (·.bind (·.displayName?)) =
      files.map fun file => some (name file.1) := by
    rw [h.results, List.map_map]
    apply List.map_congr_left
    intro file among
    have obtained : after.file? (name file.1) ∈ uploads.map some := by
      rw [h.results]
      exact List.mem_map_of_mem among
    obtain ⟨upload, -, found⟩ := List.mem_map.mp obtained
    have displayed := List.find?_some found.symm
    rw [Function.comp_apply, ← found]
    exact of_decide_eq_true displayed
  rwa [List.map_map] at named

/-- A file of which no other has the display name is uploaded once under it, if it is new. -/
theorem alone (h : Provides name files before after exchanges uploads) (file : Path × Bytes)
    (among : file ∈ files) (new : name file.1 ∉ before.fileNames)
    (apart : ∀ other ∈ files, name other.1 = name file.1 → other = file) :
    (uploadsOf (exchanges.map (·.call))).filter (·.displayName = name file.1) =
      [⟨name file.1, file.1.mediaType?, file.2⟩] := by
  have once : ((uploadsOf (exchanges.map (·.call))).filter
      (·.displayName = name file.1)).length = 1 := by
    have count := h.once (name file.1)
    rw [if_pos ⟨List.mem_map_of_mem among, new⟩, List.count_eq_countP, List.countP_map] at count
    rw [← List.countP_eq_length_filter, ← count]
    rfl
  obtain ⟨upload, only⟩ := List.length_eq_one_iff.mp once
  obtain ⟨sent, named⟩ := List.mem_filter.mp (only ▸ List.mem_singleton_self upload)
  obtain ⟨earlier, path, bytes, later, rfl, -, rfl⟩ := h.first upload sent
  rw [only, ← apart (path, bytes) (by simp) (of_decide_eq_true named)]

/-- If all display names are new and different, each file is uploaded, and the results differ. -/
theorem distinct (h : Provides name files before after exchanges uploads)
    (new : ∀ file ∈ files, name file.1 ∉ before.fileNames)
    (apart : (files.map (name ·.1)).Nodup) :
    uploadsOf (exchanges.map (·.call)) =
      files.map (fun file => ⟨name file.1, file.1.mediaType?, file.2⟩) ∧ uploads.Nodup := by
  constructor
  · rw [h.calls, uploadsOf_callsFor apart new]
  · have named := h.displayNames
    rw [show (fun file : Path × Bytes => some (name file.1)) = some ∘ (name ·.1) from rfl,
      ← List.map_map] at named
    apply List.Nodup.of_map (·.displayName?)
    rw [named]
    exact apart.map (Option.some_injective _)

end Provides

omit [MediaTypes] in
/-- Selected files have the same display name if and only if they collide. -/
theorem displayName_eq_iff_of_selects (start : String) (proper : fs.top.Proper)
    (selects : fs.Selects accepts dir names) (selects' : fs.Selects accepts dir names') :
    displayName start dir (dir.below names) = displayName start dir (dir.below names') ↔
      Collide names names' := by
  have ordinary {names : Location} (selects : fs.Selects accepts dir names) :
      ∀ name ∈ names, name.Ordinary := by
    obtain ⟨root, node, leads, there⟩ := selects.reached
    have inside := leads.proper proper
    exact inside.ordinary_of_mem (inside.mem_locationsBelow.mpr ⟨selects.below, node, there⟩)
  exact displayName_eq_iff start dir selects.below (ordinary selects) selects'.below
    (ordinary selects')

/-- **Files that do not collide are all uploaded.** Two selected files have the same display name if
and only if their paths collapse to the same text. If no call fails and the service has none of the
names, a file that collides with no other is uploaded once, with its content; and if no two collide,
just the selected files are uploaded, and different remote files are obtained for them. -/
theorem provide_distinct (depot : Depot σ) (start : String) (accepts : Path → Bool) {first : σ}
    (sound : depot.Sound first) {fs : FileSystem} (proper : fs.top.Proper)
    (found : Question.readDirectory fs (some dir) = .ok dir)
    (short : ∀ path, .ok path ∈ fs.walk dir → path.bytes.length ≤ pathLimit)
    (new : ∀ names, fs.Selects accepts dir names →
      displayName start dir (dir.below names) ∉ (depot.contents first).fileNames)
    (answered : Answered (provide depot.service start dir accepts fs first).2.exchanges) :
    let run := provide depot.service start dir accepts fs first
    let sent := uploadsOf (run.2.exchanges.map (·.call))
    let nameAt names := displayName start dir (dir.below names)
    (∀ names names', fs.Selects accepts dir names → fs.Selects accepts dir names' →
      (nameAt names = nameAt names' ↔ Collide names names')) ∧
    ∃ (selected : List Location) (content : Location → Bytes) (uploads : List UploadedFile),
      (∀ names, names ∈ selected ↔ fs.Selects accepts dir names) ∧ selected.Nodup ∧
      (∀ names ∈ selected, fs.LeadsTo (dir.below names) (.file (content names))) ∧
      run.1 = .ok uploads ∧
      uploads.map (·.displayName?) = selected.map (fun names => some (nameAt names)) ∧
      (∀ names ∈ selected, (∀ other ∈ selected, Collide other names → other = names) →
        sent.filter (·.displayName = nameAt names) =
          [⟨nameAt names, (dir.below names).mediaType?, content names⟩]) ∧
      ((∀ names ∈ selected, ∀ other ∈ selected, Collide other names → other = names) →
        sent = selected.map (fun names =>
          ⟨nameAt names, (dir.below names).mediaType?, content names⟩) ∧ uploads.Nodup) := by
  intro run sent nameAt
  obtain ⟨-, given, found⟩ := Battle.readDirectory_eq_ok.mp found
  obtain ⟨entries, leads⟩ := exists_leadsTo found
  let selected := fs.selectedBelow accepts dir (.directory entries)
  let content names := contentAt fs (dir.below names)
  have mem (names : Location) : names ∈ selected ↔ fs.Selects accepts dir names :=
    mem_selectedBelow proper leads
  have ascending : selected.Pairwise (· < ·) := ascending_selectedBelow proper leads
  have same (names names' : Location) (selects : fs.Selects accepts dir names)
      (selects' : fs.Selects accepts dir names') :
      nameAt names = nameAt names' ↔ Collide names names' :=
    displayName_eq_iff_of_selects start proper selects selects'
  have collides {names names' : Location} (among : names ∈ selected) (among' : names' ∈ selected) :
      nameAt names = nameAt names' ↔ Collide names names' :=
    same names names' ((mem names).mp among) ((mem names').mp among')
  have unlisted : ∀ names ∈ selected, nameAt names ∉ (depot.contents first).fileNames :=
    fun names among => new names ((mem names).mp among)
  obtain ⟨uploads, obtained, -, provides⟩ := exists_provides depot start sound
    (offers_eq_selected leads found (error_notMem_walk found short)) answered
  refine ⟨same, selected, content, uploads, mem, ascending.nodup, ?_, obtained, ?_, ?_, ?_⟩
  · intro names among
    obtain ⟨bytes, leads⟩ := ((mem names).mp among).file
    have shown : content names = bytes := contentAt_of_leadsTo leads
    rw [shown]
    exact leads
  · rw [provides.displayNames, List.map_map]
    rfl
  · intro names among apart
    refine provides.alone (dir.below names, content names) (List.mem_map_of_mem among)
      (unlisted names among) ?_
    simp only [List.forall_mem_map]
    intro other among' named
    rw [apart other among' ((collides among' among).mp named)]
  · intro apart
    have names : (selected.map nameAt).Nodup := by
      apply ascending.nodup.map_on
      intro names among names' among' named
      exact apart names' among' names among ((collides among among').mp named)
    obtain ⟨uploaded, differ⟩ :=
      provides.distinct (by simpa only [List.forall_mem_map] using unlisted) (by rwa [List.map_map])
    rw [List.map_map] at uploaded
    exact ⟨uploaded, differ⟩

end

/-- No two of these files collide, though the name of one is no text. -/
theorem provide_spelledFiles :
    let dir := Path.ofString "d"
    let run := provide Store.depot.service "data" dir (fun _ => true) spelledFiles emptyStore
    spelledFiles.top.Proper ∧ Question.readDirectory spelledFiles (some dir) = .ok dir ∧
    (∀ path, .ok path ∈ spelledFiles.walk dir → path.bytes.length ≤ pathLimit) ∧
    Answered run.2.exchanges ∧
    ∃ (selected : List Location) (uploads : List UploadedFile),
      (∀ names, names ∈ selected ↔ spelledFiles.Selects (fun _ => true) dir names) ∧
      (∀ names ∈ selected, ∀ other ∈ selected, Collide other names → other = names) ∧
      run.1 = .ok uploads ∧ uploads.Nodup ∧
      (uploadsOf (run.2.exchanges.map (·.call))).length = selected.length := by
  have found : Question.readDirectory spelledFiles (some (.ofString "d")) = .ok (.ofString "d") :=
    Battle.readDirectory_eq_ok.mpr ⟨rfl, by decide, by decide +kernel⟩
  have short : ∀ path, .ok path ∈ spelledFiles.walk (.ofString "d") →
      path.bytes.length ≤ pathLimit := by
    intro path met
    exact Visit.length_le_of_all (by decide +kernel) met
  have sound : Store.depot.Sound emptyStore := rfl
  have answered : Answered (provide Store.depot.service "data" (.ofString "d") (fun _ => true)
      spelledFiles emptyStore).2.exchanges := by decide +kernel
  obtain ⟨same, selected, content, uploads, mem, -, -, obtained, displayed, -, all⟩ :=
    provide_distinct Store.depot "data" (fun _ => true) sound plain_spelledFiles.proper found short
      (fun _ _ => List.not_mem_nil) answered
  have named : uploads.map (·.displayName?) =
      [some "data_moves_json", some "data_tables_fire_json"] := by
    have named := congrArg (fun result => result.toOption.map (·.map (·.displayName?))) obtained
    refine Option.some.inj (named.symm.trans ?_)
    decide +kernel
  have apart : ∀ names ∈ selected, ∀ other ∈ selected, Collide other names → other = names := by
    intro names among other among' collide
    rw [displayed] at named
    have distinct : (selected.map fun names =>
        some (displayName "data" (.ofString "d") (Path.below (.ofString "d") names))).Nodup := by
      rw [named]
      decide
    refine List.inj_on_of_nodup_map distinct among' among (congrArg some ?_)
    exact (same other names ((mem other).mp among') ((mem names).mp among)).mpr collide
  obtain ⟨sent, differ⟩ := all apart
  exact ⟨plain_spelledFiles.proper, found, short, answered, selected, uploads, mem, apart, obtained,
    differ, by rw [sent, List.length_map]⟩

/-- Two files that collide. -/
def twinFiles : FileSystem :=
  ⟨.directory [(Utf8.encode "d", .directory [
    (Utf8.encode "a-b.json", .file [0x31]), (Utf8.encode "a_b.json", .file [0x32])])], []⟩

/-- Of two files that collide the first one is uploaded, and it is obtained for both. -/
theorem provide_twinFiles :
    let dir := Path.ofString "d"
    let run := provide Store.depot.service "data" dir (fun _ => true) twinFiles emptyStore
    twinFiles.Selects (fun _ => true) dir [Utf8.encode "a-b.json"] ∧
    twinFiles.Selects (fun _ => true) dir [Utf8.encode "a_b.json"] ∧
    twinFiles.read (dir.below [Utf8.encode "a-b.json"]) = .ok [0x31] ∧
    twinFiles.read (dir.below [Utf8.encode "a_b.json"]) = .ok [0x32] ∧
    displayName "data" dir (dir.below [Utf8.encode "a-b.json"]) =
      displayName "data" dir (dir.below [Utf8.encode "a_b.json"]) ∧
    Answered run.2.exchanges ∧
    uploadsOf (run.2.exchanges.map (·.call)) =
      [⟨"data_a_b_json", some "application/json", [0x31]⟩] ∧
    run.1.toOption.map (·.map (·.name)) = some ["files/1", "files/1"] := by
  have selects : twinFiles.Selects (fun _ => true) (.ofString "d") [Utf8.encode "a-b.json"] :=
    ⟨by decide, ⟨_, _, stat_eq_ok_iff.mp rfl, rfl⟩, ⟨_, stat_eq_ok_iff.mp rfl⟩, rfl⟩
  have selects' : twinFiles.Selects (fun _ => true) (.ofString "d") [Utf8.encode "a_b.json"] :=
    ⟨by decide, ⟨_, _, stat_eq_ok_iff.mp rfl, rfl⟩, ⟨_, stat_eq_ok_iff.mp rfl⟩, rfl⟩
  exact ⟨selects, selects', rfl, rfl, by decide +kernel, by decide +kernel, by decide +kernel,
    by decide +kernel⟩

end Provision

end BattleAdvisor
