import BattleAdvisor.Proofs.FileSystem.Noting
import BattleAdvisor.Proofs.FileSystem.Walk
import BattleAdvisor.Proofs.Sequence
import Mathlib.Data.List.Basic

/-!
# What a walk offers

Of what a walk meets, providing data files depends on the accepted files with their contents and on
failures, in their order (`Provision.visitsCourse_of_offers`).
-/

namespace BattleAdvisor

/-- An accepted file with its content, or a failure. -/
abbrev Offer := Except IoError (Path × Bytes)

namespace FileSystem

/-- What a path that a walk meets offers: its content if it is an accepted file. -/
def offer? (fs : FileSystem) (accepts : Path → Bool) : Visit → Option Offer
  | .error error => some (.error error)
  | .ok path =>
    match fs.stat path with
    | .ok (.file content) => if accepts path then some (.ok (path, content)) else none
    | _ => none

/-- What a walk through a directory offers. -/
def offers (fs : FileSystem) (accepts : Path → Bool) (dir : Path) : List Offer :=
  (fs.walk dir).filterMap (fs.offer? accepts)

variable {fs fs' : FileSystem} {accepts : Path → Bool}

theorem offer?_ok_eq_some {path : Path} {offer : Offer} :
    fs.offer? accepts (.ok path) = some offer ↔
      ∃ content, fs.stat path = .ok (.file content) ∧ accepts path = true ∧
        offer = .ok (path, content) := by
  unfold offer?
  dsimp only
  split
  next content found =>
    constructor
    · intro offered
      split at offered
      next wanted => exact ⟨content, found, wanted, (Option.some.inj offered).symm⟩
      next => cases offered
    · rintro ⟨content', found', wanted, rfl⟩
      cases found.symm.trans found'
      rw [if_pos wanted]
  next other =>
    constructor
    · exact nofun
    · rintro ⟨content, found, -⟩
      exact absurd found (other content)

theorem offer?_ok_eq_none {path : Path} :
    fs.offer? accepts (.ok path) = none ↔ (fs.isFile path && accepts path) = false := by
  simp only [offer?, isFile]
  rcases fs.stat path with fault | (content | entries | target) <;> simp

theorem eq_error_of_offer? {visit : Visit} {error : IoError}
    (offered : fs.offer? accepts visit = some (.error error)) : visit = .error error := by
  cases visit with
  | error _ => exact congrArg Except.error (Except.error.inj (Option.some.inj offered))
  | ok path =>
    obtain ⟨content, -, -, same⟩ := offer?_ok_eq_some.mp offered
    cases same

theorem eq_ok_of_offer? {visit : Visit} {path : Path} {content : Bytes}
    (offered : fs.offer? accepts visit = some (.ok (path, content))) :
    visit = .ok path ∧ fs.stat path = .ok (.file content) ∧ accepts path = true := by
  cases visit with
  | error _ => cases offered
  | ok _ =>
    obtain ⟨content, found, wanted, same⟩ := offer?_ok_eq_some.mp offered
    cases same
    exact ⟨rfl, found, wanted⟩

/-- A path offers the same if it leads to the same content, as far as it is accepted. -/
theorem offer?_congr {path : Path}
    (same : accepts path = true → ∀ content,
      fs.stat path = .ok (.file content) ↔ fs'.stat path = .ok (.file content)) :
    fs.offer? accepts (.ok path) = fs'.offer? accepts (.ok path) := by
  refine Option.ext fun offer => ?_
  rw [offer?_ok_eq_some, offer?_ok_eq_some]
  refine exists_congr fun content => ?_
  constructor
  · rintro ⟨found, wanted, rfl⟩
    exact ⟨(same wanted content).mp found, wanted, rfl⟩
  · rintro ⟨found, wanted, rfl⟩
    exact ⟨(same wanted content).mpr found, wanted, rfl⟩

/-! ## What a note leaves as it is -/

section

variable {dir : Path} {location around : Location} {entries : Entries} {name : Name}

/-- When a leaf is set where there is room for it, a walk offers the same, as far as neither the
leaf nor what was in its place is an accepted file and the walk does not fail at it. -/
theorem offers_put (plain : fs.top.Plain) (at' : fs.DirectoryAt dir location)
    (room : fs.top.HasRoom around name) (ordinary : name.Ordinary) {new : Node} (plain' : new.Plain)
    (kept : ∀ names, (∀ name ∈ names, name.Ordinary) → accepts (dir.below names) = true →
      ∀ content,
        (fs.put (around ++ [name]) new).top.at? (location ++ names) = some (.file content) ↔
          fs.top.at? (location ++ names) = some (.file content))
    (still : ∀ rest, around = location ++ rest → (∀ name ∈ rest, name.Ordinary) →
      new.visitsBelow (dir.below (rest ++ [name])) ⊆ (fs.put (around ++ [name]) new).walk dir →
        new.visitsBelow (dir.below (rest ++ [name])) = [] ∧
          fs.offer? accepts (.ok (dir.below (rest ++ [name]))) = none) :
    (fs.put (around ++ [name]) new).offers accepts dir = fs.offers accepts dir := by
  obtain ⟨inside, there, -⟩ := id room
  have plain'' : (fs.put (around ++ [name]) new).top.Plain := plain.put there ordinary plain'
  have at'' := at'.put room new
  have same : ∀ visit ∈ (fs.put (around ++ [name]) new).walk dir,
      (fs.put (around ++ [name]) new).offer? accepts visit = fs.offer? accepts visit := by
    intro visit met
    cases visit with
    | error error => rfl
    | ok path =>
      obtain ⟨names, ordinary, rfl, -⟩ := exists_below_of_mem_walk plain'' at'' met
      refine offer?_congr fun wanted content => ?_
      rw [stat_below plain'' at'' ordinary, stat_below plain at' ordinary,
        kept names ordinary wanted content]
  unfold offers
  rw [List.filterMap_congr same]
  rcases walk_put plain at' room ordinary with
    alike | ⟨rest, rfl, before, old, after, was, gone, now⟩
  · rw [alike new plain']
  · have others : ∀ name ∈ rest, name.Ordinary := fun name among =>
      plain.ordinary_of_at? there name (List.mem_append_right _ among)
    obtain ⟨leaf, hidden⟩ := still rest rfl others (by
      rw [now new plain', Node.visitsAt]
      intro visit met
      simp [met])
    rw [was, now new plain', Node.visitsAt, leaf]
    rcases gone with rfl | rfl <;> simp [hidden]

/-- A file that is not accepted changes nothing of what a walk offers. -/
theorem offers_put_file (plain : fs.top.Plain) (at' : fs.DirectoryAt dir location)
    (room : fs.top.HasRoom around name) (ordinary : name.Ordinary)
    (unwanted : ∀ p : Path, p.bytes ≠ [] → accepts (p.join ⟨name⟩) = false) (content : Bytes) :
    (fs.put (around ++ [name]) (.file content)).offers accepts dir = fs.offers accepts dir := by
  have hidden {rest : List Name} (others : ∀ name ∈ rest, name.Ordinary) :
      accepts (dir.below (rest ++ [name])) = false := by
    rw [Path.below_concat]
    exact unwanted _ (Path.bytes_below_ne_nil at'.given others)
  refine offers_put plain at' room ordinary (.file content) ?_ ?_
  · intro names others wanted content
    refine room.file_put (Node.leaf_file _) (fun same => ?_) content
    -- An accepted path does not end with the name, so it leads elsewhere.
    rcases List.eq_nil_or_concat names with rfl | ⟨rest, last, rfl⟩
    · obtain ⟨entries, there⟩ := at'.there
      rw [List.append_nil] at same
      exact room.ne_directory [] entries (same ▸ there)
    · rw [List.concat_eq_append, ← List.append_assoc] at same
      obtain ⟨-, rfl⟩ := List.append_singleton_inj.mp same
      rw [List.concat_eq_append] at wanted others
      rw [hidden fun name among => others name (List.mem_append_left _ among)] at wanted
      cases wanted
  · intro rest below others _
    refine ⟨Node.visitsBelow_file _ _, offer?_ok_eq_none.mpr ?_⟩
    rw [hidden others, Bool.and_false]

/-- An empty directory changes nothing of what a walk offers, unless the walk fails at it. -/
theorem offers_put_empty (plain : fs.top.Plain) (at' : fs.DirectoryAt dir location)
    (inside : fs.top.at? around = some (.directory entries)) (ordinary : name.Ordinary)
    (absent : entries.lookup name = none)
    (calm : ∀ error, .error error ∈ (fs.put (around ++ [name]) (.directory [])).walk dir →
      .error error ∈ fs.walk dir) :
    (fs.put (around ++ [name]) (.directory [])).offers accepts dir = fs.offers accepts dir := by
  refine offers_put plain at' (.of_absent inside absent) ordinary .empty ?_ ?_
  · intro names _ _ content
    exact Node.file_put_empty inside absent content
  · intro rest below others met
    subst below
    have all : ∀ other ∈ rest ++ [name], other.Ordinary := by
      simpa [or_imp, forall_and] using ⟨others, ordinary⟩
    have nowhere : fs.top.at? (location ++ (rest ++ [name])) = none := by
      rw [← List.append_assoc, Node.at?_concat inside, absent]
    constructor
    · rw [Node.visitsBelow_directory] at met ⊢
      by_cases long : pathLimit < (dir.below (rest ++ [name])).bytes.length
      · -- A failure there was one before, when a walk could not come there.
        rw [if_pos long] at met
        have failed := calm _ (met List.mem_cons_self)
        obtain ⟨path, same, -, visited⟩ := exists_long (at'.isDirectory plain) failed
        obtain ⟨names, others', rfl, there⟩ := exists_below_of_mem_walk plain at' visited
        have path := (IoError.unwalkable.inj same).1
        rw [← Path.below_injective at'.given all others' path, nowhere] at there
        cases there
      · rw [if_neg long]
        exact Node.visitsOfEntries_nil _
    · refine Option.eq_none_iff_forall_ne_some.mpr fun offer offered => ?_
      obtain ⟨content, found, -⟩ := offer?_ok_eq_some.mp offered
      obtain ⟨-, -, there⟩ := (stat_below plain at' all).mp found
      cases nowhere.symm.trans there

end

namespace Dug

variable {last : FileSystem} {dir : Path} {location : Location}

theorem directoryAt (dug : fs.Dug last) (at' : fs.DirectoryAt dir location) :
    last.DirectoryAt dir location := by
  induction dug with
  | refl => exact at'
  | make _ inside _ absent ih => exact ih.put (.of_absent inside absent) _

theorem walk_subset (plain : fs.top.Plain) (dug : fs.Dug last) (at' : fs.DirectoryAt dir location) :
    fs.walk dir ⊆ last.walk dir := by
  induction dug with
  | refl => exact List.Subset.refl _
  | make before inside ordinary absent ih =>
    exact List.Subset.trans ih (walk_subset_put (before.plain plain) (before.directoryAt at')
      (.of_absent inside absent) ordinary .empty)

/-- Made directories change nothing of what a walk offers, unless it fails where it did not fail
before. -/
theorem offers_eq (plain : fs.top.Plain) (dug : fs.Dug last) (at' : fs.DirectoryAt dir location)
    (calm : ∀ error, .error error ∈ last.walk dir → .error error ∈ fs.walk dir) :
    last.offers accepts dir = fs.offers accepts dir := by
  induction dug with
  | refl => rfl
  | make before inside ordinary absent ih =>
    have plain' := before.plain plain
    have at'' := before.directoryAt at'
    have grown := walk_subset_put plain' at'' (.of_absent inside absent) ordinary .empty
    rw [offers_put_empty plain' at'' inside ordinary absent fun error failed =>
      before.walk_subset plain at' (calm error failed)]
    exact ih fun error failed => calm error (grown failed)

end Dug

end FileSystem

/-! ## Provision -/

namespace Provision

open FileSystem Courses

variable [MediaTypes] {fs fs' : FileSystem} {name : Path → String} {accepts : Path → Bool}

theorem fileCourse_subset {displayName : String} {path path' : Path}
    (media : path.mediaType? = path'.mediaType?) (same : fs.read path = fs'.read path')
    {exchanges : List Exchange} {result : Except AdviceError UploadedFile}
    (course : FileCourse fs displayName path exchanges result) :
    FileCourse fs' displayName path' exchanges result := by
  cases course with
  | unlisted error => exact .unlisted error
  | found present => exact .found present
  | unread absent unread => exact .unread absent (same ▸ unread)
  | refused error absent read => exact media ▸ .refused error absent (same ▸ read)
  | uploaded file absent read => exact media ▸ .uploaded file absent (same ▸ read)

/-- What is done for a file is decided by its media type and its content. -/
theorem fileCourse_congr {displayName : String} {path path' : Path}
    (media : path.mediaType? = path'.mediaType?) (same : fs.read path = fs'.read path') :
    FileCourse fs displayName path = FileCourse fs' displayName path' :=
  Courses.ext fun _ _ => ⟨fileCourse_subset media same, fileCourse_subset media.symm same.symm⟩

theorem visitsCourse_skip {skipped rest : List Visit}
    (idle : ∀ visit ∈ skipped, fs.offer? accepts visit = none) :
    VisitsCourse fs name accepts (skipped ++ rest) = VisitsCourse fs name accepts rest := by
  induction skipped with
  | nil => rfl
  | cons visit skipped ih =>
    obtain ⟨first, others⟩ := List.forall_mem_cons.mp idle
    cases visit with
    | error error => cases first
    | ok path =>
      rw [List.cons_append, visitsCourse_unwanted (offer?_ok_eq_none.mp first)]
      exact ih others

/-- What is done for a walk is decided by what it offers. -/
theorem visitsCourse_of_offers {visits visits' : List Visit}
    (same : visits.filterMap (fs.offer? accepts) = visits'.filterMap (fs'.offer? accepts)) :
    VisitsCourse fs name accepts visits = VisitsCourse fs' name accepts visits' := by
  generalize whole : visits.filterMap (fs.offer? accepts) = offered at same
  induction offered generalizing visits visits' with
  | nil =>
    have idle (fs : FileSystem) {visits : List Visit}
        (none : visits.filterMap (fs.offer? accepts) = []) :
        VisitsCourse fs name accepts visits = Done [] := by
      rw [← List.append_nil visits, visitsCourse_skip (List.filterMap_eq_nil_iff.mp none),
        visitsCourse_nil]
    rw [idle fs whole, idle fs' same.symm]
  | cons offer offered ih =>
    obtain ⟨skipped, visit, rest, rfl, idle, first, others⟩ := List.filterMap_eq_cons_iff.mp whole
    obtain ⟨skipped', visit', rest', rfl, idle', first', others'⟩ :=
      List.filterMap_eq_cons_iff.mp same.symm
    rw [visitsCourse_skip idle, visitsCourse_skip idle']
    cases offer with
    | error error =>
      rw [eq_error_of_offer? first, eq_error_of_offer? first', visitsCourse_error,
        visitsCourse_error]
    | ok file =>
      obtain ⟨path, content⟩ := file
      obtain ⟨rfl, found, wanted⟩ := eq_ok_of_offer? first
      obtain ⟨rfl, found', -⟩ := eq_ok_of_offer? first'
      have read : fs.read path = fs'.read path := by
        unfold FileSystem.read
        rw [found, found']
      rw [visitsCourse_wanted (by simp [isFile, found, wanted]),
        visitsCourse_wanted (by simp [isFile, found', wanted]), fileCourse_congr rfl read,
        ih others others'.symm]

end Provision

end BattleAdvisor
