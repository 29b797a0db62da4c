import BattleAdvisor.Proofs.FileSystem.Links
import BattleAdvisor.Proofs.FileSystem.Order
import BattleAdvisor.Proofs.FileSystem.Relative

/-!
# Spellings of a directory

One directory can be spelled in many ways: with idle pieces, through the directory above, from the
top directory, or through links. `FileSystem.Spells` says that a path is such a spelling, and that
the system's limits do not stand in the way of anything below it.

What is below a directory does not depend on the spelling (`Spells.leadsTo_below`): the names that
go on from there are followed from the same location.
-/

namespace BattleAdvisor

/-! ## Where pieces lead -/

namespace Node.Resolves

variable {top : Node} {start last last' : Location} {pieces : List Name} {links links' : Nat}

/-- Pieces lead to one location at most. -/
theorem unique (resolves : top.Resolves start pieces links last)
    (resolves' : top.Resolves start pieces links' last') : last = last' := by
  have found := resolves.follow (Nat.le_max_left links links')
  have found' := resolves'.follow (Nat.le_max_right links links')
  exact Place.found.inj (Except.ok.inj (found.symm.trans found'))

/-- In a tree without links none is met. -/
theorem links_eq_zero (plain : top.Plain) (resolves : top.Resolves start pieces links last) :
    links = 0 := by
  induction resolves with
  | arrived => rfl
  | here _ _ ih => exact ih
  | above _ _ ih => exact ih
  | entered _ _ _ _ _ _ _ ih => exact ih
  | linked inside _ _ _ found => cases (plain.at? inside).lookup found

end Node.Resolves

/-! ## Walks -/

/-- A walk below a node does not fail if no path there is too long. -/
theorem Node.Proper.error_notMem {node : Node} (proper : node.Proper) {path : Path}
    (short : ∀ names inner, node.at? names = some inner →
      (path.below names).bytes.length ≤ pathLimit) (error : IoError) :
    .error error ∉ node.visitsBelow path := by
  induction proper generalizing path with
  | file content => simp [visitsBelow_file]
  | link target => simp [visitsBelow]
  | @directory entries ascending ordinary inside ih =>
    intro failed
    have here : path.bytes.length ≤ pathLimit := short [] _ (at?_nil _)
    rw [visitsBelow_directory, if_neg (Nat.not_lt.mpr here)] at failed
    obtain ⟨entry, among, failed⟩ := exists_of_mem_visitsOfEntries failed
    rw [visitsAt] at failed
    refine ih entry among (fun names inner there => ?_) (List.mem_of_ne_of_mem (by simp) failed)
    apply short (entry.1 :: names) inner
    rw [at?_cons, Entries.lookup_of_mem ascending among]
    exact there

namespace Path

variable {p dir : Path} {name : Name} {names : List Name}

/-! ## Zero bytes -/

theorem zero_mem_join (given : p.bytes ≠ []) (ordinary : name.Ordinary) :
    0 ∈ (p.join ⟨name⟩).bytes ↔ 0 ∈ p.bytes ∨ 0 ∈ name := by
  have other : (0 : UInt8) ≠ slash := by decide
  rw [join, isAbsolute_of_slashless ordinary.slashless, if_neg (by simpa using given)]
  split <;> simp [other]

/-- A path that goes on by names has a zero byte where the directory's path or a name has one. -/
theorem zero_mem_below (given : dir.bytes ≠ []) (ordinary : ∀ name ∈ names, name.Ordinary) :
    0 ∈ (dir.below names).bytes ↔ 0 ∈ dir.bytes ∨ ∃ name ∈ names, 0 ∈ name := by
  induction names generalizing dir with
  | nil => simp
  | cons name names ih =>
    obtain ⟨first, others⟩ := List.forall_mem_cons.mp ordinary
    rw [below_cons, ih (bytes_join_ne_nil first) others, zero_mem_join given first, or_assoc,
      List.exists_mem_cons_iff]

/-! ## Extensions -/

/-- The extension of a path that goes on by names is that of the last name. -/
theorem extension?_below (given : dir.bytes ≠ []) (further : names ≠ [])
    (ordinary : ∀ name ∈ names, name.Ordinary) :
    (dir.below names).extension? = nameExtension? (names.getLast further) := by
  obtain ⟨front, last, rfl⟩ : ∃ front last, names = front ++ [last] :=
    ⟨names.dropLast, names.getLast further, (List.dropLast_concat_getLast further).symm⟩
  rw [List.forall_mem_append] at ordinary
  rw [below_concat, extension?, fileName?_join (bytes_below_ne_nil given ordinary.1)
    (ordinary.2 last List.mem_cons_self), List.getLast_concat]
  rfl

end Path

namespace FileSystem

variable {fs : FileSystem} {dir dir' p p' : Path} {location : Location} {names : List Name}
  {node : Node}

theorem checkPath_eq_ok :
    checkPath p = .ok () ↔ 0 ∉ p.bytes ∧ p.bytes ≠ [] ∧ p.bytes.length ≤ pathLimit := by
  unfold checkPath
  split
  next zero => simpa using fun clean => absurd (by simpa using zero) clean
  next clean =>
    split
    next empty => simp [empty]
    next given => simp_all

/-! ## Spellings -/

/-- A path leads to the directory at a location, and on the paths that go on from there by names the
system meets none of its limits. -/
structure Spells (fs : FileSystem) (dir : Path) (location : Location) : Prop where
  checked : checkPath dir = .ok ()
  leads : ∃ links, fs.top.Resolves (fs.origin dir) dir.names links location
  there : ∃ entries, fs.top.at? location = some (.directory entries)
  /-- No path is too long. -/
  short : ∀ names node, fs.top.at? (location ++ names) = some node →
    (dir.below names).bytes.length ≤ pathLimit
  /-- There are not too many links on a path. -/
  few : ∀ names node links last, fs.top.at? (location ++ names) = some node →
    fs.top.Resolves (fs.origin dir) (dir.names ++ names) links last → links ≤ linkLimit

namespace Spells

theorem given (spells : fs.Spells dir location) : dir.bytes ≠ [] :=
  (checkPath_eq_ok.mp spells.checked).2.1

/-- The path itself leads to the directory. -/
theorem leadsTo (spells : fs.Spells dir location) {entries : Entries}
    (there : fs.top.at? location = some (.directory entries)) :
    fs.LeadsTo dir (.directory entries) := by
  obtain ⟨links, leads⟩ := spells.leads
  have few : links ≤ linkLimit := by
    refine spells.few [] (.directory entries) links location ?_ ?_
    · rw [List.append_nil, there]
    · rw [List.append_nil]
      exact leads
  have last :
      fs.top.Resolves location (if dir.endsInSlash then [Path.here] else []) 0 location := by
    split
    · exact .here there (.arrived location)
    · exact .arrived location
  refine ⟨spells.checked, links, few, location, ?_, there⟩
  rw [Path.steps_eq]
  exact leads.append last

/-- **What is below a directory does not depend on how the directory is spelled.** -/
theorem leadsTo_below (spells : fs.Spells dir location) (further : names ≠ [])
    (ordinary : ∀ name ∈ names, name.Ordinary) {inner : Node}
    (there : fs.top.at? (location ++ names) = some inner) :
    fs.LeadsTo (dir.below names) node ↔ (∀ name ∈ names, 0 ∉ name) ∧
      ∃ links last, fs.top.Resolves location names links last ∧ fs.top.at? last = some node := by
  have origin : fs.origin (dir.below names) = fs.origin dir := by
    rw [FileSystem.origin, Path.isAbsolute_below spells.given ordinary]
    rfl
  obtain ⟨before, leads⟩ := spells.leads
  obtain ⟨clean, -, -⟩ := checkPath_eq_ok.mp spells.checked
  have zero := Path.zero_mem_below spells.given ordinary
  rw [LeadsTo, origin, Path.steps_below spells.given ordinary further, checkPath_eq_ok]
  constructor
  · rintro ⟨⟨clean', -, -⟩, links, -, last, resolves, there'⟩
    rw [zero, not_or] at clean'
    obtain ⟨middle, links, links', first, second⟩ := resolves.split
    obtain rfl := first.unique leads
    exact ⟨fun name among zero => clean'.2 ⟨name, among, zero⟩, links', last, second, there'⟩
  · rintro ⟨clean', links, last, resolves, there'⟩
    have whole := leads.append resolves
    refine ⟨⟨?_, Path.bytes_below_ne_nil spells.given ordinary, spells.short names inner there⟩,
      before + links, spells.few names inner _ last there whole, last, whole, there'⟩
    rw [zero]
    rintro (inside | ⟨name, among, inside⟩)
    · exact clean inside
    · exact clean' name among inside

/-- Without links, a path spells the directory to which it leads if no path below it is too long. -/
theorem of_plain (plain : fs.top.Plain) (checked : checkPath dir = .ok ())
    (leads : ∃ links, fs.top.Resolves (fs.origin dir) dir.names links location) {entries : Entries}
    (there : fs.top.at? location = some (.directory entries))
    (short : ∀ names ∈ [] :: (Node.directory entries).locationsBelow,
      (dir.below names).bytes.length ≤ pathLimit) : fs.Spells dir location where
  checked := checked
  leads := leads
  there := ⟨entries, there⟩
  short names node inside := by
    rw [Node.at?_append, there] at inside
    apply short
    by_cases further : names = []
    · exact List.mem_cons.mpr (.inl further)
    · have proper : (Node.directory entries).Proper := (plain.at? there).proper
      exact List.mem_cons_of_mem _ (proper.mem_locationsBelow.mpr ⟨further, node, inside⟩)
  few names node links last _ resolves := by
    rw [resolves.links_eq_zero plain]
    exact Nat.zero_le _

/-- A walk does not fail. -/
theorem error_notMem (spells : fs.Spells dir location) (proper : fs.top.Proper) (error : IoError) :
    .error error ∉ fs.walk dir := by
  obtain ⟨entries, there⟩ := spells.there
  rw [walk_eq_visitsAt (spells.leadsTo there), Node.visitsAt]
  refine List.not_mem_cons_of_ne_of_not_mem nofun ((proper.at? there).error_notMem ?_ error)
  intro names node inside
  apply spells.short names node
  rw [Node.at?_append, there]
  exact inside

/-- Two spellings lead on to the same nodes. -/
theorem leadsTo_below_iff (spells : fs.Spells dir location) (spells' : fs.Spells dir' location)
    (further : names ≠ []) (ordinary : ∀ name ∈ names, name.Ordinary) {inner : Node}
    (there : fs.top.at? (location ++ names) = some inner) :
    fs.LeadsTo (dir.below names) node ↔ fs.LeadsTo (dir'.below names) node := by
  rw [spells.leadsTo_below further ordinary there, spells'.leadsTo_below further ordinary there]

end Spells

/-! ## Paths that lead to the same nodes -/

theorem isFile_congr (same : ∀ node, fs.LeadsTo p node ↔ fs.LeadsTo p' node) :
    fs.isFile p = fs.isFile p' := by
  rw [Bool.eq_iff_iff, isFile_iff, isFile_iff]
  exact exists_congr fun content => same (.file content)

theorem read_congr (same : ∀ node, fs.LeadsTo p node ↔ fs.LeadsTo p' node)
    (found : fs.isFile p = true) : fs.read p = fs.read p' := by
  obtain ⟨content, leads⟩ := isFile_iff.mp found
  have leads' := (same (.file content)).mp leads
  rw [read, read, stat_eq_ok_iff.mpr leads, stat_eq_ok_iff.mpr leads']

end FileSystem

end BattleAdvisor
