import BattleAdvisor.Proofs.FileSystem.Walk
import Mathlib.Data.List.Basic
import Mathlib.Data.List.Nodup

/-!
# The order of a walk

In a *proper* tree each directory lists ordinary names in ascending order (`Node.Proper`); there may
be links. `Node.locationsBelow` lists where the nodes below a node are. They ascend, name by name
(`Node.Proper.ascending_locationsBelow`), and a walk that does not fail meets them in this order
(`Node.visitsBelow_eq`). This is not the order of the paths' bytes: what is in `a` comes before
`a.json`, though a dot is less than a slash.

A walk does not depend on the order in which a directory lists its entries if it sorts them first:
it meets the same in a tree that is rearranged (`Node.Rearranged.sortedVisitsBelow_eq`).
-/

namespace BattleAdvisor

instance (name : Name) : Decidable name.Ordinary :=
  decidable_of_iff
    (name ≠ [] ∧ Path.slash ∉ name ∧ name ≠ Path.here ∧ name ≠ Path.above)
    ⟨fun ⟨nonempty, slashless, ne_here, ne_above⟩ => ⟨nonempty, slashless, ne_here, ne_above⟩,
      fun ⟨nonempty, slashless, ne_here, ne_above⟩ => ⟨nonempty, slashless, ne_here, ne_above⟩⟩

instance (entries : Entries) : Decidable entries.Ascending :=
  inferInstanceAs (Decidable (entries.Pairwise fun first second => first.1 < second.1))

namespace Node

/-- A tree of files, directories and links. Each directory has ordinary names, in ascending order.
-/
inductive Proper : Node → Prop
  | file (content : Bytes) : Proper (file content)
  | link (target : Path) : Proper (link target)
  | directory {entries : Entries} (ascending : entries.Ascending)
      (ordinary : ∀ entry ∈ entries, Name.Ordinary entry.1)
      (inside : ∀ entry ∈ entries, Proper entry.2) : Proper (directory entries)

/-- A plain tree is a proper one without links. -/
theorem Plain.proper {node : Node} (plain : node.Plain) : node.Proper := by
  induction plain with
  | file content => exact .file content
  | directory ascending ordinary _ ih => exact .directory ascending ordinary ih

mutual

/-- Where the nodes below a node are, each directory in front of what is in it. -/
def locationsBelow : Node → List Location
  | .directory entries => locationsOfEntries entries
  | _ => []

/-- Where the nodes at and below the given entries are. -/
def locationsOfEntries : List (Name × Node) → List Location
  | [] => []
  | (name, node) :: rest =>
    ([] :: node.locationsBelow).map (name :: ·) ++ locationsOfEntries rest

end

variable {node inner : Node} {entries : Entries} {names : List Name}

/-! ## Locations -/

theorem locationsBelow_file (content : Bytes) : (file content).locationsBelow = [] := by
  rw [locationsBelow]
  simp

theorem locationsBelow_link (target : Path) : (link target).locationsBelow = [] := by
  rw [locationsBelow]
  simp

theorem locationsBelow_directory (entries : Entries) :
    (directory entries).locationsBelow = locationsOfEntries entries := by
  rw [locationsBelow]

theorem locationsOfEntries_nil : locationsOfEntries [] = [] := by
  rw [locationsOfEntries]

theorem locationsOfEntries_cons (entry : Name × Node) (rest : Entries) :
    locationsOfEntries (entry :: rest) =
      ([] :: entry.2.locationsBelow).map (entry.1 :: ·) ++ locationsOfEntries rest := by
  rw [locationsOfEntries]

theorem mem_locationsOfEntries :
    names ∈ locationsOfEntries entries ↔ ∃ entry ∈ entries, ∃ rest,
      (rest = [] ∨ rest ∈ entry.2.locationsBelow) ∧ names = entry.1 :: rest := by
  induction entries with
  | nil => simp [locationsOfEntries_nil]
  | cons first others ih =>
    rw [locationsOfEntries_cons, List.mem_append, ih, List.mem_map]
    constructor
    · rintro (⟨rest, below, rfl⟩ | ⟨entry, among, rest, below, rfl⟩)
      · exact ⟨first, List.mem_cons_self, rest, List.mem_cons.mp below, rfl⟩
      · exact ⟨entry, List.mem_cons_of_mem _ among, rest, below, rfl⟩
    · rintro ⟨entry, among, rest, below, rfl⟩
      rcases List.mem_cons.mp among with rfl | among
      · exact .inl ⟨rest, List.mem_cons.mpr below, rfl⟩
      · exact .inr ⟨entry, among, rest, below, rfl⟩

/-- The locations at and below entries ascend if the entries do, and the locations in each of them.
-/
theorem ascending_locationsOfEntries (ascending : entries.Ascending)
    (inside : ∀ entry ∈ entries, ([] :: entry.2.locationsBelow).Pairwise (· < ·)) :
    (locationsOfEntries entries).Pairwise (· < ·) := by
  induction entries with
  | nil =>
    rw [locationsOfEntries_nil]
    exact .nil
  | cons first rest ih =>
    obtain ⟨least, later⟩ := List.pairwise_cons.mp ascending
    obtain ⟨here, others⟩ := List.forall_mem_cons.mp inside
    rw [locationsOfEntries_cons, List.pairwise_append, List.pairwise_map]
    refine ⟨?_, ih later others, ?_⟩
    · apply here.imp
      intro names names' less
      exact List.cons_lt_cons_iff.mpr (.inr ⟨rfl, less⟩)
    · -- What is behind an entry begins with a greater name.
      intro names among names' among'
      obtain ⟨below, -, rfl⟩ := List.mem_map.mp among
      obtain ⟨entry, listed, below', -, rfl⟩ := mem_locationsOfEntries.mp among'
      exact List.cons_lt_cons_iff.mpr (.inl (least entry listed))

namespace Proper

theorem at? {location : Location} (proper : node.Proper) (there : node.at? location = some inner) :
    inner.Proper := by
  induction location generalizing node with
  | nil =>
    rw [at?_nil] at there
    exact Option.some.inj there ▸ proper
  | cons name rest ih =>
    obtain ⟨entries, next, rfl, found, there⟩ := exists_of_at?_cons there
    cases proper with
    | directory _ _ inside => exact ih (inside _ (Entries.mem_of_lookup found)) there

/-- The nodes below a proper node are found at its locations. -/
theorem mem_locationsBelow (proper : node.Proper) :
    names ∈ node.locationsBelow ↔ names ≠ [] ∧ ∃ inner, node.at? names = some inner := by
  induction proper generalizing names with
  | file content =>
    rw [locationsBelow_file]
    cases names <;> simp [Node.at?]
  | link target =>
    rw [locationsBelow_link]
    cases names <;> simp [Node.at?]
  | @directory entries ascending ordinary inside ih =>
    rw [locationsBelow_directory, mem_locationsOfEntries]
    have below {entry : Name × Node} (among : entry ∈ entries) (rest : List Name) :
        (rest = [] ∨ rest ∈ entry.2.locationsBelow) ↔ ∃ inner, entry.2.at? rest = some inner := by
      rw [ih entry among]
      cases rest with
      | nil => simp [at?_nil]
      | cons => simp
    constructor
    · rintro ⟨entry, among, rest, there, rfl⟩
      obtain ⟨inner, there⟩ := (below among rest).mp there
      refine ⟨List.cons_ne_nil _ _, inner, ?_⟩
      rw [at?_cons, Entries.lookup_of_mem ascending among]
      exact there
    · rintro ⟨further, inner, there⟩
      obtain ⟨name, rest, rfl⟩ := List.exists_cons_of_ne_nil further
      rw [at?_cons] at there
      obtain ⟨next, found, there⟩ := Option.bind_eq_some_iff.mp there
      have among := Entries.mem_of_lookup found
      exact ⟨(name, next), among, rest, (below among rest).mpr ⟨inner, there⟩, rfl⟩

theorem ordinary_of_mem (proper : node.Proper) (among : names ∈ node.locationsBelow) :
    ∀ name ∈ names, Name.Ordinary name := by
  induction proper generalizing names with
  | file content =>
    rw [locationsBelow_file] at among
    cases among
  | link target =>
    rw [locationsBelow_link] at among
    cases among
  | directory ascending ordinary inside ih =>
    rw [locationsBelow_directory, mem_locationsOfEntries] at among
    obtain ⟨entry, listed, rest, further, rfl⟩ := among
    rw [List.forall_mem_cons]
    refine ⟨ordinary entry listed, ?_⟩
    rcases further with rfl | below
    · exact List.forall_mem_nil _
    · exact ih entry listed below

/-- The locations of the nodes below a proper node ascend, name by name. -/
theorem ascending_locationsBelow (proper : node.Proper) :
    node.locationsBelow.Pairwise (· < ·) := by
  induction proper with
  | file content =>
    rw [locationsBelow_file]
    exact .nil
  | link target =>
    rw [locationsBelow_link]
    exact .nil
  | directory ascending ordinary inside ih =>
    rw [locationsBelow_directory]
    apply ascending_locationsOfEntries ascending
    intro entry among
    refine List.pairwise_cons.mpr ⟨?_, ih entry among⟩
    intro names below
    obtain ⟨name, rest, rfl⟩ :=
      List.exists_cons_of_ne_nil ((inside entry among).mem_locationsBelow.mp below).1
    exact List.nil_lt_cons name rest

end Proper

/-! ## Visits -/

mutual

/-- A walk below a node that does not fail meets a path for each location, in their order. -/
theorem visitsBelow_eq (path : Path) : (node : Node) →
    (∀ error, .error error ∉ node.visitsBelow path) →
      node.visitsBelow path = node.locationsBelow.map fun names => .ok (path.below names)
  | file content, _ => by
    rw [visitsBelow_file, locationsBelow_file]
    rfl
  | link target, _ => by
    rw [locationsBelow_link, visitsBelow]
    · rfl
    · simp
  | directory entries, calm => by
    rw [visitsBelow_directory] at calm ⊢
    rw [locationsBelow_directory]
    by_cases long : pathLimit < path.bytes.length
    · rw [if_pos long] at calm
      exact absurd List.mem_cons_self (calm _)
    · rw [if_neg long] at calm ⊢
      exact visitsOfEntries_eq path entries calm

theorem visitsOfEntries_eq (path : Path) : (entries : List (Name × Node)) →
    (∀ error, .error error ∉ visitsOfEntries path entries) →
      visitsOfEntries path entries =
        (locationsOfEntries entries).map fun names => .ok (path.below names)
  | [], _ => by
    rw [visitsOfEntries_nil, locationsOfEntries_nil]
    rfl
  | (name, node) :: rest, calm => by
    rw [visitsOfEntries_cons] at calm ⊢
    have inside := visitsBelow_eq (path.join ⟨name⟩) node fun error among =>
      calm error (List.mem_append_left _ (List.mem_cons_of_mem _ among))
    have others := visitsOfEntries_eq path rest fun error among =>
      calm error (List.mem_append_right _ among)
    rw [visitsAt, inside, others, locationsOfEntries_cons]
    simp [Path.below_cons]

end

/-! ## Any order of entries -/

mutual

/-- What a walk meets below a node if directories list their entries in any order, and the walk
sorts them by name. -/
def sortedVisitsBelow (path : Path) : Node → List Visit
  | .directory listed =>
    if pathLimit < path.bytes.length then [.error (.unwalkable path .nameTooLong)]
    else ((visitsByName path listed).mergeSort fun first second => first.1 ≤ second.1).flatMap (·.2)
  | _ => []

/-- What it meets at each of the listed entries. -/
def visitsByName (path : Path) : List (Name × Node) → List (Name × List Visit)
  | [] => []
  | (name, node) :: rest =>
    (name, .ok (path.join ⟨name⟩) :: node.sortedVisitsBelow (path.join ⟨name⟩)) ::
      visitsByName path rest

end

/-- The first tree is the second one with the entries of directories in any order. -/
inductive Rearranged : Node → Node → Prop
  | file (content : Bytes) : Rearranged (file content) (file content)
  | link (target : Path) : Rearranged (link target) (link target)
  | directory {listed entries : Entries}
      (names : (listed.map Prod.fst).Perm (entries.map Prod.fst))
      (inside : ∀ entry ∈ listed, ∀ other ∈ entries, entry.1 = other.1 →
        Rearranged entry.2 other.2) :
      Rearranged (directory listed) (directory entries)

theorem visitsByName_eq_map (path : Path) (listed : Entries) :
    visitsByName path listed = listed.map fun entry =>
      (entry.1, .ok (path.join ⟨entry.1⟩) :: entry.2.sortedVisitsBelow (path.join ⟨entry.1⟩)) := by
  induction listed with
  | nil => rw [visitsByName]; rfl
  | cons entry rest ih =>
    rw [visitsByName, ih]
    rfl

/-- A name, and what a walk meets at the entry of that name. -/
def visitsOfName (path : Path) (entries : Entries) (name : Name) : Name × List Visit :=
  (name, (entries.lookup name).elim [] (visitsAt (path.join ⟨name⟩)))

theorem visitsOfName_of_mem {path : Path} (ascending : entries.Ascending) {entry : Name × Node}
    (among : entry ∈ entries) :
    visitsOfName path entries entry.1 = (entry.1, entry.2.visitsAt (path.join ⟨entry.1⟩)) := by
  rw [visitsOfName, Entries.lookup_of_mem ascending among]
  rfl

theorem visitsOfEntries_eq_flatMap (path : Path) (ascending : entries.Ascending) :
    visitsOfEntries path entries =
      ((entries.map Prod.fst).map (visitsOfName path entries)).flatMap (·.2) := by
  have same : (entries.map Prod.fst).map (visitsOfName path entries) =
      entries.map fun entry => (entry.1, entry.2.visitsAt (path.join ⟨entry.1⟩)) := by
    rw [List.map_map]
    apply List.map_congr_left
    intro entry among
    exact visitsOfName_of_mem ascending among
  rw [same]
  clear same ascending
  induction entries with
  | nil => rw [visitsOfEntries_nil]; rfl
  | cons entry rest ih =>
    rw [visitsOfEntries_cons, ih]
    rfl

/-- What is met by ascending names is in the order into which it would be sorted. -/
theorem mergeSort_eq_of_perm {path : Path} (ascending : entries.Ascending)
    {visits : List (Name × List Visit)}
    (reordered : visits.Perm ((entries.map Prod.fst).map (visitsOfName path entries))) :
    (visits.mergeSort fun first second => first.1 ≤ second.1) =
      (entries.map Prod.fst).map (visitsOfName path entries) := by
  have sorted : (visits.mergeSort fun first second => first.1 ≤ second.1).Pairwise
      fun first second => first.1 ≤ second.1 := by
    refine (List.pairwise_mergeSort ?_ ?_ visits).imp of_decide_eq_true
    · intro first second third
      simpa using Std.le_trans
    · intro first second
      simpa using Std.le_total
  have names : (entries.map Prod.fst).Pairwise (· < ·) := List.pairwise_map.mpr ascending
  have sorted' : ((entries.map Prod.fst).map (visitsOfName path entries)).Pairwise
      fun first second => first.1 ≤ second.1 := by
    rw [List.pairwise_map]
    apply names.imp
    intro name name' less
    exact Std.le_of_lt less
  have perm := (List.mergeSort_perm visits fun first second => first.1 ≤ second.1).trans reordered
  refine List.Perm.eq_of_pairwise ?_ sorted sorted' perm
  -- Two elements of one name are the same, because the name decides what is met there.
  intro first second among among' le le'
  obtain ⟨name, -, rfl⟩ := List.mem_map.mp (perm.subset among)
  obtain ⟨name', -, rfl⟩ := List.mem_map.mp among'
  obtain rfl : name = name' := Std.le_antisymm le le'
  rfl

/-- A walk that sorts what it lists meets the same in a tree that is rearranged. -/
theorem Rearranged.sortedVisitsBelow_eq {listed : Node} (rearranged : listed.Rearranged node)
    (proper : node.Proper) (path : Path) :
    listed.sortedVisitsBelow path = node.visitsBelow path := by
  induction rearranged generalizing path with
  | file content =>
    rw [visitsBelow_file, sortedVisitsBelow]
    simp
  | link target =>
    rw [visitsBelow, sortedVisitsBelow]
    · simp
    · simp
  | @directory listed entries names inside ih =>
    cases proper with
    | directory ascending ordinary proper =>
      have same : visitsByName path listed =
          (listed.map Prod.fst).map (visitsOfName path entries) := by
        rw [visitsByName_eq_map, List.map_map]
        apply List.map_congr_left
        intro entry among
        obtain ⟨other, among', alike⟩ := List.mem_map.mp (names.subset (List.mem_map_of_mem among))
        have met := ih entry among other among' alike.symm (proper other among')
        rw [Function.comp_apply, ← alike, visitsOfName_of_mem ascending among', alike, met]
        rfl
      have reordered : (visitsByName path listed).Perm
          ((entries.map Prod.fst).map (visitsOfName path entries)) := same ▸ names.map _
      rw [sortedVisitsBelow, visitsBelow_directory, visitsOfEntries_eq_flatMap path ascending,
        mergeSort_eq_of_perm ascending reordered]

end Node

end BattleAdvisor
