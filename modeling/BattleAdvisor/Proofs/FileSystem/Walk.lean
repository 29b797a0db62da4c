import BattleAdvisor.FileSystem.Walk
import BattleAdvisor.Proofs.FileSystem.Follow

/-!
# What a walk meets

A walk meets a directory's own path and then, entry by entry, what is met below it
(`Node.visitsBelow_directory`). It fails only at a directory whose path is too long
(`FileSystem.exists_long`), and never at its root, if that is a directory
(`FileSystem.walk_directory`).

When a node is set in a directory, the walk changes at one place, where it meets that node
(`Node.exists_visits_cut`).
-/

namespace BattleAdvisor

/-- What a walk meets at a node with the given path. -/
def Node.visitsAt (path : Path) (node : Node) : List Visit :=
  .ok path :: node.visitsBelow path

namespace Node

/-- What a walk meets below a directory. -/
theorem visitsBelow_directory (path : Path) (entries : Entries) :
    (directory entries).visitsBelow path =
      if pathLimit < path.bytes.length then [.error (.unwalkable path .nameTooLong)]
      else visitsOfEntries path entries := by
  rw [visitsBelow]

theorem visitsOfEntries_nil (path : Path) : visitsOfEntries path [] = [] := by
  rw [visitsOfEntries]

theorem visitsOfEntries_cons (path : Path) (entry : Name × Node) (rest : Entries) :
    visitsOfEntries path (entry :: rest) =
      entry.2.visitsAt (path.join ⟨entry.1⟩) ++ visitsOfEntries path rest := by
  rw [visitsOfEntries]
  rfl

theorem visitsOfEntries_append (path : Path) (first second : Entries) :
    visitsOfEntries path (first ++ second) =
      visitsOfEntries path first ++ visitsOfEntries path second := by
  induction first with
  | nil => rw [visitsOfEntries_nil]; rfl
  | cons entry first ih =>
    rw [List.cons_append, visitsOfEntries_cons, visitsOfEntries_cons, ih, List.append_assoc]

theorem exists_of_mem_visitsOfEntries {path : Path} {entries : Entries} {visit : Visit}
    (met : visit ∈ visitsOfEntries path entries) :
    ∃ entry ∈ entries, visit ∈ entry.2.visitsAt (path.join ⟨entry.1⟩) := by
  induction entries with
  | nil =>
    rw [visitsOfEntries_nil] at met
    cases met
  | cons entry rest ih =>
    rw [visitsOfEntries_cons] at met
    rcases List.mem_append.mp met with met | met
    · exact ⟨entry, List.mem_cons_self, met⟩
    · obtain ⟨entry, among, met⟩ := ih met
      exact ⟨entry, List.mem_cons_of_mem _ among, met⟩

theorem visitsBelow_file (path : Path) (content : Bytes) :
    (file content).visitsBelow path = [] := by
  rw [visitsBelow]
  exact nofun

/-! ## Failures -/

mutual

theorem long_of_mem_visitsBelow (path : Path) : (node : Node) → {error : IoError} →
    .error error ∈ node.visitsBelow path → ∃ long, error = .unwalkable long .nameTooLong ∧
      pathLimit < long.bytes.length ∧ (.ok long : Visit) ∈ node.visitsAt path
  | file _, _, among => by
    rw [visitsBelow_file] at among
    cases among
  | link _, _, among => by
    rw [visitsBelow] at among
    · cases among
    · exact nofun
  | directory entries, error, among => by
    rw [visitsAt, visitsBelow]
    rw [visitsBelow] at among
    by_cases long : pathLimit < path.bytes.length
    · rw [if_pos long, List.mem_singleton] at among
      exact ⟨path, Except.error.inj among, long, List.mem_cons_self⟩
    · rw [if_neg long] at among ⊢
      obtain ⟨long, same, length, met⟩ := long_of_mem_visitsOfEntries path entries among
      exact ⟨long, same, length, List.mem_cons_of_mem _ met⟩

theorem long_of_mem_visitsOfEntries (path : Path) : (entries : List (Name × Node)) →
    {error : IoError} → .error error ∈ visitsOfEntries path entries →
      ∃ long, error = .unwalkable long .nameTooLong ∧ pathLimit < long.bytes.length ∧
        (.ok long : Visit) ∈ visitsOfEntries path entries
  | [], _, among => by
    rw [visitsOfEntries_nil] at among
    cases among
  | (name, node) :: rest, error, among => by
    rw [visitsOfEntries_cons] at among ⊢
    rcases List.mem_append.mp among with among | among
    · rcases List.mem_cons.mp among with among | among
      · cases among
      · obtain ⟨long, same, length, met⟩ := long_of_mem_visitsBelow _ node among
        exact ⟨long, same, length, List.mem_append_left _ met⟩
    · obtain ⟨long, same, length, met⟩ := long_of_mem_visitsOfEntries path rest among
      exact ⟨long, same, length, List.mem_append_right _ met⟩

end

end Node

namespace FileSystem

variable {fs : FileSystem}

/-- A walk through a directory starts there. -/
theorem walk_directory {dir : Path} (found : fs.isDirectory dir = true) :
    ∃ node : Node, fs.walk dir = node.visitsAt dir := by
  unfold isDirectory at found
  split at found
  next entries leads =>
    obtain ⟨node, leads'⟩ := exists_linkStat leads
    unfold walk
    rw [leads']
    cases node with
    | link =>
      simp only [leads]
      exact ⟨.directory entries, rfl⟩
    | file content => exact ⟨.file content, rfl⟩
    | directory entries => exact ⟨.directory entries, rfl⟩
  next => cases found

/-- A walk through a directory fails only at a directory whose path is too long. -/
theorem exists_long {dir : Path} (found : fs.isDirectory dir = true) {error : IoError}
    (among : .error error ∈ fs.walk dir) :
    ∃ long, error = .unwalkable long .nameTooLong ∧ pathLimit < long.bytes.length ∧
      .ok long ∈ fs.walk dir := by
  obtain ⟨node, whole⟩ := walk_directory found
  rw [whole] at among ⊢
  rcases List.mem_cons.mp among with among | among
  · cases among
  · exact node.long_of_mem_visitsBelow dir among

/-- Without links, a walk goes through the directory to which the path leads. -/
theorem walk_directoryAt (plain : fs.top.Plain) {dir : Path} {location : Location} {node : Node}
    (at' : fs.DirectoryAt dir location) (there : fs.top.at? location = some node) :
    fs.walk dir = node.visitsAt dir := by
  obtain ⟨entries, there'⟩ := at'.there
  obtain rfl := Option.some.inj (there'.symm.trans there)
  have leads : fs.find false dir = .ok (location, .directory entries) := by
    rw [find_eq_ok, follow_eq_ok plain]
    exact ⟨at'.checked, at'.leads_steps plain, there⟩
  rw [walk, linkStat, leads]
  rfl

end FileSystem

/-! ## Walks without links -/

namespace Node

theorem exists_below_of_mem_visitsAt {node : Node} (plain : node.Plain) {path q : Path}
    (met : .ok q ∈ node.visitsAt path) :
    ∃ names, (∀ name ∈ names, name.Ordinary) ∧ q = path.below names ∧
      (node.at? names).isSome := by
  induction plain generalizing path with
  | file content =>
    rw [visitsAt, visitsBelow_file, List.mem_singleton] at met
    cases met
    exact ⟨[], List.forall_mem_nil _, rfl, rfl⟩
  | @directory entries ascending ordinary inside ih =>
    rw [visitsAt, visitsBelow_directory] at met
    rcases List.mem_cons.mp met with met | met
    · cases met
      exact ⟨[], List.forall_mem_nil _, rfl, rfl⟩
    · split at met
      · simp at met
      · obtain ⟨entry, among, met⟩ := exists_of_mem_visitsOfEntries met
        obtain ⟨names, others, same, there⟩ := ih entry among met
        refine ⟨entry.1 :: names, List.forall_mem_cons.mpr ⟨ordinary entry among, others⟩, same, ?_⟩
        rw [at?_cons, Entries.lookup_of_mem ascending among]
        exact there

/-- When a node is set in a directory, a walk changes at most at the place where it meets that
node. -/
theorem exists_visits_cut {node : Node} (plain : node.Plain) {around : Location}
    {entries : Entries} (there : node.at? around = some (directory entries)) (name : Name)
    (path : Path) :
    (∀ new, (put new (around ++ [name]) node).visitsBelow path = node.visitsBelow path) ∨
    ∃ before after,
      node.visitsBelow path = before ++ ((entries.lookup name).elim []
        (visitsAt (path.below (around ++ [name])))) ++ after ∧
      ∀ new, (put new (around ++ [name]) node).visitsBelow path =
        before ++ visitsAt (path.below (around ++ [name])) new ++ after := by
  induction around generalizing node path with
  | nil =>
    rw [at?_nil] at there
    obtain rfl := Option.some.inj there
    obtain ⟨before, after, cut, -, -, set⟩ := Entries.exists_cut name plain.ascending
    simp only [List.nil_append, put_cons, put, visitsBelow_directory, set]
    by_cases long : pathLimit < path.bytes.length
    · simp only [if_pos long]
      exact .inl fun new => trivial
    simp only [if_neg long]
    refine .inr ⟨visitsOfEntries path before, visitsOfEntries path after, ?_, fun new => ?_⟩
    · refine (congrArg (visitsOfEntries path) cut).trans ?_
      rw [visitsOfEntries_append, visitsOfEntries_append]
      cases entries.lookup name with
      | none => rw [Option.map_none, Option.toList_none, visitsOfEntries_nil]; rfl
      | some old =>
        rw [Option.map_some, Option.toList_some, visitsOfEntries_cons, visitsOfEntries_nil,
          List.append_nil]
        rfl
    · rw [visitsOfEntries_append, visitsOfEntries_cons, List.append_assoc]
      rfl
  | cons outer around ih =>
    obtain ⟨whole, inner, rfl, found, inside⟩ := exists_of_at?_cons there
    obtain ⟨before, after, cut, -, -, set⟩ := Entries.exists_cut outer plain.ascending
    rw [found] at cut
    simp only [List.cons_append, put_cons, found, Option.getD_some, visitsBelow_directory, set]
    by_cases long : pathLimit < path.bytes.length
    · simp only [if_pos long]
      exact .inl fun new => trivial
    simp only [if_neg long]
    have old := congrArg (visitsOfEntries path) cut
    simp only [visitsOfEntries_append, visitsOfEntries_cons, Option.map_some, Option.toList_some]
      at old ⊢
    rcases ih (plain.lookup found) inside (path.join ⟨outer⟩) with same | ⟨early, late, was, set⟩
    · refine .inl fun new => ?_
      rw [old, visitsAt, visitsAt, same new]
      simp [visitsOfEntries_nil]
    · refine .inr ⟨visitsOfEntries path before ++ .ok (path.join ⟨outer⟩) :: early,
        late ++ visitsOfEntries path after, ?_, fun new => ?_⟩
      · rw [old, visitsAt, was]
        simp [visitsOfEntries_nil, Path.below_cons]
      · rw [visitsAt, set new]
        simp [Path.below_cons]

end Node

namespace FileSystem

variable {fs : FileSystem} {dir : Path} {location around : Location} {name : Name}

/-- Each path that a walk meets goes on from the directory by ordinary names, to a node. -/
theorem exists_below_of_mem_walk (plain : fs.top.Plain) (at' : fs.DirectoryAt dir location)
    {q : Path} (met : .ok q ∈ fs.walk dir) :
    ∃ names, (∀ name ∈ names, name.Ordinary) ∧ q = dir.below names ∧
      (fs.top.at? (location ++ names)).isSome := by
  obtain ⟨entries, there⟩ := at'.there
  rw [walk_directoryAt plain at' there] at met
  obtain ⟨names, ordinary, same, inside⟩ :=
    Node.exists_below_of_mem_visitsAt (plain.at? there) met
  refine ⟨names, ordinary, same, ?_⟩
  rw [Node.at?_append, there]
  exact inside

/-- When a node is set where there is room for it, a walk stays as it is, or it meets that node
where it may have met a file before. -/
theorem walk_put (plain : fs.top.Plain) (at' : fs.DirectoryAt dir location)
    (room : fs.top.HasRoom around name) (ordinary : name.Ordinary) :
    (∀ new : Node, new.Plain → (fs.put (around ++ [name]) new).walk dir = fs.walk dir) ∨
    ∃ rest, around = location ++ rest ∧ ∃ before old after,
      fs.walk dir = before ++ old ++ after ∧
      (old = [] ∨ old = [.ok (dir.below (rest ++ [name]))]) ∧
      ∀ new : Node, new.Plain → (fs.put (around ++ [name]) new).walk dir =
        before ++ new.visitsAt (dir.below (rest ++ [name])) ++ after := by
  obtain ⟨entries, there⟩ := at'.there
  obtain ⟨inside, there', free⟩ := id room
  have plain' {new : Node} (plain' : new.Plain) : (fs.put (around ++ [name]) new).top.Plain :=
    plain.put there' ordinary plain'
  by_cases below : ∃ rest, around = location ++ rest
  · obtain ⟨rest, rfl⟩ := below
    have set (new : Node) : (fs.put (location ++ rest ++ [name]) new).top.at? location =
        some (new.put (rest ++ [name]) (.directory entries)) := by
      rw [List.append_assoc]
      exact Node.at?_put_append there new (rest ++ [name])
    rw [Node.at?_append, there] at there'
    rw [walk_directoryAt plain at' there]
    have walked {new : Node} (plain'' : new.Plain) :=
      walk_directoryAt (plain' plain'') (at'.put room new) (set new)
    rcases Node.exists_visits_cut (plain.at? there) there' name dir with
      same | ⟨before, after, was, now⟩
    · exact .inl fun new plain'' => by rw [walked plain'', Node.visitsAt, Node.visitsAt, same]
    · refine .inr ⟨rest, rfl, .ok dir :: before, _, after, by rw [Node.visitsAt, was]; rfl, ?_,
        fun new plain'' => by rw [walked plain'', Node.visitsAt, now]; rfl⟩
      cases found : inside.lookup name with
      | none => exact .inl rfl
      | some node =>
        obtain ⟨content, rfl⟩ := free node found
        exact .inr (by rw [Option.elim_some, Node.visitsAt, Node.visitsBelow_file])
  · refine .inl fun new plain'' => ?_
    rw [walk_directoryAt plain at' there]
    refine walk_directoryAt (plain' plain'') (at'.put room new) ?_
    rcases Node.at?_put new name there' location with ⟨rest, rfl, -⟩ | kept | ⟨rest, -, same, -⟩
    · exact absurd there (room.ne_directory rest entries)
    · exact kept.trans there
    · exact absurd ⟨rest, same⟩ below

/-- A walk meets all it met before when a node is set where there is room for it. -/
theorem walk_subset_put (plain : fs.top.Plain) (at' : fs.DirectoryAt dir location)
    (room : fs.top.HasRoom around name) (ordinary : name.Ordinary) {new : Node}
    (plain' : new.Plain) : fs.walk dir ⊆ (fs.put (around ++ [name]) new).walk dir := by
  rcases walk_put plain at' room ordinary with alike | ⟨rest, -, before, old, after, was, gone, now⟩
  · rw [alike new plain']
    exact List.Subset.refl _
  · have inside : old ⊆ new.visitsAt (dir.below (rest ++ [name])) := by
      rcases gone with rfl | rfl
      · exact List.nil_subset _
      · exact List.cons_subset.mpr ⟨List.mem_cons_self, List.nil_subset _⟩
    rw [was, now new plain']
    intro visit met
    simp only [List.mem_append] at met ⊢
    exact met.imp_left (.imp_right (@inside visit))

end FileSystem

end BattleAdvisor
