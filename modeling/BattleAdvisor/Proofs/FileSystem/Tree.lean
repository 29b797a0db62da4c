import BattleAdvisor.FileSystem.Write

/-!
# Trees of files and directories

A tree is *plain* if it has no links and each directory lists ordinary names in ascending order
(`Node.Plain`). Setting the entry of a name cuts the entries of a directory at one place
(`Entries.exists_cut`); setting a node at a location changes what is there and nothing beside it
(`Node.at?_put`), and a plain tree stays plain (`Node.Plain.put`).
-/

namespace BattleAdvisor

/-! ## Entries -/

/-- A name that a node can have: it is one piece of a path, and leads to an entry. -/
structure Name.Ordinary (name : Name) : Prop where
  nonempty : name ≠ []
  slashless : Path.slash ∉ name
  ne_here : name ≠ Path.here
  ne_above : name ≠ Path.above

namespace Entries

/-- The names ascend, so that no two entries have the same. -/
def Ascending (entries : Entries) : Prop :=
  entries.Pairwise fun first second => first.1 < second.1

theorem lookup_cons (name : Name) (node : Node) (rest : Entries) (other : Name) :
    List.lookup other ((name, node) :: rest) =
      if other = name then some node else rest.lookup other := by
  by_cases same : other = name
  · rw [if_pos same, same, List.lookup_cons_self]
  · rw [if_neg same, List.lookup_cons, beq_eq_false_iff_ne.mpr same]

theorem lookup_put (name : Name) (node : Node) (entries : Entries) (other : Name) :
    (put name node entries).lookup other =
      if other = name then some node else entries.lookup other := by
  induction entries with
  | nil => exact lookup_cons name node [] other
  | cons first rest ih =>
    obtain ⟨first, old⟩ := first
    rw [put]
    by_cases before : name < first
    · rw [if_pos before, lookup_cons]
    rw [if_neg before]
    by_cases same : name = first
    · subst same
      rw [if_pos rfl, lookup_cons, lookup_cons]
      by_cases found : other = name <;> simp [found]
    · rw [if_neg same, lookup_cons, lookup_cons, ih]
      by_cases found : other = first
      · subst found
        rw [if_pos rfl, if_pos rfl, if_neg (Ne.symm same)]
      · rw [if_neg found, if_neg found]

theorem mem_of_lookup {entries : Entries} {name : Name} {node : Node}
    (found : entries.lookup name = some node) : (name, node) ∈ entries := by
  induction entries with
  | nil => cases found
  | cons first rest ih =>
    obtain ⟨first, old⟩ := first
    rw [lookup_cons] at found
    by_cases same : name = first
    · rw [if_pos same] at found
      rw [same, Option.some.inj found]
      exact List.mem_cons_self
    · rw [if_neg same] at found
      exact List.mem_cons_of_mem _ (ih found)

/-- In ascending order each entry is found by its name. -/
theorem lookup_of_mem {entries : Entries} (ascending : Ascending entries) {entry : Name × Node}
    (among : entry ∈ entries) : entries.lookup entry.1 = some entry.2 := by
  induction entries with
  | nil => cases among
  | cons first rest ih =>
    obtain ⟨least, others⟩ := List.pairwise_cons.mp ascending
    rw [lookup_cons]
    rcases List.mem_cons.mp among with rfl | among
    · rw [if_pos rfl]
    · rw [if_neg (Std.ne_of_lt (least entry among)).symm]
      exact ih others among

/-- Ascending entries are cut at the place of a name, where setting its entry takes effect. -/
theorem exists_cut (name : Name) {entries : Entries} (ascending : Ascending entries) :
    ∃ before after,
      entries = before ++ ((entries.lookup name).map fun node => (name, node)).toList ++ after ∧
      (∀ entry ∈ before, entry.1 < name) ∧ (∀ entry ∈ after, name < entry.1) ∧
      ∀ node, put name node entries = before ++ (name, node) :: after := by
  induction entries with
  | nil => exact ⟨[], [], rfl, nofun, nofun, fun node => rfl⟩
  | cons first rest ih =>
    obtain ⟨first, old⟩ := first
    obtain ⟨least, others⟩ := List.pairwise_cons.mp ascending
    by_cases early : name < first
    · have greater : ∀ entry ∈ (first, old) :: rest, name < entry.1 := by
        intro entry among
        rcases List.mem_cons.mp among with rfl | among
        · exact early
        · exact List.lt_trans early (least entry among)
      have absent : List.lookup name ((first, old) :: rest) = none := by
        rw [List.lookup_eq_none_iff]
        intro entry among
        simpa using Std.ne_of_lt (greater entry among)
      refine ⟨[], (first, old) :: rest, by rw [absent]; rfl, nofun, greater, fun node => ?_⟩
      rw [put, if_pos early]
      rfl
    by_cases same : name = first
    · subst same
      refine ⟨[], rest, by rw [List.lookup_cons_self]; rfl, nofun, least, fun node => ?_⟩
      rw [put, if_neg early, if_pos rfl]
      rfl
    · obtain ⟨before, after, cut, less, greater, set⟩ := ih others
      have late : first < name := Std.lt_of_le_of_ne (List.not_lt.mp early) (Ne.symm same)
      refine ⟨(first, old) :: before, after, ?_, ?_, greater, fun node => ?_⟩
      · rw [lookup_cons, if_neg same]
        exact congrArg (List.cons (first, old)) cut
      · intro entry among
        rcases List.mem_cons.mp among with rfl | among
        · exact late
        · exact less entry among
      · rw [put, if_neg early, if_neg same, set node]
        rfl

theorem ascending_put {entries : Entries} (ascending : Ascending entries) (name : Name)
    (node : Node) : Ascending (put name node entries) := by
  obtain ⟨before, after, cut, less, greater, set⟩ := exists_cut name ascending
  rw [set node]
  unfold Ascending at ascending
  rw [cut, List.append_assoc, List.pairwise_append] at ascending
  obtain ⟨first, second, between⟩ := ascending
  refine List.pairwise_append.mpr ⟨first, List.pairwise_cons.mpr ⟨greater, ?_⟩, ?_⟩
  · exact (List.pairwise_append.mp second).2.1
  · intro entry among other among'
    rcases List.mem_cons.mp among' with rfl | among'
    · exact less entry among
    · exact between entry among other (List.mem_append_right _ among')

theorem mem_put {entries : Entries} (ascending : Ascending entries) {name : Name} {node : Node}
    {entry : Name × Node} (among : entry ∈ put name node entries) :
    entry = (name, node) ∨ entry ∈ entries := by
  obtain ⟨before, after, cut, -, -, set⟩ := exists_cut name ascending
  rw [set node, List.mem_append, List.mem_cons] at among
  rw [cut]
  rcases among with among | rfl | among
  · exact .inr (List.mem_append_left _ (List.mem_append_left _ among))
  · exact .inl rfl
  · exact .inr (List.mem_append_right _ among)

end Entries

namespace Node

/-! ## Locations -/

theorem at?_nil (node : Node) : node.at? [] = some node := by
  cases node <;> rfl

theorem at?_cons (entries : Entries) (name : Name) (rest : Location) :
    (directory entries).at? (name :: rest) = (entries.lookup name).bind (·.at? rest) := by
  rw [at?]
  cases entries.lookup name <;> rfl

/-- Only a directory has something below it. -/
theorem exists_of_at?_cons {node inner : Node} {name : Name} {rest : Location}
    (there : node.at? (name :: rest) = some inner) :
    ∃ entries next, node = directory entries ∧ entries.lookup name = some next ∧
      next.at? rest = some inner := by
  cases node with
  | file | link => cases there
  | directory entries =>
    rw [at?_cons] at there
    obtain ⟨next, found, there⟩ := Option.bind_eq_some_iff.mp there
    exact ⟨entries, next, rfl, found, there⟩

theorem at?_append (node : Node) (first rest : Location) :
    node.at? (first ++ rest) = (node.at? first).bind (·.at? rest) := by
  induction first generalizing node with
  | nil => rw [at?_nil]; rfl
  | cons name first ih =>
    cases node with
    | file | link => rfl
    | directory entries =>
      rw [List.cons_append, at?_cons, at?_cons]
      cases entries.lookup name with
      | none => rfl
      | some inner => exact ih inner

theorem at?_concat {node : Node} {location : Location} {entries : Entries}
    (there : node.at? location = some (directory entries)) (name : Name) :
    node.at? (location ++ [name]) = entries.lookup name := by
  rw [at?_append, there, Option.bind_some, at?_cons]
  cases entries.lookup name with
  | none => rfl
  | some inner => exact inner.at?_nil

/-- What stands around a node is a directory with an entry for it. -/
theorem exists_around {node inner : Node} {location : Location} {name : Name}
    (there : node.at? (location ++ [name]) = some inner) :
    ∃ entries, node.at? location = some (directory entries) ∧ entries.lookup name = some inner := by
  rw [at?_append] at there
  obtain ⟨around, found, inside⟩ := Option.bind_eq_some_iff.mp there
  obtain ⟨entries, next, rfl, entry, same⟩ := exists_of_at?_cons inside
  rw [at?_nil] at same
  exact ⟨entries, found, entry.trans same⟩

/-! ## Setting a node -/

theorem put_cons (new : Node) (name : Name) (rest : Location) (entries : Entries) :
    put new (name :: rest) (directory entries) =
      directory (entries.put name (put new rest ((entries.lookup name).getD (directory [])))) := by
  rw [put]

/-- A directory stays one when a node is set in it. -/
theorem exists_put_directory (new : Node) (rest : Location) (name : Name) (entries : Entries) :
    ∃ others, put new (rest ++ [name]) (directory entries) = directory others := by
  cases rest <;> exact ⟨_, put_cons ..⟩

/-- What is at a location after a node has been set in a directory: a part of that node, or what was
there before, or a directory around the new node, which has been set in it. -/
theorem at?_put (new : Node) (name : Name) {node : Node} {around : Location} {entries : Entries}
    (there : node.at? around = some (directory entries)) (location : Location) :
    (∃ rest, location = around ++ name :: rest ∧
      (put new (around ++ [name]) node).at? location = new.at? rest) ∨
    (put new (around ++ [name]) node).at? location = node.at? location ∨
    (∃ rest old, around = location ++ rest ∧ node.at? location = some (directory old) ∧
      (put new (around ++ [name]) node).at? location =
        some (put new (rest ++ [name]) (directory old))) := by
  induction around generalizing node location with
  | nil =>
    rw [at?_nil] at there
    obtain rfl := Option.some.inj there
    cases location with
    | nil => exact .inr (.inr ⟨[], entries, rfl, at?_nil _, at?_nil _⟩)
    | cons first rest =>
      rw [List.nil_append, put_cons, put, at?_cons, at?_cons, Entries.lookup_put]
      by_cases same : first = name
      · rw [if_pos same, same]
        exact .inl ⟨rest, rfl, rfl⟩
      · rw [if_neg same]
        exact .inr (.inl rfl)
  | cons outer around ih =>
    obtain ⟨whole, inner, rfl, found, inside⟩ := exists_of_at?_cons there
    cases location with
    | nil => exact .inr (.inr ⟨outer :: around, whole, rfl, at?_nil _, at?_nil _⟩)
    | cons first rest =>
      rw [List.cons_append, put_cons, found, Option.getD_some, at?_cons, at?_cons,
        Entries.lookup_put]
      by_cases same : first = outer
      · subst same
        rw [if_pos rfl, found, Option.bind_some, Option.bind_some]
        rcases ih inside rest with ⟨rest, rfl, set⟩ | kept | ⟨rest, old, rfl, was, set⟩
        · exact .inl ⟨rest, rfl, set⟩
        · exact .inr (.inl kept)
        · exact .inr (.inr ⟨rest, old, rfl, was, set⟩)
      · rw [if_neg same]
        exact .inr (.inl rfl)

/-- What is set below a location is set in what is there. -/
theorem at?_put_append {node inner : Node} {first : Location} (there : node.at? first = some inner)
    (new : Node) (rest : Location) :
    (put new (first ++ rest) node).at? first = some (put new rest inner) := by
  induction first generalizing node with
  | nil =>
    rw [at?_nil] at there
    rw [List.nil_append, at?_nil, Option.some.inj there]
  | cons name first ih =>
    obtain ⟨entries, next, rfl, found, there⟩ := exists_of_at?_cons there
    rw [List.cons_append, put_cons, found, Option.getD_some, at?_cons, Entries.lookup_put,
      if_pos rfl, Option.bind_some]
    exact ih there

/-! ## Setting a leaf -/

/-- Nothing is below a node. -/
def Leaf (node : Node) : Prop :=
  ∀ name rest, node.at? (name :: rest) = none

theorem leaf_file (content : Bytes) : (file content).Leaf := fun _ _ => rfl

theorem leaf_empty : (directory []).Leaf := fun _ _ => rfl

/-- There is room for a node in a directory: its name is free, or that of a file. -/
def HasRoom (top : Node) (around : Location) (name : Name) : Prop :=
  ∃ entries, top.at? around = some (directory entries) ∧
    ∀ node, entries.lookup name = some node → ∃ content, node = file content

section

variable {top new : Node} {around location : Location} {name : Name}

theorem HasRoom.of_absent {entries : Entries} (there : top.at? around = some (directory entries))
    (absent : entries.lookup name = none) : top.HasRoom around name :=
  ⟨entries, there, fun _ found => nomatch absent.symm.trans found⟩

/-- Where there is room for a node, there is nothing below. -/
theorem HasRoom.below (room : top.HasRoom around name) (next : Name) (rest : Location) :
    top.at? (around ++ name :: next :: rest) = none := by
  obtain ⟨entries, there, free⟩ := room
  rw [at?_append, there, Option.bind_some, at?_cons]
  cases found : entries.lookup name with
  | none => rfl
  | some node =>
    obtain ⟨content, rfl⟩ := free node found
    rfl

/-- Where there is room for a node, there is no directory. -/
theorem HasRoom.ne_directory (room : top.HasRoom around name) (rest : Location)
    (entries : Entries) : top.at? (around ++ name :: rest) ≠ some (directory entries) := by
  cases rest with
  | cons next rest => rw [room.below]; exact nofun
  | nil =>
    obtain ⟨inside, there, free⟩ := room
    rw [at?_concat there]
    intro found
    obtain ⟨content, same⟩ := free _ found
    cases same

/-- A directory stays one when a node is set where there is room for it. -/
theorem HasRoom.directory_put (room : top.HasRoom around name) {entries : Entries}
    (there : top.at? location = some (directory entries)) :
    ∃ entries', (put new (around ++ [name]) top).at? location = some (directory entries') := by
  obtain ⟨inside, there', -⟩ := id room
  rcases at?_put new name there' location with ⟨rest, rfl, -⟩ | kept | ⟨rest, old, -, -, set⟩
  · exact absurd there (room.ne_directory rest entries)
  · exact ⟨entries, kept.trans there⟩
  · obtain ⟨others, same⟩ := exists_put_directory new rest name old
    exact ⟨others, set.trans (congrArg some same)⟩

/-- Only one file can change when a leaf is set. -/
theorem HasRoom.file_put (room : top.HasRoom around name) (leaf : new.Leaf)
    (other : location ≠ around ++ [name]) (content : Bytes) :
    (put new (around ++ [name]) top).at? location = some (file content) ↔
      top.at? location = some (file content) := by
  obtain ⟨inside, there, free⟩ := room
  rcases at?_put new name there location with ⟨rest, rfl, set⟩ | kept | ⟨rest, old, -, was, set⟩
  · cases rest with
    | nil => exact absurd rfl other
    | cons next rest =>
      rw [set, leaf, HasRoom.below ⟨inside, there, free⟩]
  · rw [kept]
  · obtain ⟨others, same⟩ := exists_put_directory new rest name old
    rw [set, was, same]
    simp

/-- No file changes when an empty directory is set where there was nothing. -/
theorem file_put_empty {entries : Entries} (there : top.at? around = some (directory entries))
    (absent : entries.lookup name = none) (content : Bytes) :
    (put (directory []) (around ++ [name]) top).at? location = some (file content) ↔
      top.at? location = some (file content) := by
  by_cases other : location = around ++ [name]
  · subst other
    rw [at?_concat there, absent]
    rcases at?_put (directory []) name there (around ++ [name]) with
      ⟨rest, same, set⟩ | kept | ⟨rest, old, same, -⟩
    · obtain rfl := (List.cons.inj (List.append_cancel_left same)).2
      rw [set, at?_nil]
      simp
    · rw [kept, at?_concat there, absent]
    · simp at same
  · exact (HasRoom.of_absent there absent).file_put leaf_empty other content

end

/-! ## Plain trees -/

/-- A tree of files and directories, without links. Each directory has ordinary names, in ascending
order. -/
inductive Plain : Node → Prop
  | file (content : Bytes) : Plain (file content)
  | directory {entries : Entries} (ascending : entries.Ascending)
      (ordinary : ∀ entry ∈ entries, Name.Ordinary entry.1)
      (inside : ∀ entry ∈ entries, Plain entry.2) : Plain (directory entries)

namespace Plain

theorem empty : Plain (Node.directory []) :=
  .directory .nil (List.forall_mem_nil _) (List.forall_mem_nil _)

theorem single {name : Name} (ordinary : name.Ordinary) {node : Node} (plain : Plain node) :
    Plain (Node.directory [(name, node)]) :=
  .directory (List.pairwise_singleton _ _) (by simpa using ordinary) (by simpa using plain)

theorem ascending {entries : Entries} (plain : Plain (Node.directory entries)) :
    entries.Ascending := by
  cases plain with
  | directory ascending => exact ascending

theorem ordinary {entries : Entries} (plain : Plain (Node.directory entries))
    {entry : Name × Node} (among : entry ∈ entries) : Name.Ordinary entry.1 := by
  cases plain with
  | directory _ ordinary => exact ordinary entry among

theorem lookup {entries : Entries} {name : Name} {node : Node}
    (plain : Plain (Node.directory entries)) (found : entries.lookup name = some node) :
    Plain node := by
  cases plain with
  | directory _ _ inside => exact inside _ (Entries.mem_of_lookup found)

theorem at? {node inner : Node} {location : Location} (plain : Plain node)
    (there : node.at? location = some inner) : Plain inner := by
  induction location generalizing node with
  | nil =>
    rw [at?_nil] at there
    exact Option.some.inj there ▸ plain
  | cons name rest ih =>
    obtain ⟨entries, next, rfl, found, there⟩ := exists_of_at?_cons there
    exact ih (plain.lookup found) there

/-- In a plain tree only ordinary names lead to a node. -/
theorem ordinary_of_at? {node inner : Node} {location : Location} (plain : Plain node)
    (there : node.at? location = some inner) : ∀ name ∈ location, Name.Ordinary name := by
  induction location generalizing node with
  | nil => exact List.forall_mem_nil _
  | cons name rest ih =>
    obtain ⟨entries, next, rfl, found, there⟩ := exists_of_at?_cons there
    exact List.forall_mem_cons.mpr
      ⟨plain.ordinary (Entries.mem_of_lookup found), ih (plain.lookup found) there⟩

theorem put_entry {entries : Entries} (plain : Plain (Node.directory entries)) {name : Name}
    (ordinary : Name.Ordinary name) {node : Node} (new : Plain node) :
    Plain (Node.directory (entries.put name node)) := by
  refine .directory (Entries.ascending_put plain.ascending name node) ?_ ?_
  · intro entry among
    rcases Entries.mem_put plain.ascending among with rfl | among
    · exact ordinary
    · exact plain.ordinary among
  · intro entry among
    rcases Entries.mem_put plain.ascending among with rfl | among
    · exact new
    · cases plain with
      | directory _ _ inside => exact inside entry among

/-- A plain tree stays plain when a plain one is set in a directory under an ordinary name. -/
theorem put {node new : Node} {around : Location} {entries : Entries} {name : Name}
    (plain : Plain node) (there : node.at? around = some (Node.directory entries))
    (ordinary : Name.Ordinary name) (plain' : Plain new) :
    Plain (new.put (around ++ [name]) node) := by
  induction around generalizing node with
  | nil =>
    rw [at?_nil] at there
    obtain rfl := Option.some.inj there
    rw [List.nil_append, put_cons, Node.put]
    exact plain.put_entry ordinary plain'
  | cons outer around ih =>
    obtain ⟨whole, inner, rfl, found, inside⟩ := exists_of_at?_cons there
    rw [List.cons_append, put_cons, found, Option.getD_some]
    exact plain.put_entry (plain.ordinary (Entries.mem_of_lookup found))
      (ih (plain.lookup found) inside)

end Plain

end Node

end BattleAdvisor
