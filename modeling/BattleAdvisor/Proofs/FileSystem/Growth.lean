import BattleAdvisor.Proofs.FileSystem.Links
import BattleAdvisor.Proofs.FileSystem.Noting
import BattleAdvisor.Proofs.FileSystem.Relative

/-!
# Trees that grow

Where nodes are only added, paths lead where they led before: `Node.Grown` says that nothing is
removed or becomes something else, and `Node.Resolves.grown` that this is enough, through links as
well. `Node.Misses` says where pieces end in a place where nothing is; when a node is set there,
they lead to it (`Node.Misses.resolves`).
-/

namespace BattleAdvisor

namespace Node

/-- Directories stay directories, files stay files, and links stay the same. -/
structure Grown (old new : Node) : Prop where
  directory : ∀ {location entries}, old.at? location = some (.directory entries) →
    ∃ entries', new.at? location = some (.directory entries')
  file : ∀ {location content}, old.at? location = some (.file content) →
    ∃ content', new.at? location = some (.file content')
  link : ∀ {location target}, old.at? location = some (.link target) →
    new.at? location = some (.link target)

namespace Grown

variable {first old new : Node} {location : Location} {entries : Entries} {name : Name}

theorem refl (node : Node) : node.Grown node where
  directory there := ⟨_, there⟩
  file there := ⟨_, there⟩
  link there := there

theorem trans (before : first.Grown old) (after : old.Grown new) : first.Grown new where
  directory there := by
    obtain ⟨_, there⟩ := before.directory there
    exact after.directory there
  file there := by
    obtain ⟨_, there⟩ := before.file there
    exact after.file there
  link there := after.link (before.link there)

/-- An entry that is no link is still there, and is none. -/
theorem entry (grown : old.Grown new) (inside : old.at? location = some (.directory entries))
    {node : Node} (found : entries.lookup name = some node) (real : ∀ target, node ≠ .link target) :
    ∃ entries' node', new.at? location = some (.directory entries') ∧
      entries'.lookup name = some node' ∧ ∀ target, node' ≠ .link target := by
  obtain ⟨entries', inside'⟩ := grown.directory inside
  have there : old.at? (location ++ [name]) = some node := (at?_concat inside name).trans found
  have kept := at?_concat inside' name
  cases node with
  | file content =>
    obtain ⟨content', there'⟩ := grown.file there
    exact ⟨entries', .file content', inside', kept.symm.trans there', by simp⟩
  | directory entries =>
    obtain ⟨inner, there'⟩ := grown.directory there
    exact ⟨entries', .directory inner, inside', kept.symm.trans there', by simp⟩
  | link target => exact absurd rfl (real target)

/-- A link is still there. -/
theorem entry_link (grown : old.Grown new) (inside : old.at? location = some (.directory entries))
    {target : Path} (found : entries.lookup name = some (.link target)) :
    ∃ entries', new.at? location = some (.directory entries') ∧
      entries'.lookup name = some (.link target) := by
  obtain ⟨entries', inside'⟩ := grown.directory inside
  have there' := grown.link ((at?_concat inside name).trans found)
  exact ⟨entries', inside', (at?_concat inside' name).symm.trans there'⟩

end Grown

/-- In a tree that has grown, pieces lead where they led before. -/
theorem Resolves.grown {old new : Node} (grown : old.Grown new) {start last : Location}
    {pieces : List Name} {links : Nat} (resolves : old.Resolves start pieces links last) :
    new.Resolves start pieces links last := by
  induction resolves with
  | arrived location => exact .arrived location
  | here inside _ ih =>
    obtain ⟨_, inside⟩ := grown.directory inside
    exact .here inside ih
  | above inside _ ih =>
    obtain ⟨_, inside⟩ := grown.directory inside
    exact .above inside ih
  | entered inside ne_here ne_above short found real _ ih =>
    obtain ⟨_, _, inside, found, real⟩ := grown.entry inside found real
    exact .entered inside ne_here ne_above short found real ih
  | linked inside ne_here ne_above short found _ ih =>
    obtain ⟨_, inside, found⟩ := grown.entry_link inside found
    exact .linked inside ne_here ne_above short found ih

/-! ## Vacant places -/

/-- Pieces lead, through so many links, to a directory without an entry of the last name. -/
inductive Misses (top : Node) : Location → List Name → (links : Nat) → Location → Name → Prop
  | vacant {location : Location} {entries : Entries} {name : Name}
      (inside : top.at? location = some (.directory entries)) (ne_here : name ≠ Path.here)
      (ne_above : name ≠ Path.above) (short : name.length ≤ nameLimit)
      (absent : entries.lookup name = none) : Misses top location [name] 0 location name
  | here {location around : Location} {entries : Entries} {rest : List Name} {links : Nat}
      {name : Name} (inside : top.at? location = some (.directory entries))
      (misses : Misses top location rest links around name) :
      Misses top location (Path.here :: rest) links around name
  | above {location around : Location} {entries : Entries} {rest : List Name} {links : Nat}
      {name : Name} (inside : top.at? location = some (.directory entries))
      (misses : Misses top location.dropLast rest links around name) :
      Misses top location (Path.above :: rest) links around name
  | entered {location around : Location} {entries : Entries} {piece : Name} {node : Node}
      {rest : List Name} {links : Nat} {name : Name}
      (inside : top.at? location = some (.directory entries)) (ne_here : piece ≠ Path.here)
      (ne_above : piece ≠ Path.above) (short : piece.length ≤ nameLimit)
      (found : entries.lookup piece = some node) (real : ∀ target, node ≠ .link target)
      (misses : Misses top (location ++ [piece]) rest links around name) :
      Misses top location (piece :: rest) links around name
  | linked {location around : Location} {entries : Entries} {piece : Name} {target : Path}
      {rest : List Name} {links : Nat} {name : Name}
      (inside : top.at? location = some (.directory entries)) (ne_here : piece ≠ Path.here)
      (ne_above : piece ≠ Path.above) (short : piece.length ≤ nameLimit)
      (found : entries.lookup piece = some (.link target))
      (misses : Misses top (if target.isAbsolute then [] else location) (target.steps ++ rest)
        links around name) :
      Misses top location (piece :: rest) (links + 1) around name

namespace Misses

variable {top : Node} {start around : Location} {pieces : List Name} {links : Nat} {name : Name}

/-- There is a directory around the place, and nothing in the place. -/
theorem absent (misses : top.Misses start pieces links around name) :
    ∃ entries, top.at? around = some (.directory entries) ∧ entries.lookup name = none := by
  induction misses with
  | vacant inside _ _ _ absent => exact ⟨_, inside, absent⟩
  | here _ _ ih | above _ _ ih | entered _ _ _ _ _ _ _ ih | linked _ _ _ _ _ _ ih => exact ih

/-- When a node has been set in the place, and nothing was removed, the pieces lead to it. -/
theorem resolves {new node : Node} (misses : top.Misses start pieces links around name)
    (grown : top.Grown new) (set : new.at? (around ++ [name]) = some node)
    (real : ∀ target, node ≠ .link target) :
    new.Resolves start pieces links (around ++ [name]) := by
  induction misses with
  | vacant inside ne_here ne_above short absent =>
    obtain ⟨_, inside⟩ := grown.directory inside
    have found := (at?_concat inside _).symm.trans set
    exact .entered inside ne_here ne_above short found real (.arrived _)
  | here inside _ ih =>
    obtain ⟨_, inside⟩ := grown.directory inside
    exact .here inside (ih set)
  | above inside _ ih =>
    obtain ⟨_, inside⟩ := grown.directory inside
    exact .above inside (ih set)
  | entered inside ne_here ne_above short found real' _ ih =>
    obtain ⟨_, _, inside, found, real'⟩ := grown.entry inside found real'
    exact .entered inside ne_here ne_above short found real' (ih set)
  | linked inside ne_here ne_above short found _ ih =>
    obtain ⟨_, inside, found⟩ := grown.entry_link inside found
    exact .linked inside ne_here ne_above short found (ih set)

end Misses

end Node

section

variable {top : Node} {followLast : Bool} {after : Location → List Name → Except Fault Place}
  {location around : Location} {name last : Name} {rest pieces : List Name}

theorem misses_of_followFrom {limit : Nat}
    (later : ∀ start pieces around last, after start pieces = .ok (.vacant around last) →
      ∃ links < limit, top.Misses start pieces links around last)
    (leads : followFrom top followLast after location pieces = .ok (.vacant around last)) :
    ∃ links ≤ limit, top.Misses location pieces links around last := by
  induction pieces generalizing location with
  | nil =>
    rw [followFrom] at leads
    cases leads
  | cons name rest ih =>
    rcases firstPiece_or_vacant leads with
      first | ⟨vacant, rfl, entries, inside, ne_here, ne_above, short, absent⟩
    · cases first with
      | here inside =>
        rw [followFrom_here inside] at leads
        obtain ⟨links, few, misses⟩ := ih leads
        exact ⟨links, few, .here inside misses⟩
      | above inside =>
        rw [followFrom_above inside] at leads
        obtain ⟨links, few, misses⟩ := ih leads
        exact ⟨links, few, .above inside misses⟩
      | real inside ne_here ne_above short found real =>
        rw [followFrom_real inside ne_here ne_above short found real] at leads
        obtain ⟨links, few, misses⟩ := ih leads
        exact ⟨links, few, .entered inside ne_here ne_above short found real misses⟩
      | link inside ne_here ne_above short found =>
        by_cases followed : rest = [] ∧ followLast = false
        · obtain ⟨rfl, rfl⟩ := followed
          rw [followFrom_unfollowed inside ne_here ne_above short found] at leads
          cases leads
        · rw [followFrom_linked inside ne_here ne_above short found followed] at leads
          obtain ⟨links, few, misses⟩ := later _ _ _ _ leads
          exact ⟨links + 1, few, .linked inside ne_here ne_above short found misses⟩
    · cases vacant
      exact ⟨0, Nat.zero_le _, .vacant inside ne_here ne_above short absent⟩

/-- Following that ends in a vacant place misses a node there. -/
theorem misses_of_follow {limit : Nat}
    (leads : follow top followLast limit location pieces = .ok (.vacant around last)) :
    ∃ links ≤ limit, top.Misses location pieces links around last := by
  induction limit generalizing location pieces around last with
  | zero =>
    refine misses_of_followFrom ?_ leads
    intro start pieces around last stuck
    cases stuck
  | succ limit ih =>
    refine misses_of_followFrom ?_ leads
    intro start pieces around last leads
    obtain ⟨links, few, misses⟩ := ih leads
    exact ⟨links, Nat.lt_succ_of_le few, misses⟩

end

/-! ## Setting a leaf -/

namespace Node

section

variable {top new : Node} {around location : Location} {name : Name} {entries : Entries}

theorem at?_put_self (there : top.at? around = some (directory entries)) (name : Name)
    (new : Node) :
    (put new (around ++ [name]) top).at? (around ++ [name]) = some new := by
  have set := at?_put_append there new [name]
  rw [put_cons] at set
  rw [at?_concat set, Entries.lookup_put, if_pos rfl, put]

/-- Beside a leaf that is set where there is room for it, nothing changes but what directories
list. -/
theorem HasRoom.beside (room : top.HasRoom around name) (leaf : new.Leaf)
    (other : location ≠ around ++ [name]) :
    (put new (around ++ [name]) top).at? location = top.at? location ∨
    ∃ before after, top.at? location = some (directory before) ∧
      (put new (around ++ [name]) top).at? location = some (directory after) := by
  obtain ⟨entries, there, -⟩ := id room
  rcases at?_put new name there location with ⟨rest, rfl, set⟩ | kept | ⟨rest, old, -, was, set⟩
  · cases rest with
    | nil => exact absurd rfl other
    | cons next rest => exact .inl (set.trans ((leaf next rest).trans (room.below next rest).symm))
  · exact .inl kept
  · obtain ⟨others, same⟩ := exists_put_directory new rest name old
    exact .inr ⟨old, others, was, set.trans (congrArg some same)⟩

/-- Nothing is added but the leaf. -/
theorem HasRoom.eq_of_added (room : top.HasRoom around name) (leaf : new.Leaf)
    (absent : top.at? location = none)
    (there : ((put new (around ++ [name]) top).at? location).isSome = true) :
    location = around ++ [name] := by
  by_cases other : location = around ++ [name]
  · exact other
  · rcases room.beside leaf other with kept | ⟨before, after, was, -⟩
    · rw [kept, absent] at there
      cases there
    · rw [absent] at was
      cases was

/-- No link is made or removed when another leaf is set where there is room for it. -/
theorem HasRoom.link_put (room : top.HasRoom around name) (leaf : new.Leaf)
    (real : ∀ target, new ≠ .link target) (target : Path) :
    (put new (around ++ [name]) top).at? location = some (.link target) ↔
      top.at? location = some (.link target) := by
  by_cases other : location = around ++ [name]
  · subst other
    obtain ⟨entries, there, free⟩ := room
    rw [at?_put_self there name new, at?_concat there]
    constructor
    · intro same
      exact absurd (Option.some.inj same) (real target)
    · intro found
      obtain ⟨content, same⟩ := free _ found
      cases same
  · rcases room.beside leaf other with kept | ⟨before, after, was, set⟩
    · rw [kept]
    · rw [was, set]
      simp

/-- A tree grows when a file is set where there is room for it. -/
theorem HasRoom.grown_file (room : top.HasRoom around name) (content : Bytes) :
    top.Grown (put (file content) (around ++ [name]) top) where
  directory there := room.directory_put there
  file {location _} there := by
    by_cases other : location = around ++ [name]
    · subst other
      obtain ⟨entries, inside, -⟩ := room
      exact ⟨content, at?_put_self inside name _⟩
    · exact ⟨_, (room.file_put (leaf_file content) other _).mpr there⟩
  link there := (room.link_put (leaf_file content) (by simp) _).mpr there

/-- A tree grows when an empty directory is set where there was nothing. -/
theorem grown_empty (there : top.at? around = some (directory entries))
    (absent : entries.lookup name = none) :
    top.Grown (put (directory []) (around ++ [name]) top) where
  directory := (HasRoom.of_absent there absent).directory_put
  file found := ⟨_, (file_put_empty there absent _).mpr found⟩
  link found := ((HasRoom.of_absent there absent).link_put leaf_empty (by simp) _).mpr found

end

end Node

namespace FileSystem

/-! ## What may change -/

/-- A file system changes in nothing but one file, if any, and directories that are made on the way
to a directory. -/
structure Confined (dir : Path) (target? : Option Location) (old new : FileSystem) : Prop where
  current : new.current = old.current
  /-- Nothing is removed, or becomes something else. -/
  grown : old.top.Grown new.top
  /-- All other files are the same. -/
  files : ∀ {location content}, some location ≠ target? →
    (new.top.at? location = some (.file content) ↔ old.top.at? location = some (.file content))
  links : ∀ {location target}, new.top.at? location = some (.link target) ↔
    old.top.at? location = some (.link target)
  /-- What is added besides the file is directories to which the first components of the path
  lead. -/
  added : ∀ {location}, some location ≠ target? → old.top.at? location = none →
    (new.top.at? location).isSome = true → ∃ front : Path, front.components <+: dir.components ∧
      ∃ entries, new.find true front = .ok (location, .directory entries)

variable {dir : Path} {target? : Option Location} {old new first fs : FileSystem} {p : Path}
  {location around : Location} {node node' : Node} {name : Name}

/-- What was found is found where it was. -/
theorem find_of_grown (current : new.current = old.current) (grown : old.top.Grown new.top)
    (found : old.find true p = .ok (location, node)) (there : new.top.at? location = some node') :
    new.find true p = .ok (location, node') := by
  obtain ⟨checked, leads, -⟩ := find_eq_ok.mp found
  obtain ⟨links, few, resolves⟩ := follow_eq_found.mp leads
  have origin : new.origin p = old.origin p := by
    rw [FileSystem.origin, FileSystem.origin, current]
  refine find_eq_ok.mpr ⟨checked, follow_eq_found.mpr ⟨links, few, ?_⟩, there⟩
  rw [origin]
  exact resolves.grown grown

namespace Confined

theorem refl (dir : Path) (fs : FileSystem) : Confined dir none fs fs where
  current := rfl
  grown := .refl _
  files _ := Iff.rfl
  links := Iff.rfl
  added _ absent there := by
    rw [absent] at there
    cases there

theorem trans (before : Confined dir none first old) (after : Confined dir target? old new) :
    Confined dir target? first new where
  current := after.current.trans before.current
  grown := before.grown.trans after.grown
  files other := (after.files other).trans (before.files (by simp))
  links := after.links.trans before.links
  added {location} other absent there := by
    cases between : old.top.at? location with
    | none => exact after.added other between there
    | some node =>
      obtain ⟨front, prefixed, entries, found⟩ :=
        before.added (by simp) absent (by rw [between, Option.isSome_some])
      obtain ⟨entries', there'⟩ := after.grown.directory (find_eq_ok.mp found).2.2
      exact ⟨front, prefixed, entries', find_of_grown after.current after.grown found there'⟩

end Confined

/-! ## Making directories -/

theorem makeDirectory_confined (made : fs.makeDirectory p = .ok new)
    (front : p.components <+: dir.components) : Confined dir none fs new := by
  unfold makeDirectory at made
  split at made
  next => cases made
  next => cases made
  next around name placed =>
    cases made
    obtain ⟨checked, leads⟩ : checkPath p = .ok () ∧
        follow fs.top false linkLimit (fs.origin p) p.names = .ok (.vacant around name) := by
      unfold place at placed
      split at placed
      · cases placed
      next checked => exact ⟨checked, placed⟩
    obtain ⟨links, few, misses⟩ := misses_of_follow leads
    obtain ⟨entries, inside, absent⟩ := misses.absent
    have room := Node.HasRoom.of_absent inside absent
    have set := Node.at?_put_self inside name (.directory [])
    have grown := Node.grown_empty inside absent
    refine ⟨rfl, grown, fun _ => Node.file_put_empty inside absent _,
      room.link_put Node.leaf_empty (by simp) _, ?_⟩
    intro location _ nothing there
    obtain rfl := room.eq_of_added Node.leaf_empty nothing there
    have resolves := misses.resolves grown set (by simp)
    -- A path that ends in a slash stays in the new directory.
    have stays : (Node.put (.directory []) (around ++ [name]) fs.top).Resolves (around ++ [name])
        (if p.endsInSlash then [Path.here] else []) 0 (around ++ [name]) := by
      split
      · exact .here set (.arrived _)
      · exact .arrived _
    exact ⟨p, front, [], find_eq_ok.mpr
      ⟨checked, follow_eq_found.mpr ⟨links, few, resolves.append stays⟩, set⟩⟩

/-- A directory may be made when those around it have been. -/
theorem Confined.makeDirectory (confined : Confined dir none first fs)
    (front : p.components <+: dir.components) :
    Confined dir none first (match fs.makeDirectory p with
      | .ok made => (Except.ok (), made)
      | .error fault => (if fs.isDirectory p then Except.ok () else .error fault, fs)).2 := by
  split
  next made => exact confined.trans (makeDirectory_confined made front)
  next => exact confined

theorem makeDirectoriesFrom_confined (depth : Nat) (p : Path) (fs : FileSystem)
    (front : p.components <+: dir.components) :
    Confined dir none fs (makeDirectoriesFrom depth p fs).2 := by
  induction depth generalizing p fs with
  | zero => exact .refl dir fs
  | succ depth ih =>
    rw [makeDirectoriesFrom]
    split
    · exact .refl dir fs
    split
    next made => exact makeDirectory_confined made front
    next =>
      cases around : p.parent? with
      | none => exact (Confined.refl dir fs).makeDirectory front
      | some outer =>
        -- What is made around the directory comes first.
        have confined := ih outer fs ((Path.components_parent? around).trans front)
        dsimp only
        generalize makeDirectoriesFrom depth outer fs = whole at confined ⊢
        obtain ⟨made, between⟩ := whole
        cases made with
        | error fault => exact confined
        | ok _ => exact confined.makeDirectory front
    next => exact .refl dir fs

theorem makeDirectories_confined (fs : FileSystem) (dir : Path) :
    Confined dir none fs (fs.makeDirectories dir).2 :=
  makeDirectoriesFrom_confined _ dir fs List.prefix_rfl

/-! ## Writing a file -/

/-- Writing a file that is found, or where nothing is, changes nothing else. -/
theorem put_file_confined (dir : Path) (room : fs.top.HasRoom around name) (content : Bytes) :
    Confined dir (some (around ++ [name])) fs (fs.put (around ++ [name]) (.file content)) where
  current := rfl
  grown := room.grown_file content
  files other := room.file_put (Node.leaf_file content) (fun same => other (congrArg some same)) _
  links := room.link_put (Node.leaf_file content) (by simp) _
  added other absent there :=
    absurd (congrArg some (room.eq_of_added (Node.leaf_file content) absent there)) other

/-- Where the pieces of a path lead to, the path leads. -/
theorem find_put_file {links : Nat} (checked : checkPath p = .ok ()) (ends : p.endsInSlash = false)
    (few : links ≤ linkLimit) (room : fs.top.HasRoom around name) {content : Bytes}
    (resolves : (fs.put (around ++ [name]) (.file content)).top.Resolves (fs.origin p) p.names links
      (around ++ [name])) :
    (fs.put (around ++ [name]) (.file content)).find true p =
      .ok (around ++ [name], .file content) := by
  obtain ⟨entries, inside, -⟩ := room
  have steps : p.steps = p.names := by
    rw [Path.steps_eq, ends, if_neg Bool.false_ne_true, List.append_nil]
  refine find_eq_ok.mpr ⟨checked, ?_, Node.at?_put_self inside name _⟩
  rw [steps]
  exact follow_eq_found.mpr ⟨links, few, resolves⟩

/-- A file to which pieces lead is in a directory: it is not the top of the tree. -/
theorem exists_around_file {top : Node} {start : Location} {pieces : List Name} {links : Nat}
    (further : pieces ≠ []) (resolves : top.Resolves start pieces links location) {content : Bytes}
    (there : top.at? location = some (.file content)) :
    ∃ around name, location = around ++ [name] := by
  obtain ⟨entries, inside⟩ : ∃ entries, top.at? start = some (.directory entries) := by
    cases resolves with
    | arrived => exact absurd rfl further
    | here inside | above inside | entered inside | linked inside => exact ⟨_, inside⟩
  rcases List.eq_nil_or_concat location with rfl | ⟨around, name, rfl⟩
  · rw [Node.at?_nil] at there
    obtain rfl := Option.some.inj there
    cases start <;> cases inside
  · exact ⟨around, name, List.concat_eq_append⟩

/-- A file is written where its path leads, or nothing changes. -/
theorem write_confined (fs : FileSystem) (dir : Path) (ends : p.endsInSlash = false)
    (further : p.names ≠ []) (content : Bytes) :
    (∃ fault, fs.write p content = .error fault) ∨
    ∃ location new, fs.write p content = .ok new ∧
      new.find true p = .ok (location, .file content) ∧ Confined dir (some location) fs new := by
  cases placed : fs.place true p p.names with
  | error fault => exact .inl ⟨fault, write_of_error ends placed content⟩
  | ok place =>
    have written := placed
    unfold FileSystem.place at placed
    cases checked : checkPath p with
    | error fault =>
      rw [checked] at placed
      cases placed
    | ok _ =>
      rw [checked] at placed
      dsimp only at placed
      cases place with
      | vacant around name =>
        obtain ⟨links, few, misses⟩ := misses_of_follow placed
        obtain ⟨entries, inside, absent⟩ := misses.absent
        have room := Node.HasRoom.of_absent inside absent
        refine .inr ⟨_, _, write_of_vacant ends written content, ?_,
          put_file_confined dir room content⟩
        exact find_put_file checked ends few room
          (misses.resolves (room.grown_file content) (Node.at?_put_self inside name _) (by simp))
      | found location =>
        by_cases file : ∃ old, fs.top.at? location = some (.file old)
        · obtain ⟨old, there⟩ := file
          obtain ⟨links, few, resolves⟩ := follow_eq_found.mp placed
          obtain ⟨around, name, rfl⟩ := exists_around_file further resolves there
          obtain ⟨entries, inside, found⟩ := Node.exists_around there
          have room : fs.top.HasRoom around name := ⟨entries, inside, by simp [found]⟩
          refine .inr ⟨_, _, write_of_file ends written there content, ?_,
            put_file_confined dir room content⟩
          exact find_put_file checked ends few room
            (resolves.grown (room.grown_file content))
        · exact .inl ⟨.isDirectory, write_of_other ends written (not_exists.mp file) content⟩

end FileSystem

end BattleAdvisor
