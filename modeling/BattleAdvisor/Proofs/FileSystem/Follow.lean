import BattleAdvisor.Proofs.FileSystem.Path

/-!
# Following paths

A path that leads to a node through all links leads to a node also when a link at its end is not
followed (`FileSystem.exists_linkStat`).

In a plain tree there are no links to follow, and following is the relation `Node.Leads` on the
pieces of a path (`FileSystem.stat_iff_leads`). What is found below a directory is what the tree has
there, as far as the names and the path are not too long (`FileSystem.stat_below`).
-/

namespace BattleAdvisor

/-! ## Links at the end of a path -/

theorem exists_followFrom_unfollowed {top : Node}
    {after after' : Location → List Name → Except Fault Place}
    (later : ∀ start pieces location, after start pieces = .ok (.found location) →
      (top.at? location).isSome → ∃ location', after' start pieces = .ok (.found location') ∧
        (top.at? location').isSome)
    {start location : Location} {pieces : List Name}
    (leads : followFrom top true after start pieces = .ok (.found location))
    (there : (top.at? location).isSome) :
    ∃ location', followFrom top false after' start pieces = .ok (.found location') ∧
      (top.at? location').isSome := by
  induction pieces generalizing start with
  | nil =>
    rw [followFrom] at leads
    cases leads
    exact ⟨location, by rw [followFrom], there⟩
  | cons piece rest ih =>
    rw [followFrom] at leads ⊢
    split at leads
    next entries inside =>
      by_cases idle : piece = Path.here
      · rw [if_pos idle] at leads ⊢
        exact ih leads
      rw [if_neg idle] at leads ⊢
      by_cases up : piece = Path.above
      · rw [if_pos up] at leads ⊢
        exact ih leads
      rw [if_neg up] at leads ⊢
      by_cases long : nameLimit < piece.length
      · rw [if_pos long] at leads
        cases leads
      rw [if_neg long] at leads ⊢
      have entry := Node.at?_concat inside piece
      split at leads
      · split at leads <;> cases leads
      next target found =>
        rw [if_neg (by simp)] at leads
        by_cases last : rest = []
        · rw [if_pos ⟨last, rfl⟩]
          exact ⟨_, rfl, by rw [entry, found]; rfl⟩
        · rw [if_neg fun h => last h.1]
          exact later _ _ _ leads there
      next => exact ih leads
    next => cases leads

theorem exists_follow_unfollowed {top : Node} {links : Nat} {start location : Location}
    {pieces : List Name} (leads : follow top true links start pieces = .ok (.found location))
    (there : (top.at? location).isSome) :
    ∃ location', follow top false links start pieces = .ok (.found location') ∧
      (top.at? location').isSome := by
  induction links generalizing start pieces location with
  | zero =>
    refine exists_followFrom_unfollowed (fun _ _ _ stuck _ => ?_) leads there
    cases stuck
  | succ links ih =>
    exact exists_followFrom_unfollowed (fun _ _ _ leads there => ih leads there) leads there

namespace FileSystem

variable {fs : FileSystem}

theorem find_eq_ok {followLast : Bool} {p : Path} {location : Location} {node : Node} :
    fs.find followLast p = .ok (location, node) ↔
      checkPath p = .ok () ∧
      follow fs.top followLast linkLimit (fs.origin p) p.steps = .ok (.found location) ∧
      fs.top.at? location = some node := by
  unfold find place
  cases checkPath p with
  | error fault => simp
  | ok _ =>
    simp only [true_and]
    cases follow fs.top followLast linkLimit (fs.origin p) p.steps with
    | error fault => simp
    | ok place =>
      cases place with
      | vacant => simp
      | found found =>
        simp only [Except.ok.injEq, Place.found.injEq]
        constructor
        · intro leads
          split at leads
          next node' there =>
            cases leads
            exact ⟨rfl, there⟩
          next => cases leads
        · rintro ⟨rfl, there⟩
          rw [there]

theorem stat_eq_ok {p : Path} {node : Node} :
    fs.stat p = .ok node ↔ ∃ location, fs.find true p = .ok (location, node) := by
  unfold stat
  cases fs.find true p with
  | error fault => simp [Except.map]
  | ok found => obtain ⟨location, node'⟩ := found; simp [Except.map]

/-- A path that leads to a node is not too long. -/
theorem length_le_of_stat {p : Path} {node : Node} (leads : fs.stat p = .ok node) :
    p.bytes.length ≤ pathLimit := by
  obtain ⟨location, found⟩ := stat_eq_ok.mp leads
  obtain ⟨checked, -⟩ := find_eq_ok.mp found
  refine Nat.not_lt.mp fun long => ?_
  unfold checkPath at checked
  simp only [long, if_true] at checked
  split at checked
  · cases checked
  · split at checked <;> cases checked

theorem isFile_of_long {p : Path} (long : pathLimit < p.bytes.length) : fs.isFile p = false := by
  unfold isFile
  split
  next content leads => exact absurd (length_le_of_stat leads) (Nat.not_le.mpr long)
  next => rfl

/-- A path that leads to a node leads to one also when a link at its end is not followed. -/
theorem exists_linkStat {p : Path} {node : Node} (leads : fs.stat p = .ok node) :
    ∃ node', fs.linkStat p = .ok node' := by
  obtain ⟨location, found⟩ := stat_eq_ok.mp leads
  obtain ⟨checked, followed, there⟩ := find_eq_ok.mp found
  obtain ⟨location', followed', there'⟩ :=
    exists_follow_unfollowed followed (by rw [there]; rfl)
  obtain ⟨node', there'⟩ := Option.isSome_iff_exists.mp there'
  have found' : fs.find false p = .ok (location', node') :=
    find_eq_ok.mpr ⟨checked, followed', there'⟩
  exact ⟨node', by rw [linkStat, found']; rfl⟩

end FileSystem

/-! ## Following without links -/

/-- Where pieces lead from a location in a tree without links. -/
inductive Node.Leads (top : Node) : Location → List Name → Place → Prop
  | arrived (location : Location) : Node.Leads top location [] (.found location)
  | here {location : Location} {entries : Entries} {rest : List Name} {place : Place}
      (inside : top.at? location = some (.directory entries))
      (leads : Node.Leads top location rest place) :
      Node.Leads top location (Path.here :: rest) place
  | above {location : Location} {entries : Entries} {rest : List Name} {place : Place}
      (inside : top.at? location = some (.directory entries))
      (leads : Node.Leads top location.dropLast rest place) :
      Node.Leads top location (Path.above :: rest) place
  | entered {location : Location} {entries : Entries} {name : Name} {node : Node}
      {rest : List Name} {place : Place} (inside : top.at? location = some (.directory entries))
      (ne_here : name ≠ Path.here) (ne_above : name ≠ Path.above)
      (short : name.length ≤ nameLimit) (found : entries.lookup name = some node)
      (leads : Node.Leads top (location ++ [name]) rest place) :
      Node.Leads top location (name :: rest) place
  | vacant {location : Location} {entries : Entries} {name : Name}
      (inside : top.at? location = some (.directory entries))
      (ne_here : name ≠ Path.here) (ne_above : name ≠ Path.above)
      (short : name.length ≤ nameLimit) (absent : entries.lookup name = none) :
      Node.Leads top location [name] (.vacant location name)

section

variable {top : Node} {followLast : Bool} {after : Location → List Name → Except Fault Place}
  {location : Location} {entries : Entries} {rest : List Name}

theorem followFrom_here (inside : top.at? location = some (.directory entries)) :
    followFrom top followLast after location (Path.here :: rest) =
      followFrom top followLast after location rest := by
  rw [followFrom, inside]
  dsimp only
  rw [if_pos rfl]

theorem followFrom_above (inside : top.at? location = some (.directory entries)) :
    followFrom top followLast after location (Path.above :: rest) =
      followFrom top followLast after location.dropLast rest := by
  rw [followFrom, inside]
  dsimp only
  rw [if_neg (by decide), if_pos rfl]

/-- In a tree without links an entry is entered, whatever it is. -/
theorem followFrom_entered (plain : top.Plain) {name : Name} {node : Node}
    (inside : top.at? location = some (.directory entries)) (ne_here : name ≠ Path.here)
    (ne_above : name ≠ Path.above) (short : name.length ≤ nameLimit)
    (found : entries.lookup name = some node) :
    followFrom top followLast after location (name :: rest) =
      followFrom top followLast after (location ++ [name]) rest := by
  rw [followFrom, inside]
  dsimp only
  rw [if_neg ne_here, if_neg ne_above, if_neg (Nat.not_lt.mpr short), found]
  cases node with
  | file | directory => rfl
  | link => cases (plain.at? inside).lookup found

theorem leads_of_followFrom (plain : top.Plain) {pieces : List Name} {place : Place}
    (leads : followFrom top followLast after location pieces = .ok place) :
    top.Leads location pieces place := by
  induction pieces generalizing location with
  | nil =>
    rw [followFrom] at leads
    cases leads
    exact .arrived location
  | cons piece rest ih =>
    cases around : top.at? location with
    | none =>
      rw [followFrom, around] at leads
      cases leads
    | some node =>
      cases node with
      | file | link =>
        rw [followFrom, around] at leads
        cases leads
      | directory entries =>
        by_cases idle : piece = Path.here
        · subst idle
          rw [followFrom_here around] at leads
          exact .here around (ih leads)
        by_cases up : piece = Path.above
        · subst up
          rw [followFrom_above around] at leads
          exact .above around (ih leads)
        by_cases short : piece.length ≤ nameLimit
        · cases found : entries.lookup piece with
          | some node =>
            rw [followFrom_entered plain around idle up short found] at leads
            exact .entered around idle up short found (ih leads)
          | none =>
            rw [followFrom, around] at leads
            dsimp only at leads
            rw [if_neg idle, if_neg up, if_neg (Nat.not_lt.mpr short), found] at leads
            dsimp only at leads
            by_cases last : rest = []
            · rw [if_pos last] at leads
              cases leads
              exact last ▸ .vacant around idle up short found
            · rw [if_neg last] at leads
              cases leads
        · rw [followFrom, around] at leads
          dsimp only at leads
          rw [if_neg idle, if_neg up, if_pos (Nat.lt_of_not_le short)] at leads
          cases leads

/-- Behind pieces that lead somewhere, following goes on from there. -/
theorem followFrom_append (plain : top.Plain) {start : Location} {pieces : List Name}
    (leads : top.Leads start pieces (.found location)) :
    followFrom top followLast after start (pieces ++ rest) =
      followFrom top followLast after location rest := by
  generalize arrived : Place.found location = place at leads
  induction leads with
  | arrived => cases arrived; rfl
  | here inside _ ih => rw [List.cons_append, followFrom_here inside, ih arrived]
  | above inside _ ih => rw [List.cons_append, followFrom_above inside, ih arrived]
  | entered inside ne_here ne_above short found _ ih =>
    rw [List.cons_append, followFrom_entered plain inside ne_here ne_above short found, ih arrived]
  | vacant => cases arrived

variable (followLast after) in
theorem followFrom_eq_ok (plain : top.Plain) {pieces : List Name} {place : Place} :
    followFrom top followLast after location pieces = .ok place ↔
      top.Leads location pieces place := by
  refine ⟨leads_of_followFrom plain, fun leads => ?_⟩
  induction leads with
  | arrived => rw [followFrom]
  | here inside _ ih => rw [followFrom_here inside, ih]
  | above inside _ ih => rw [followFrom_above inside, ih]
  | entered inside ne_here ne_above short found _ ih =>
    rw [followFrom_entered plain inside ne_here ne_above short found, ih]
  | vacant inside ne_here ne_above short absent =>
    rw [followFrom, inside]
    dsimp only
    rw [if_neg ne_here, if_neg ne_above, if_neg (Nat.not_lt.mpr short), absent]
    rfl

end

theorem follow_eq_ok {top : Node} (plain : top.Plain) {followLast : Bool} {links : Nat}
    {start : Location} {pieces : List Name} {place : Place} :
    follow top followLast links start pieces = .ok place ↔ top.Leads start pieces place := by
  cases links <;> exact followFrom_eq_ok _ _ plain

namespace Node.Leads

variable {top : Node} {start location : Location} {pieces rest : List Name} {place : Place}

theorem append_iff (plain : top.Plain) (leads : top.Leads start pieces (.found location)) :
    top.Leads start (pieces ++ rest) place ↔ top.Leads location rest place := by
  have stuck : Location → List Name → Except Fault Place := fun _ _ => .error .tooManyLinks
  rw [← followFrom_eq_ok true stuck plain, ← followFrom_eq_ok true stuck plain,
    followFrom_append plain leads]

theorem append (plain : top.Plain) (leads : top.Leads start pieces (.found location))
    (leads' : top.Leads location rest place) : top.Leads start (pieces ++ rest) place :=
  (append_iff plain leads).mpr leads'

theorem unique (plain : top.Plain) {location' : Location}
    (leads : top.Leads start pieces (.found location))
    (leads' : top.Leads start pieces (.found location')) : location = location' := by
  rw [← List.append_nil pieces, append_iff plain leads] at leads'
  cases leads'
  rfl

/-- Before pieces lead somewhere, the first of them do. -/
theorem split {piece : Name} (leads : top.Leads start (pieces ++ piece :: rest) place) :
    ∃ middle, top.Leads start pieces (.found middle) ∧ top.Leads middle (piece :: rest) place := by
  induction pieces generalizing start with
  | nil => exact ⟨start, .arrived start, leads⟩
  | cons first pieces ih =>
    obtain ⟨whole, same⟩ : ∃ whole, whole = pieces ++ piece :: rest := ⟨_, rfl⟩
    rw [List.cons_append, ← same] at leads
    cases leads with
    | here inside leads =>
      obtain ⟨middle, leads, after⟩ := ih (same ▸ leads)
      exact ⟨middle, .here inside leads, after⟩
    | above inside leads =>
      obtain ⟨middle, leads, after⟩ := ih (same ▸ leads)
      exact ⟨middle, .above inside leads, after⟩
    | entered inside ne_here ne_above short found leads =>
      obtain ⟨middle, leads, after⟩ := ih (same ▸ leads)
      exact ⟨middle, .entered inside ne_here ne_above short found leads, after⟩
    | vacant => simp at same

/-- Pieces that lead to a directory start in one. -/
theorem exists_start {entries : Entries} (leads : top.Leads start pieces (.found location))
    (there : top.at? location = some (.directory entries)) :
    ∃ entries, top.at? start = some (.directory entries) := by
  cases leads with
  | arrived => exact ⟨entries, there⟩
  | here inside | above inside | entered inside => exact ⟨_, inside⟩

/-- Pieces that lead to a directory lead there also in a tree that has the directories of the first
one. -/
theorem mono {top' : Node} {entries : Entries}
    (grown : ∀ location entries, top.at? location = some (.directory entries) →
      ∃ entries', top'.at? location = some (.directory entries'))
    (leads : top.Leads start pieces (.found location))
    (there : top.at? location = some (.directory entries)) :
    top'.Leads start pieces (.found location) := by
  generalize arrived : Place.found location = place at leads
  induction leads with
  | arrived => exact .arrived _
  | here inside _ ih =>
    obtain ⟨entries', inside'⟩ := grown _ _ inside
    exact .here inside' (ih arrived)
  | above inside _ ih =>
    obtain ⟨entries', inside'⟩ := grown _ _ inside
    exact .above inside' (ih arrived)
  | @entered start _ name _ _ _ inside ne_here ne_above short _ leads ih =>
    subst arrived
    obtain ⟨entries', inside'⟩ := grown _ _ inside
    obtain ⟨next, there⟩ := leads.exists_start there
    obtain ⟨next', there'⟩ := grown _ _ there
    have found' := (Node.at?_concat inside' name).symm.trans there'
    exact .entered inside' ne_here ne_above short found' (ih rfl)
  | vacant => cases arrived

/-- Names lead to a node that is there, as far as they are not too long. -/
theorem names_iff {names : List Name} (ordinary : ∀ name ∈ names, name.Ordinary) {node : Node} :
    (∃ location, top.Leads start names (.found location) ∧ top.at? location = some node) ↔
      (∀ name ∈ names, name.length ≤ nameLimit) ∧ top.at? (start ++ names) = some node := by
  induction names generalizing start with
  | nil =>
    rw [List.append_nil]
    constructor
    · rintro ⟨location, leads, there⟩
      cases leads
      exact ⟨List.forall_mem_nil _, there⟩
    · rintro ⟨-, there⟩
      exact ⟨start, .arrived start, there⟩
  | cons name names ih =>
    obtain ⟨first, others⟩ := List.forall_mem_cons.mp ordinary
    have along : start ++ name :: names = (start ++ [name]) ++ names := by simp
    rw [along, List.forall_mem_cons]
    constructor
    · rintro ⟨location, leads, there⟩
      cases leads with
      | here => exact absurd rfl first.ne_here
      | above => exact absurd rfl first.ne_above
      | entered inside _ _ short found leads =>
        obtain ⟨shorts, there⟩ := (ih others).mp ⟨location, leads, there⟩
        exact ⟨⟨short, shorts⟩, there⟩
    · rintro ⟨⟨short, shorts⟩, there⟩
      obtain ⟨location, leads, arrived⟩ := (ih others).mpr ⟨shorts, there⟩
      rw [Node.at?_append] at there
      obtain ⟨next, entry, -⟩ := Option.bind_eq_some_iff.mp there
      obtain ⟨entries, inside, found⟩ := Node.exists_around entry
      exact ⟨location, .entered inside first.ne_here first.ne_above short found leads, arrived⟩

/-- A place without a node is in a directory, under the last piece. -/
theorem vacant_last {directory : Location} {name : Name}
    (leads : top.Leads start pieces (.vacant directory name)) :
    name ≠ Path.here ∧ name ≠ Path.above ∧ pieces.getLast? = some name ∧
      ∃ entries, top.at? directory = some (.directory entries) ∧ entries.lookup name = none := by
  generalize arrived : Place.vacant directory name = place at leads
  have later {piece : Name} {rest : List Name} (last : rest.getLast? = some name) :
      (piece :: rest).getLast? = some name := by
    rw [List.getLast?_cons, last]
    rfl
  induction leads with
  | arrived => cases arrived
  | here _ _ ih | above _ _ ih | entered _ _ _ _ _ _ ih =>
    obtain ⟨ne_here, ne_above, last, rest⟩ := ih arrived
    exact ⟨ne_here, ne_above, later last, rest⟩
  | vacant inside ne_here ne_above _ absent =>
    cases arrived
    exact ⟨ne_here, ne_above, rfl, _, inside, absent⟩

/-- Pieces of which the last is a name lead to a node of that name. -/
theorem found_last {name : Name} (ne_here : name ≠ Path.here) (ne_above : name ≠ Path.above)
    (leads : top.Leads start pieces (.found location)) (last : pieces.getLast? = some name) :
    ∃ around, location = around ++ [name] := by
  generalize arrived : Place.found location = place at leads
  have later {piece : Name} {rest : List Name} (last : (piece :: rest).getLast? = some name)
      (ne : piece ≠ name) : rest.getLast? = some name := by
    cases rest with
    | nil => exact absurd (Option.some.inj last) ne
    | cons => exact last
  induction leads with
  | arrived | vacant => cases last <;> cases arrived
  | here _ _ ih => exact ih (later last ne_here.symm) arrived
  | above _ _ ih => exact ih (later last ne_above.symm) arrived
  | @entered start _ first _ rest _ _ _ _ _ _ leads ih =>
    subst arrived
    cases rest with
    | nil =>
      cases leads
      exact ⟨start, congrArg (start ++ [·]) (Option.some.inj last)⟩
    | cons => exact ih last rfl

end Node.Leads

/-! ## Paths below a directory -/

namespace FileSystem

variable {fs : FileSystem}

theorem place_eq_ok (plain : fs.top.Plain) {followLast : Bool} {p : Path} {pieces : List Name}
    {place : Place} :
    fs.place followLast p pieces = .ok place ↔
      checkPath p = .ok () ∧ fs.top.Leads (fs.origin p) pieces place := by
  unfold FileSystem.place
  cases checkPath p with
  | error fault => simp
  | ok _ => simpa using follow_eq_ok plain

theorem stat_iff_leads (plain : fs.top.Plain) {p : Path} {node : Node} :
    fs.stat p = .ok node ↔ checkPath p = .ok () ∧
      ∃ location, fs.top.Leads (fs.origin p) p.steps (.found location) ∧
        fs.top.at? location = some node := by
  rw [stat_eq_ok]
  simp only [find_eq_ok, follow_eq_ok plain, exists_and_left]

/-- A path leads to the directory at a location. -/
structure DirectoryAt (fs : FileSystem) (dir : Path) (location : Location) : Prop where
  checked : checkPath dir = .ok ()
  leads : fs.top.Leads (fs.origin dir) dir.names (.found location)
  there : ∃ entries, fs.top.at? location = some (.directory entries)

theorem DirectoryAt.given {dir : Path} {location : Location} (at' : fs.DirectoryAt dir location) :
    dir.bytes ≠ [] := by
  intro empty
  have checked := at'.checked
  simp [checkPath, empty] at checked

theorem DirectoryAt.leads_steps (plain : fs.top.Plain) {dir : Path} {location : Location}
    (at' : fs.DirectoryAt dir location) :
    fs.top.Leads (fs.origin dir) dir.steps (.found location) := by
  obtain ⟨entries, there⟩ := at'.there
  rw [Path.steps_eq]
  refine at'.leads.append plain ?_
  split
  · exact .here there (.arrived location)
  · exact .arrived location

theorem exists_directoryAt (plain : fs.top.Plain) {dir : Path} (found : fs.isDirectory dir = true) :
    ∃ location, fs.DirectoryAt dir location := by
  unfold isDirectory at found
  split at found
  next entries leads =>
    obtain ⟨checked, location, leads, there⟩ := (stat_iff_leads plain).mp leads
    rw [Path.steps_eq] at leads
    by_cases ends : dir.endsInSlash = true
    · rw [if_pos ends] at leads
      obtain ⟨middle, leads, last⟩ := leads.split
      cases last with
      | here _ last =>
        cases last
        exact ⟨_, checked, leads, entries, there⟩
      | entered _ ne_here => exact absurd rfl ne_here
    · rw [if_neg ends, List.append_nil] at leads
      exact ⟨location, checked, leads, entries, there⟩
  next => cases found

theorem isFile_of_isDirectory {p : Path} (found : fs.isDirectory p = true) :
    fs.isFile p = false := by
  unfold isDirectory at found
  split at found
  next leads => rw [isFile, leads]
  next => cases found

theorem DirectoryAt.isDirectory (plain : fs.top.Plain) {dir : Path} {location : Location}
    (at' : fs.DirectoryAt dir location) : fs.isDirectory dir = true := by
  obtain ⟨entries, there⟩ := at'.there
  have leads : fs.stat dir = .ok (.directory entries) :=
    (stat_iff_leads plain).mpr ⟨at'.checked, location, at'.leads_steps plain, there⟩
  rw [FileSystem.isDirectory, leads]

/-- A directory stays where it is when a node is set where there is room for it. -/
theorem DirectoryAt.put {dir : Path} {location around : Location} {name : Name}
    (at' : fs.DirectoryAt dir location) (room : fs.top.HasRoom around name) (new : Node) :
    (fs.put (around ++ [name]) new).DirectoryAt dir location := by
  obtain ⟨entries, there⟩ := at'.there
  exact ⟨at'.checked, at'.leads.mono (fun _ _ => room.directory_put) there,
    room.directory_put there⟩

/-- A path that goes on by names leads to what the tree has there, as far as the path and the names
are not too long. -/
theorem stat_below (plain : fs.top.Plain) {dir : Path} {location : Location}
    (at' : fs.DirectoryAt dir location) {names : List Name}
    (ordinary : ∀ name ∈ names, name.Ordinary) {node : Node} :
    fs.stat (dir.below names) = .ok node ↔ checkPath (dir.below names) = .ok () ∧
      (∀ name ∈ names, name.length ≤ nameLimit) ∧ fs.top.at? (location ++ names) = some node := by
  have origin : fs.origin (dir.below names) = fs.origin dir := by
    rw [FileSystem.origin, Path.isAbsolute_below at'.given ordinary]
    rfl
  rw [stat_iff_leads plain, origin]
  refine and_congr_right fun _ => ?_
  by_cases further : names = []
  · subst further
    rw [Path.below_nil, List.append_nil]
    constructor
    · rintro ⟨location', leads, there'⟩
      rw [leads.unique plain (at'.leads_steps plain)] at there'
      exact ⟨List.forall_mem_nil _, there'⟩
    · rintro ⟨-, there'⟩
      exact ⟨location, at'.leads_steps plain, there'⟩
  · rw [Path.steps_below at'.given ordinary further]
    simp only [Node.Leads.append_iff plain at'.leads]
    exact Node.Leads.names_iff ordinary

end FileSystem

end BattleAdvisor
