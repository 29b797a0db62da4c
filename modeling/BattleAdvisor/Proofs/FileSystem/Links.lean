import BattleAdvisor.Proofs.FileSystem.Walk

/-!
# Following links

`Node.Resolves` says where pieces lead through links, and how many links are met on the way. A loop
of links leads nowhere: it never comes to an end. `FileSystem.LeadsTo` says to what node a path
leads, as far as the system allows; it is what `FileSystem.stat` finds (`stat_eq_ok_iff`).

A walk starts with that node, also if the path itself is a link (`walk_eq_visitsAt`).
-/

namespace BattleAdvisor

/-- Where pieces lead from a location, through so many links. -/
inductive Node.Resolves (top : Node) : Location → List Name → (links : Nat) → Location → Prop
  | arrived (location : Location) : Node.Resolves top location [] 0 location
  | here {location last : Location} {entries : Entries} {rest : List Name} {links : Nat}
      (inside : top.at? location = some (.directory entries))
      (leads : Node.Resolves top location rest links last) :
      Node.Resolves top location (Path.here :: rest) links last
  | above {location last : Location} {entries : Entries} {rest : List Name} {links : Nat}
      (inside : top.at? location = some (.directory entries))
      (leads : Node.Resolves top location.dropLast rest links last) :
      Node.Resolves top location (Path.above :: rest) links last
  | entered {location last : Location} {entries : Entries} {name : Name} {node : Node}
      {rest : List Name} {links : Nat} (inside : top.at? location = some (.directory entries))
      (ne_here : name ≠ Path.here) (ne_above : name ≠ Path.above)
      (short : name.length ≤ nameLimit) (found : entries.lookup name = some node)
      (real : ∀ target, node ≠ .link target)
      (leads : Node.Resolves top (location ++ [name]) rest links last) :
      Node.Resolves top location (name :: rest) links last
  | linked {location last : Location} {entries : Entries} {name : Name} {target : Path}
      {rest : List Name} {links : Nat} (inside : top.at? location = some (.directory entries))
      (ne_here : name ≠ Path.here) (ne_above : name ≠ Path.above)
      (short : name.length ≤ nameLimit) (found : entries.lookup name = some (.link target))
      (leads : Node.Resolves top (if target.isAbsolute then [] else location)
        (target.steps ++ rest) links last) :
      Node.Resolves top location (name :: rest) (links + 1) last

section

variable {top : Node} {followLast : Bool} {after : Location → List Name → Except Fault Place}
  {location last : Location} {entries : Entries} {name : Name} {rest pieces : List Name}

/-! ## One piece -/

/-- An entry that is no link is entered. -/
theorem followFrom_real {node : Node} (inside : top.at? location = some (.directory entries))
    (ne_here : name ≠ Path.here) (ne_above : name ≠ Path.above)
    (short : name.length ≤ nameLimit) (found : entries.lookup name = some node)
    (real : ∀ target, node ≠ .link target) :
    followFrom top followLast after location (name :: rest) =
      followFrom top followLast after (location ++ [name]) rest := by
  rw [followFrom, inside]
  dsimp only
  rw [if_neg ne_here, if_neg ne_above, if_neg (Nat.not_lt.mpr short), found]
  cases node with
  | file | directory => rfl
  | link target => exact absurd rfl (real target)

/-- From a link in the middle, or one that is followed at the end, its target is followed, and then
the rest. -/
theorem followFrom_linked {target : Path} (inside : top.at? location = some (.directory entries))
    (ne_here : name ≠ Path.here) (ne_above : name ≠ Path.above)
    (short : name.length ≤ nameLimit) (found : entries.lookup name = some (.link target))
    (followed : ¬ (rest = [] ∧ followLast = false)) :
    followFrom top followLast after location (name :: rest) =
      after (if target.isAbsolute then [] else location) (target.steps ++ rest) := by
  rw [followFrom, inside]
  dsimp only
  rw [if_neg ne_here, if_neg ne_above, if_neg (Nat.not_lt.mpr short), found]
  dsimp only
  rw [if_neg followed]

/-- A link at the end that is not followed is what the path leads to. -/
theorem followFrom_unfollowed {target : Path}
    (inside : top.at? location = some (.directory entries)) (ne_here : name ≠ Path.here)
    (ne_above : name ≠ Path.above) (short : name.length ≤ nameLimit)
    (found : entries.lookup name = some (.link target)) :
    followFrom top false after location [name] = .ok (.found (location ++ [name])) := by
  rw [followFrom, inside]
  dsimp only
  rw [if_neg ne_here, if_neg ne_above, if_neg (Nat.not_lt.mpr short), found]
  simp

/-- What the first piece of a path that leads to a node can be. -/
inductive FirstPiece (top : Node) (location : Location) : Name → Prop
  | here {entries : Entries} (inside : top.at? location = some (.directory entries)) :
      FirstPiece top location Path.here
  | above {entries : Entries} (inside : top.at? location = some (.directory entries)) :
      FirstPiece top location Path.above
  | real {entries : Entries} {name : Name} {node : Node}
      (inside : top.at? location = some (.directory entries)) (ne_here : name ≠ Path.here)
      (ne_above : name ≠ Path.above) (short : name.length ≤ nameLimit)
      (found : entries.lookup name = some node) (real : ∀ target, node ≠ .link target) :
      FirstPiece top location name
  | link {entries : Entries} {name : Name} {target : Path}
      (inside : top.at? location = some (.directory entries)) (ne_here : name ≠ Path.here)
      (ne_above : name ≠ Path.above) (short : name.length ≤ nameLimit)
      (found : entries.lookup name = some (.link target)) : FirstPiece top location name

/-- The first piece of a path that leads somewhere is one of these, or the name of a vacant place.
-/
theorem firstPiece_or_vacant {place : Place}
    (leads : followFrom top followLast after location (name :: rest) = .ok place) :
    FirstPiece top location name ∨
      (place = .vacant location name ∧ rest = [] ∧ ∃ entries,
        top.at? location = some (.directory entries) ∧ name ≠ Path.here ∧ name ≠ Path.above ∧
        name.length ≤ nameLimit ∧ entries.lookup name = none) := by
  rw [followFrom] at leads
  split at leads
  next entries inside =>
    by_cases idle : name = Path.here
    · subst idle
      exact .inl (.here inside)
    by_cases up : name = Path.above
    · subst up
      exact .inl (.above inside)
    rw [if_neg idle, if_neg up] at leads
    by_cases long : nameLimit < name.length
    · rw [if_pos long] at leads
      cases leads
    rw [if_neg long] at leads
    have short : name.length ≤ nameLimit := Nat.le_of_not_lt long
    cases found : entries.lookup name with
    | none =>
      rw [found] at leads
      dsimp only at leads
      by_cases final : rest = []
      · rw [if_pos final] at leads
        cases leads
        exact .inr ⟨rfl, final, entries, inside, idle, up, short, found⟩
      · rw [if_neg final] at leads
        cases leads
    | some node =>
      cases node with
      | file | directory => exact .inl (.real inside idle up short found (by simp))
      | link => exact .inl (.link inside idle up short found)
  next => cases leads

theorem firstPiece_of_followFrom
    (leads : followFrom top followLast after location (name :: rest) = .ok (.found last)) :
    FirstPiece top location name := by
  rcases firstPiece_or_vacant leads with first | ⟨vacant, -⟩
  · exact first
  · cases vacant

/-! ## Whole paths -/

theorem resolves_of_followFrom {limit : Nat}
    (later : ∀ start pieces last, after start pieces = .ok (.found last) →
      ∃ links < limit, top.Resolves start pieces links last)
    (leads : followFrom top true after location pieces = .ok (.found last)) :
    ∃ links ≤ limit, top.Resolves location pieces links last := by
  induction pieces generalizing location with
  | nil =>
    rw [followFrom] at leads
    cases leads
    exact ⟨0, Nat.zero_le _, .arrived _⟩
  | cons name rest ih =>
    cases firstPiece_of_followFrom leads with
    | here inside =>
      rw [followFrom_here inside] at leads
      obtain ⟨links, few, resolves⟩ := ih leads
      exact ⟨links, few, .here inside resolves⟩
    | above inside =>
      rw [followFrom_above inside] at leads
      obtain ⟨links, few, resolves⟩ := ih leads
      exact ⟨links, few, .above inside resolves⟩
    | real inside ne_here ne_above short found real =>
      rw [followFrom_real inside ne_here ne_above short found real] at leads
      obtain ⟨links, few, resolves⟩ := ih leads
      exact ⟨links, few, .entered inside ne_here ne_above short found real resolves⟩
    | link inside ne_here ne_above short found =>
      rw [followFrom_linked inside ne_here ne_above short found (by simp)] at leads
      obtain ⟨links, few, resolves⟩ := later _ _ _ leads
      exact ⟨links + 1, few, .linked inside ne_here ne_above short found resolves⟩

/-- What is left to follow behind a link is all that the number of links left decides. -/
theorem exists_follow_eq (top : Node) (followLast : Bool) (limit : Nat) :
    ∃ after, follow top followLast limit = followFrom top followLast after := by
  cases limit <;> exact ⟨_, rfl⟩

theorem Node.Resolves.follow {links : Nat} (resolves : top.Resolves location pieces links last)
    {limit : Nat} (few : links ≤ limit) :
    follow top true limit location pieces = .ok (.found last) := by
  induction resolves generalizing limit with
  | arrived =>
    obtain ⟨after, whole⟩ := exists_follow_eq top true limit
    rw [whole, followFrom]
  | here inside _ ih =>
    obtain ⟨after, whole⟩ := exists_follow_eq top true limit
    rw [whole, followFrom_here inside, ← whole]
    exact ih few
  | above inside _ ih =>
    obtain ⟨after, whole⟩ := exists_follow_eq top true limit
    rw [whole, followFrom_above inside, ← whole]
    exact ih few
  | entered inside ne_here ne_above short found real _ ih =>
    obtain ⟨after, whole⟩ := exists_follow_eq top true limit
    rw [whole, followFrom_real inside ne_here ne_above short found real, ← whole]
    exact ih few
  | linked inside ne_here ne_above short found _ ih =>
    cases limit with
    | zero => cases few
    | succ limit =>
      rw [BattleAdvisor.follow, followFrom_linked inside ne_here ne_above short found (by simp)]
      exact ih (Nat.le_of_succ_le_succ few)

/-- Following finds what the pieces resolve to through the links left. -/
theorem follow_eq_found {limit : Nat} :
    follow top true limit location pieces = .ok (.found last) ↔
      ∃ links ≤ limit, top.Resolves location pieces links last := by
  constructor
  · intro leads
    induction limit generalizing location pieces last with
    | zero =>
      refine resolves_of_followFrom ?_ leads
      intro start pieces last stuck
      cases stuck
    | succ limit ih =>
      refine resolves_of_followFrom ?_ leads
      intro start pieces last leads
      obtain ⟨links, few, resolves⟩ := ih leads
      exact ⟨links, Nat.lt_succ_of_le few, resolves⟩
  · rintro ⟨links, few, resolves⟩
    exact resolves.follow few

/-! ## Links at the end -/

theorem followFrom_of_unfollowed {after' : Location → List Name → Except Fault Place}
    (later : ∀ start pieces, after start pieces = .ok (.found last) →
      after' start pieces = .ok (.found last))
    (real : ∀ target, top.at? last ≠ some (.link target))
    (leads : followFrom top false after location pieces = .ok (.found last)) :
    followFrom top true after' location pieces = .ok (.found last) := by
  induction pieces generalizing location with
  | nil =>
    rw [followFrom] at leads ⊢
    exact leads
  | cons name rest ih =>
    cases firstPiece_of_followFrom leads with
    | here inside =>
      rw [followFrom_here inside] at leads ⊢
      exact ih leads
    | above inside =>
      rw [followFrom_above inside] at leads ⊢
      exact ih leads
    | real inside ne_here ne_above short found entered =>
      rw [followFrom_real inside ne_here ne_above short found entered] at leads ⊢
      exact ih leads
    | @link entries _ target inside ne_here ne_above short found =>
      by_cases further : rest = []
      · subst further
        rw [followFrom_unfollowed inside ne_here ne_above short found] at leads
        cases leads
        exact absurd ((Node.at?_concat inside name).trans found) (real target)
      · rw [followFrom_linked inside ne_here ne_above short found (by simp [further])] at leads ⊢
        exact later _ _ leads

/-- A path that leads to no link, a link at its end not followed, leads there anyway. -/
theorem follow_of_unfollowed {limit : Nat} (real : ∀ target, top.at? last ≠ some (.link target))
    (leads : follow top false limit location pieces = .ok (.found last)) :
    follow top true limit location pieces = .ok (.found last) := by
  induction limit generalizing location pieces with
  | zero =>
    refine followFrom_of_unfollowed ?_ real leads
    intro start pieces stuck
    cases stuck
  | succ limit ih =>
    refine followFrom_of_unfollowed ?_ real leads
    intro start pieces leads
    exact ih leads

end

/-! ## Following in two parts -/

namespace Node.Resolves

variable {top : Node} {start middle last : Location} {first second pieces : List Name}
  {links links' : Nat}

/-- Where pieces lead in the end, more pieces go on. -/
theorem append (resolves : top.Resolves start first links middle)
    (resolves' : top.Resolves middle second links' last) :
    top.Resolves start (first ++ second) (links + links') last := by
  induction resolves with
  | arrived =>
    rw [Nat.zero_add]
    exact resolves'
  | here inside _ ih => exact .here inside (ih resolves')
  | above inside _ ih => exact .above inside (ih resolves')
  | entered inside ne_here ne_above short found real _ ih =>
    exact .entered inside ne_here ne_above short found real (ih resolves')
  | linked inside ne_here ne_above short found _ ih =>
    have further := ih resolves'
    rw [List.append_assoc] at further
    rw [Nat.add_right_comm]
    exact .linked inside ne_here ne_above short found further

/-- What is followed as a whole is followed up to any piece, and from there on. -/
theorem split (resolves : top.Resolves start (first ++ second) links last) :
    ∃ middle before behind, top.Resolves start first before middle ∧
      top.Resolves middle second behind last := by
  generalize whole : first ++ second = pieces at resolves
  induction resolves generalizing first with
  | arrived location =>
    obtain ⟨rfl, rfl⟩ := List.append_eq_nil_iff.mp whole
    exact ⟨location, 0, 0, .arrived location, .arrived location⟩
  | here inside leads ih =>
    obtain ⟨rfl, rfl⟩ | ⟨first, rfl, rfl⟩ := List.append_eq_cons_iff.mp whole
    · exact ⟨_, 0, _, .arrived _, .here inside leads⟩
    · obtain ⟨middle, before, behind, here, there⟩ := ih rfl
      exact ⟨middle, before, behind, .here inside here, there⟩
  | above inside leads ih =>
    obtain ⟨rfl, rfl⟩ | ⟨first, rfl, rfl⟩ := List.append_eq_cons_iff.mp whole
    · exact ⟨_, 0, _, .arrived _, .above inside leads⟩
    · obtain ⟨middle, before, behind, here, there⟩ := ih rfl
      exact ⟨middle, before, behind, .above inside here, there⟩
  | entered inside ne_here ne_above short found real leads ih =>
    obtain ⟨rfl, rfl⟩ | ⟨first, rfl, rfl⟩ := List.append_eq_cons_iff.mp whole
    · exact ⟨_, 0, _, .arrived _, .entered inside ne_here ne_above short found real leads⟩
    · obtain ⟨middle, before, behind, here, there⟩ := ih rfl
      exact ⟨middle, before, behind, .entered inside ne_here ne_above short found real here, there⟩
  | linked inside ne_here ne_above short found leads ih =>
    obtain ⟨rfl, rfl⟩ | ⟨first, rfl, rfl⟩ := List.append_eq_cons_iff.mp whole
    · exact ⟨_, 0, _, .arrived _, .linked inside ne_here ne_above short found leads⟩
    · obtain ⟨middle, before, behind, here, there⟩ := ih (List.append_assoc ..)
      exact ⟨middle, before + 1, behind, .linked inside ne_here ne_above short found here, there⟩

end Node.Resolves

namespace FileSystem

variable {fs : FileSystem} {p dir : Path} {node root : Node}

/-- The node that a path leads to, as far as the system allows. -/
def LeadsTo (fs : FileSystem) (p : Path) (node : Node) : Prop :=
  checkPath p = .ok () ∧
    ∃ links ≤ linkLimit, ∃ last, fs.top.Resolves (fs.origin p) p.steps links last ∧
      fs.top.at? last = some node

theorem stat_eq_ok_iff : fs.stat p = .ok node ↔ fs.LeadsTo p node := by
  rw [stat_eq_ok]
  constructor
  · rintro ⟨last, found⟩
    obtain ⟨checked, leads, there⟩ := find_eq_ok.mp found
    obtain ⟨links, few, resolves⟩ := follow_eq_found.mp leads
    exact ⟨checked, links, few, last, resolves, there⟩
  · rintro ⟨checked, links, few, last, resolves, there⟩
    exact ⟨last, find_eq_ok.mpr ⟨checked, follow_eq_found.mpr ⟨links, few, resolves⟩, there⟩⟩

/-- A path leads to one node at most. -/
theorem LeadsTo.unique {node' : Node} (leads : fs.LeadsTo p node) (leads' : fs.LeadsTo p node') :
    node = node' := by
  rw [← stat_eq_ok_iff] at leads leads'
  exact Except.ok.inj (leads.symm.trans leads')

/-- A path is that of a file if it leads to one, through links as well. -/
theorem isFile_iff : fs.isFile p = true ↔ ∃ content, fs.LeadsTo p (.file content) := by
  simp only [← stat_eq_ok_iff]
  unfold isFile
  split
  next content leads => simp [leads]
  next other =>
    simp only [Bool.false_eq_true, false_iff]
    rintro ⟨content, leads⟩
    exact other content leads

/-- What a path leads to, a link at its end not followed, it leads to anyway if that is no link. -/
theorem stat_of_linkStat (real : ∀ target, node ≠ .link target)
    (leads : fs.linkStat p = .ok node) : fs.stat p = .ok node := by
  obtain ⟨last, found⟩ : ∃ last, fs.find false p = .ok (last, node) := by
    unfold linkStat at leads
    cases found : fs.find false p with
    | error fault =>
      rw [found] at leads
      cases leads
    | ok pair =>
      rw [found] at leads
      cases leads
      exact ⟨pair.1, rfl⟩
  obtain ⟨checked, followed, there⟩ := find_eq_ok.mp found
  have real' : ∀ target, fs.top.at? last ≠ some (.link target) := by
    intro target link
    exact real target (Option.some.inj (there.symm.trans link))
  exact stat_eq_ok.mpr ⟨last, find_eq_ok.mpr ⟨checked, follow_of_unfollowed real' followed, there⟩⟩

/-- A walk goes through the node to which the directory leads, through links as well. -/
theorem walk_eq_visitsAt (leads : fs.LeadsTo dir root) : fs.walk dir = root.visitsAt dir := by
  rw [← stat_eq_ok_iff] at leads
  obtain ⟨node, unfollowed⟩ := exists_linkStat leads
  have same (real : ∀ target, node ≠ .link target) : node = root :=
    Except.ok.inj ((stat_of_linkStat real unfollowed).symm.trans leads)
  unfold walk
  rw [unfollowed]
  cases node with
  | link target =>
    simp only [leads]
    rfl
  | file content =>
    rw [← same (by simp)]
    rfl
  | directory entries =>
    rw [← same (by simp)]
    rfl

end FileSystem

end BattleAdvisor
