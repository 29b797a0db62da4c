import BattleAdvisor.Proofs.FileSystem.Path

/-!
# Paths relative to a directory

A path that goes on from a directory by ordinary names is, relative to that directory, just these
names with slashes between them, however the directory is spelled: it may be empty or absolute, and
it may have idle pieces, pieces `..`, and any number of slashes (`Path.relativeTo_join`).

`Path.below` goes on name by name, and comes to the same path (`Path.below_eq_join`). The path
around the last component has the components before it (`Path.components_parent?`).
-/

namespace BattleAdvisor

namespace Text

/-- The first part of a sequence goes on with what follows the last separator so far. -/
theorem exists_head_splitFrom {α : Type} {isSeparator : α → Bool} {part sequence first : List α}
    {rest : List (List α)} (cut : splitFrom isSeparator part sequence = first :: rest) :
    ∃ behind, first = part.reverse ++ behind := by
  induction sequence generalizing part with
  | nil =>
    obtain ⟨rfl, -⟩ := List.cons.inj cut
    exact ⟨[], (List.append_nil _).symm⟩
  | cons x sequence ih =>
    rw [splitFrom] at cut
    split at cut
    · obtain ⟨rfl, -⟩ := List.cons.inj cut
      exact ⟨[], (List.append_nil _).symm⟩
    · obtain ⟨behind, rfl⟩ := ih cut
      exact ⟨x :: behind, by simp⟩

end Text

namespace Path

/-! ## Names with slashes between them -/

section

variable {name : Name} {names : List Name}

theorem ofPieces_singleton (name : Name) : ofPieces [name] = ⟨name⟩ := by
  simp [ofPieces]

theorem ofPieces_cons (name : Name) (further : names ≠ []) :
    ofPieces (name :: names) = ⟨name ++ slash :: (ofPieces names).bytes⟩ := by
  obtain ⟨next, rest, rfl⟩ := List.exists_cons_of_ne_nil further
  simp [ofPieces, List.intersperse]

theorem pieces_ofPieces (further : names ≠ []) (slashless : ∀ name ∈ names, slash ∉ name) :
    (ofPieces names).pieces = names := by
  induction names with
  | nil => exact absurd rfl further
  | cons name names ih =>
    obtain ⟨first, others⟩ := List.forall_mem_cons.mp slashless
    by_cases last : names = []
    · subst last
      rw [ofPieces_singleton, pieces_of_slashless first]
    · rw [ofPieces_cons name last, pieces_append, pieces_of_slashless first, ih last others]
      rfl

theorem isAbsolute_ofPieces (ordinary : ∀ name ∈ names, name.Ordinary) :
    (ofPieces names).isAbsolute = false := by
  cases names with
  | nil => rfl
  | cons name names =>
    obtain ⟨first, -⟩ := List.forall_mem_cons.mp ordinary
    have relative := isAbsolute_of_slashless first.slashless
    by_cases last : names = []
    · rw [last, ofPieces_singleton, relative]
    · rw [ofPieces_cons name last]
      obtain ⟨b, bytes, rfl⟩ := List.exists_cons_of_ne_nil first.nonempty
      exact relative

end

/-! ## Joining -/

/-- What stands in front of a relative path in a directory. -/
theorem exists_join (dir : Path) :
    ∃ start, ∀ p : Path, p.isAbsolute = false → dir.join p = ⟨start ++ p.bytes⟩ := by
  by_cases empty : dir.bytes = []
  · refine ⟨[], fun p _ => ?_⟩
    rw [join, if_pos (.inr empty)]
    rfl
  by_cases ends : dir.endsInSlash = true
  · refine ⟨dir.bytes, fun p relative => ?_⟩
    rw [join, if_neg (by simp [relative, empty]), if_pos ends]
  · refine ⟨dir.bytes ++ [slash], fun p relative => ?_⟩
    rw [join, if_neg (by simp [relative, empty]), if_neg ends, List.append_assoc]
    rfl

/-- Going on name by name comes to the path of all names. -/
theorem below_eq_join (dir : Path) {names : List Name} (further : names ≠ [])
    (ordinary : ∀ name ∈ names, name.Ordinary) : dir.below names = dir.join (ofPieces names) := by
  induction names generalizing dir with
  | nil => exact absurd rfl further
  | cons name names ih =>
    obtain ⟨first, others⟩ := List.forall_mem_cons.mp ordinary
    rw [below_cons]
    by_cases last : names = []
    · rw [last, below_nil, ofPieces_singleton]
    · obtain ⟨start, joined⟩ := dir.exists_join
      rw [ih _ last others, join, isAbsolute_ofPieces others,
        if_neg (by simpa using bytes_join_ne_nil first), endsInSlash_join first,
        if_neg Bool.false_ne_true, joined _ (isAbsolute_of_slashless first.slashless),
        joined _ (isAbsolute_ofPieces ordinary), ofPieces_cons name last, List.append_assoc]

/-! ## Parts -/

theorem busy_of_ordinary {name : Name} (ordinary : name.Ordinary) : isIdle name = false := by
  simp [isIdle, ordinary.nonempty, ordinary.ne_here]

/-- The first piece of a relative path is not empty, unless the path is. -/
theorem first_ne_nil {p : Path} (given : p.bytes ≠ []) (relative : p.isAbsolute = false)
    {first : Name} {rest : List Name} (cut : p.pieces = first :: rest) : first ≠ [] := by
  obtain ⟨b, bytes, whole⟩ := List.exists_cons_of_ne_nil given
  have other : b ≠ slash := by
    rintro rfl
    simp [isAbsolute, whole] at relative
  rw [pieces, whole, Text.split, Text.splitFrom, decide_eq_false other,
    if_neg Bool.false_ne_true] at cut
  obtain ⟨behind, same⟩ := Text.exists_head_splitFrom cut
  simp [same]

/-- How a path in a directory begins, and its other pieces: those of the directory, without idle
ones at its end, and those of the path. If the directory's own path has no beginning, one of its
pieces counts. -/
theorem exists_parts_join {dir p : Path} (given : dir.bytes ≠ [])
    (relative : p.isAbsolute = false) :
    ∃ front body idle, dir.parts = (front, body ++ idle) ∧ (∀ piece ∈ idle, isIdle piece = true) ∧
      (dir.join p).parts = (front, body ++ p.pieces) ∧
      (front = none → ∃ piece ∈ body, isIdle piece = false) := by
  obtain ⟨first, rest, idle, cut, empty, joined⟩ := exists_pieces_join_relative given relative
  have idle' : ∀ piece ∈ idle, isIdle piece = true := fun piece among => by
    simp [isIdle, empty piece among]
  unfold parts
  rw [cut, joined, isAbsolute_join_relative given relative]
  dsimp only
  cases top : dir.isAbsolute with
  | true => exact ⟨some .root, rest, idle, rfl, idle', rfl, by simp⟩
  | false =>
    rw [if_neg Bool.false_ne_true, if_neg Bool.false_ne_true]
    by_cases here : first = Path.here
    · rw [if_pos here, if_pos here]
      exact ⟨some .here, rest, idle, rfl, idle', rfl, by simp⟩
    · rw [if_neg here, if_neg here]
      have busy : isIdle first = false := by simp [isIdle, here, first_ne_nil given top cut]
      exact ⟨none, first :: rest, idle, rfl, idle', rfl, fun _ => ⟨first, by simp, busy⟩⟩

theorem dropPieces_idle {piece : Name} (idle : isIdle piece = true) (count : Nat)
    (rest : List Name) : dropPieces count (piece :: rest) = dropPieces count rest := by
  rw [dropPieces.eq_def]
  simp [idle]

theorem dropPieces_busy {piece : Name} (busy : isIdle piece = false) (count : Nat)
    (rest : List Name) : dropPieces (count + 1) (piece :: rest) = dropPieces count rest := by
  rw [dropPieces.eq_def]
  simp [busy]

theorem dropPieces_zero {piece : Name} (busy : isIdle piece = false) (rest : List Name) :
    dropPieces 0 (piece :: rest) = piece :: rest := by
  rw [dropPieces.eq_def]
  simp [busy]

/-- As many pieces as count in the first part are dropped, and idle ones around them. -/
theorem dropPieces_append {names : List Name} (busy : ∀ name ∈ names, isIdle name = false)
    (body : List Name) :
    dropPieces (body.filter fun piece => !isIdle piece).length (body ++ names) = names := by
  induction body with
  | nil =>
    cases names with
    | nil => rfl
    | cons name names => exact dropPieces_zero (busy name List.mem_cons_self) names
  | cons piece body ih =>
    cases idle : isIdle piece with
    | true =>
      rw [List.filter_cons_of_neg (by simp [idle]), List.cons_append, dropPieces_idle idle]
      exact ih
    | false =>
      rw [List.filter_cons_of_pos (by simp [idle]), List.cons_append, List.length_cons,
        dropPieces_busy idle]
      exact ih

theorem trimPieces_of_busy {names : List Name} (busy : ∀ name ∈ names, isIdle name = false) :
    trimPieces names = names := by
  rw [trimPieces]
  rcases List.eq_nil_or_concat names with rfl | ⟨front, last, rfl⟩
  · rfl
  · rw [List.concat_eq_append, List.reverse_append, List.reverse_singleton,
      List.singleton_append, List.dropWhile_cons_of_neg (by simp [busy last (by simp)])]
    simp

/-! ## Relative paths -/

/-- A path of ordinary names begins with none of the parts that have a meaning of their own. -/
theorem parts_ofPieces {names : List Name} (further : names ≠ [])
    (ordinary : ∀ name ∈ names, name.Ordinary) : (ofPieces names).parts = (none, names) := by
  obtain ⟨name, rest, rfl⟩ := List.exists_cons_of_ne_nil further
  have pieces := pieces_ofPieces further fun name among => (ordinary name among).slashless
  unfold parts
  rw [pieces, isAbsolute_ofPieces ordinary]
  dsimp only
  rw [if_neg Bool.false_ne_true, if_neg (ordinary name List.mem_cons_self).ne_here]

/-- What follows the components of the directory is the names. -/
theorem afterComponents_of_parts {p : Path} {front : Option Component} {body names : List Name}
    (cut : p.parts = (front, body ++ names)) (busy : ∀ name ∈ names, isIdle name = false)
    (begun : front = none → ∃ piece ∈ body, isIdle piece = false) :
    p.afterComponents (front.toList ++
      (body.filter fun piece => !isIdle piece).map Component.ofPiece).length = ofPieces names := by
  have left := dropPieces_append busy body
  rw [afterComponents, cut, List.length_append, List.length_map]
  dsimp only
  cases front with
  | some front =>
    rw [Option.toList_some, List.length_singleton, Nat.add_comm 1]
    dsimp only
    rw [left, trimPieces_of_busy busy]
  | none =>
    obtain ⟨piece, among, counts⟩ := begun rfl
    obtain ⟨count, some⟩ : ∃ count, (body.filter fun piece => !isIdle piece).length = count + 1 :=
      Nat.exists_eq_add_one_of_ne_zero fun none => by
        have absent := List.filter_eq_nil_iff.mp (List.length_eq_zero_iff.mp none) piece among
        simp [counts] at absent
    rw [some] at left ⊢
    rw [Option.toList_none, List.length_nil, Nat.zero_add]
    dsimp only
    rw [left, trimPieces_of_busy busy]

/-- **A path in a directory, relative to the directory.** However the directory is spelled, what is
left is the spelling of the names. -/
theorem relativeTo_join (dir : Path) {names : List Name} (further : names ≠ [])
    (ordinary : ∀ name ∈ names, name.Ordinary) :
    (dir.join (ofPieces names)).relativeTo dir = ofPieces names := by
  have relative := isAbsolute_ofPieces ordinary
  have busy : ∀ name ∈ names, isIdle name = false := fun name among =>
    busy_of_ordinary (ordinary name among)
  by_cases given : dir.bytes = []
  · have nothing : dir.components = [] := by
      have same : dir = ⟨[]⟩ := congrArg Path.mk given
      rw [same]
      rfl
    rw [join, if_pos (.inr given), relativeTo, nothing, if_pos List.isPrefixOf_nil_left,
      afterComponents, parts_ofPieces further ordinary]
    dsimp only [List.length_nil]
    rw [trimPieces_of_busy busy]
    rfl
  · obtain ⟨front, body, idle, whole, none, joined, begun⟩ := exists_parts_join given relative
    rw [pieces_ofPieces further fun name among => (ordinary name among).slashless] at joined
    have none : idle.filter (fun piece => !isIdle piece) = [] :=
      List.filter_eq_nil_iff.mpr fun piece among => by simp [none piece among]
    have outer : dir.components =
        front.toList ++ (body.filter fun piece => !isIdle piece).map Component.ofPiece := by
      rw [components, whole]
      dsimp only
      rw [List.filter_append, none, List.append_nil]
    have inner : (dir.join (ofPieces names)).components = dir.components ++
        (names.filter fun piece => !isIdle piece).map Component.ofPiece := by
      rw [outer, components, joined]
      dsimp only
      rw [List.filter_append, List.map_append, List.append_assoc]
    rw [relativeTo, if_pos (List.isPrefixOf_iff_prefix.mpr ⟨_, inner.symm⟩), outer]
    exact afterComponents_of_parts joined busy begun

/-! ## The path around the last component -/

theorem trimPieces_shortens (pieces : List Name) : trimPieces pieces <+: pieces := by
  have suffix := List.dropWhile_suffix isIdle (l := pieces.reverse)
  rwa [← List.reverse_prefix, List.reverse_reverse] at suffix

theorem isAbsolute_ofPieces_cons {first : Name} (given : first ≠ []) (slashless : slash ∉ first)
    (rest : List Name) : (ofPieces (first :: rest)).isAbsolute = false := by
  have relative := isAbsolute_of_slashless slashless
  by_cases last : rest = []
  · rw [last, ofPieces_singleton, relative]
  · rw [ofPieces_cons first last]
    obtain ⟨b, bytes, rfl⟩ := List.exists_cons_of_ne_nil given
    exact relative

theorem slashless_of_mem_pieces {p : Path} {piece : Name} (among : piece ∈ p.pieces) :
    slash ∉ piece := by
  intro inside
  have none : decide (slash = slash) = false :=
    Text.separator_notMem_of_mem_splitFrom (List.forall_mem_nil _) piece among slash inside
  simp at none

/-- How the parts of a path can be put together: at the top, here, or with a piece that is neither
empty nor idle in front. -/
inductive Begins : Option Component → List Name → Prop
  | root (body : List Name) : Begins (some .root) body
  | here (body : List Name) : Begins (some .here) body
  | nowhere : Begins none []
  | piece {first : Name} (given : first ≠ []) (ne_here : first ≠ Path.here) (rest : List Name) :
      Begins none (first :: rest)

theorem Begins.shortened {front : Option Component} {body others : List Name}
    (begins : Begins front body) (shorter : others <+: body) : Begins front others := by
  cases begins with
  | root => exact .root others
  | here => exact .here others
  | nowhere =>
    rw [List.prefix_nil.mp shorter]
    exact .nowhere
  | piece given ne_here rest =>
    cases others with
    | nil => exact .nowhere
    | cons first others =>
      rw [(List.cons_prefix_cons.mp shorter).1]
      exact .piece given ne_here others

theorem exists_parts_ofParts {front : Option Component} {body : List Name}
    (begins : Begins front body) (slashless : ∀ piece ∈ body, slash ∉ piece) :
    ∃ others, (ofParts front body).parts = (front, others) ∧
      (others.filter fun piece => !isIdle piece) = body.filter fun piece => !isIdle piece := by
  cases begins with
  | nowhere => exact ⟨[[]], rfl, rfl⟩
  | root =>
    refine ⟨(ofPieces body).pieces, ?_, ?_⟩
    · have cut : (ofParts (some .root) body).pieces = [] :: (ofPieces body).pieces :=
        pieces_append [] (ofPieces body).bytes
      rw [parts, cut]
      rfl
    · by_cases further : body = []
      · rw [further]
        rfl
      · rw [pieces_ofPieces further slashless]
  | here =>
    by_cases further : body = []
    · subst further
      exact ⟨[], rfl, rfl⟩
    · have given : Path.here ≠ [] := by decide
      have plain : slash ∉ Path.here := by decide
      have cut : (ofPieces (Path.here :: body)).pieces = Path.here :: body :=
        pieces_ofPieces (List.cons_ne_nil _ _) (List.forall_mem_cons.mpr ⟨plain, slashless⟩)
      refine ⟨body, ?_, rfl⟩
      rw [ofParts, if_neg further, parts, cut, isAbsolute_ofPieces_cons given plain body]
      rfl
  | @piece first given ne_here rest =>
    have cut := pieces_ofPieces (List.cons_ne_nil first rest) slashless
    refine ⟨first :: rest, ?_, rfl⟩
    have whole : ofParts none (first :: rest) = ofPieces (first :: rest) := rfl
    rw [whole, parts, cut,
      isAbsolute_ofPieces_cons given (slashless first List.mem_cons_self) rest]
    simp [ne_here]

/-- The parts of a path begin it. -/
theorem exists_parts (p : Path) :
    ∃ front body, p.parts = (front, body) ∧ (∀ piece ∈ body, slash ∉ piece) ∧
      (trimPieces body ≠ [] → Begins front body) := by
  obtain ⟨first, rest, cut⟩ := exists_pieces p
  have slashless : ∀ piece ∈ first :: rest, slash ∉ piece := fun piece among =>
    slashless_of_mem_pieces (cut ▸ among)
  have others := (List.forall_mem_cons.mp slashless).2
  rw [parts, cut]
  dsimp only
  by_cases top : p.isAbsolute = true
  · rw [if_pos top]
    exact ⟨_, _, rfl, others, fun _ => .root rest⟩
  rw [if_neg top]
  by_cases here : first = Path.here
  · rw [if_pos here]
    exact ⟨_, _, rfl, others, fun _ => .here rest⟩
  rw [if_neg here]
  refine ⟨_, _, rfl, slashless, fun further => .piece ?_ here rest⟩
  by_cases given : p.bytes = []
  · have same : p = ⟨[]⟩ := congrArg Path.mk given
    rw [same] at cut
    cases cut
    exact absurd rfl further
  · exact first_ne_nil given (by simpa using top) cut

/-- The path around the last component has the components before it. -/
theorem components_parent? {p q : Path} (around : p.parent? = some q) :
    q.components <+: p.components := by
  obtain ⟨front, body, cut, slashless, begins⟩ := p.exists_parts
  have whole : p.components =
      front.toList ++ (body.filter fun piece => !isIdle piece).map Component.ofPiece := by
    rw [components, cut]
  rw [parent?, cut] at around
  dsimp only at around
  split at around
  · cases around
    exact List.nil_prefix
  · cases around
  next further _ =>
    cases around
    have shorter : trimPieces (trimPieces body).dropLast <+: body :=
      ((trimPieces_shortens _).trans (List.dropLast_prefix _)).trans (trimPieces_shortens _)
    obtain ⟨others, parts, same⟩ := exists_parts_ofParts
      ((begins further).shortened shorter) fun piece among => slashless piece (shorter.subset among)
    rw [whole, components, parts]
    dsimp only
    rw [same]
    exact (List.prefix_append_right_inj _).mpr ((shorter.filter _).map _)

end Path

end BattleAdvisor
