import BattleAdvisor.Preferences
import BattleAdvisor.Proofs.FileSystem.Tree

/-!
# Paths below a directory

`Path.below` is a path that goes on from a directory by ordinary names. Whatever the spelling of the
directory, the names are the last pieces of the path (`Path.names_below`), so different names make
different paths (`Path.below_injective`), and the last of them decides about the extension
(`Path.fileName?_join`).
-/

namespace BattleAdvisor

/-! ## Splitting -/

namespace Text

variable {α : Type} {isSeparator : α → Bool}

theorem splitFrom_append (part first : List α) {x : α} (separator : isSeparator x = true)
    (second : List α) :
    splitFrom isSeparator part (first ++ x :: second) =
      splitFrom isSeparator part first ++ splitFrom isSeparator [] second := by
  induction first generalizing part with
  | nil => simp [splitFrom, separator]
  | cons y first ih =>
    rw [List.cons_append, splitFrom, splitFrom]
    split
    · rw [ih, List.cons_append]
    · exact ih _

theorem splitFrom_of_none (part : List α) {sequence : List α}
    (none : ∀ x ∈ sequence, isSeparator x = false) :
    splitFrom isSeparator part sequence = [part.reverse ++ sequence] := by
  induction sequence generalizing part with
  | nil => simp [splitFrom]
  | cons x rest ih =>
    obtain ⟨first, others⟩ := List.forall_mem_cons.mp none
    rw [splitFrom, first, if_neg Bool.false_ne_true, ih _ others]
    simp

theorem splitFrom_ne_nil (part sequence : List α) : splitFrom isSeparator part sequence ≠ [] := by
  induction sequence generalizing part with
  | nil => exact List.cons_ne_nil _ _
  | cons x rest ih =>
    rw [splitFrom]
    split
    · exact List.cons_ne_nil _ _
    · exact ih _

/-- The parts of a sequence have no separators. -/
theorem separator_notMem_of_mem_splitFrom {part sequence : List α}
    (none : ∀ x ∈ part, isSeparator x = false) :
    ∀ piece ∈ splitFrom isSeparator part sequence, ∀ x ∈ piece, isSeparator x = false := by
  induction sequence generalizing part with
  | nil =>
    intro piece among x inside
    rw [splitFrom, List.mem_singleton] at among
    exact none x (List.mem_reverse.mp (among ▸ inside))
  | cons y rest ih =>
    rw [splitFrom]
    by_cases separator : isSeparator y = true
    · rw [if_pos separator]
      intro piece among x inside
      rcases List.mem_cons.mp among with rfl | among
      · exact none x (List.mem_reverse.mp inside)
      · exact ih (List.forall_mem_nil _) piece among x inside
    · rw [if_neg separator]
      refine ih fun x among => ?_
      rcases List.mem_cons.mp among with rfl | among
      · simpa using separator
      · exact none x among

end Text

namespace Path

/-! ## Pieces -/

/-- The pieces of a path that are not empty. -/
def names (p : Path) : List Name :=
  p.pieces.filter (· ≠ [])

theorem steps_eq (p : Path) : p.steps = p.names ++ if p.endsInSlash then [here] else [] := rfl

theorem pieces_of_slashless {name : Name} (slashless : slash ∉ name) :
    pieces ⟨name⟩ = [name] := by
  refine Text.splitFrom_of_none [] fun x among => ?_
  rw [decide_eq_false_iff_not]
  rintro rfl
  exact slashless among

theorem pieces_append (first second : Bytes) :
    pieces ⟨first ++ slash :: second⟩ = pieces ⟨first⟩ ++ pieces ⟨second⟩ :=
  Text.splitFrom_append [] first (decide_eq_true rfl) second

theorem names_append (first second : Bytes) :
    names ⟨first ++ slash :: second⟩ = names ⟨first⟩ ++ names ⟨second⟩ := by
  rw [names, pieces_append, List.filter_append]
  rfl

/-- Slashes at the end add no names. -/
theorem names_slashes (first : Bytes) (count : Nat) :
    names ⟨first ++ List.replicate count slash⟩ = names ⟨first⟩ := by
  induction count with
  | zero => rw [List.replicate_zero, List.append_nil]
  | succ count ih =>
    rw [List.replicate_succ', ← List.append_assoc, names_append, ih]
    exact List.append_nil _

theorem exists_pieces (p : Path) : ∃ first rest, p.pieces = first :: rest :=
  List.exists_cons_of_ne_nil (Text.splitFrom_ne_nil [] p.bytes)

theorem slashless_of_mem_names {p : Path} {name : Name} (among : name ∈ p.names) :
    slash ∉ name := by
  intro inside
  have none : decide (slash = slash) = false :=
    Text.separator_notMem_of_mem_splitFrom (List.forall_mem_nil _) name
      (List.mem_filter.mp among).1 slash inside
  simp at none

theorem nonempty_of_mem_names {p : Path} {name : Name} (among : name ∈ p.names) : name ≠ [] := by
  simpa using (List.mem_filter.mp among).2

theorem isAbsolute_of_slashless {name : Name} (slashless : slash ∉ name) :
    isAbsolute ⟨name⟩ = false := by
  rw [isAbsolute, decide_eq_false_iff_not]
  intro first
  exact slashless (List.mem_of_mem_head? first)

section

variable {p : Path} {name : Name}

/-- The pieces of a path in a directory: those of the directory, without an empty one at its end,
and those of the path. -/
theorem exists_pieces_join_relative {q : Path} (given : p.bytes ≠ [])
    (relative : q.isAbsolute = false) :
    ∃ first front idle, p.pieces = first :: (front ++ idle) ∧ (∀ piece ∈ idle, piece = []) ∧
      (p.join q).pieces = first :: (front ++ q.pieces) := by
  rw [join, if_neg (by simp [relative, given])]
  by_cases ends : p.endsInSlash = true
  · obtain ⟨start, whole⟩ : ∃ start, p.bytes = start ++ [slash] :=
      List.getLast?_eq_some_iff.mp (of_decide_eq_true ends)
    obtain ⟨first, front, cut⟩ := exists_pieces ⟨start⟩
    have trailing : p.pieces = pieces ⟨start⟩ ++ [[]] := by
      have same : p = ⟨start ++ slash :: []⟩ := congrArg Path.mk whole
      rw [same, pieces_append]
      rfl
    refine ⟨first, front, [[]], by rw [trailing, cut]; rfl, by simp, ?_⟩
    rw [if_pos ends, whole, List.append_assoc, List.singleton_append, pieces_append, cut]
    rfl
  · obtain ⟨first, front, cut⟩ := exists_pieces p
    refine ⟨first, front, [], by rw [cut, List.append_nil], List.forall_mem_nil _, ?_⟩
    rw [if_neg ends, pieces_append, cut]
    rfl

/-- The pieces of a path below a directory. A slash at the end of the directory's own path adds
none. -/
theorem exists_pieces_join (given : p.bytes ≠ []) (ordinary : name.Ordinary) :
    ∃ first front, (p.join ⟨name⟩).pieces = first :: (front ++ [name]) ∧
      (first :: front).filter (· ≠ []) = p.names := by
  obtain ⟨first, front, idle, cut, empty, joined⟩ :=
    exists_pieces_join_relative given (isAbsolute_of_slashless ordinary.slashless)
  rw [pieces_of_slashless ordinary.slashless] at joined
  have none : idle.filter (· ≠ []) = [] :=
    List.filter_eq_nil_iff.mpr fun piece among => by simp [empty piece among]
  refine ⟨first, front, joined, ?_⟩
  rw [names, cut, ← List.cons_append, List.filter_append, none, List.append_nil]

theorem names_join (given : p.bytes ≠ []) (ordinary : name.Ordinary) :
    (p.join ⟨name⟩).names = p.names ++ [name] := by
  obtain ⟨first, front, cut, same⟩ := exists_pieces_join given ordinary
  unfold names at same ⊢
  rw [cut, ← List.cons_append, List.filter_append, same]
  simp [ordinary.nonempty]

/-- The last piece of a path that ends with an ordinary name, below whatever directory. -/
theorem getLast?_names_join (ordinary : name.Ordinary) :
    (p.join ⟨name⟩).names.getLast? = some name := by
  by_cases given : p.bytes = []
  · rw [join, if_pos (.inr given), names, pieces_of_slashless ordinary.slashless]
    simp [ordinary.nonempty]
  · rw [names_join given ordinary, List.getLast?_concat]

theorem bytes_join_ne_nil (ordinary : name.Ordinary) : (p.join ⟨name⟩).bytes ≠ [] := by
  unfold join
  split
  · exact ordinary.nonempty
  · split <;> simp [ordinary.nonempty]

theorem length_join_le (given : p.bytes ≠ []) (ordinary : name.Ordinary) :
    p.bytes.length + name.length ≤ (p.join ⟨name⟩).bytes.length := by
  rw [join, isAbsolute_of_slashless ordinary.slashless, if_neg (by simpa using given)]
  split <;> simp

theorem isAbsolute_join_relative {q : Path} (given : p.bytes ≠ [])
    (relative : q.isAbsolute = false) : (p.join q).isAbsolute = p.isAbsolute := by
  rw [join, if_neg (by simp [relative, given])]
  obtain ⟨first, rest, whole⟩ := List.exists_cons_of_ne_nil given
  unfold isAbsolute
  split <;> rw [whole] <;> rfl

theorem isAbsolute_join (given : p.bytes ≠ []) (ordinary : name.Ordinary) :
    (p.join ⟨name⟩).isAbsolute = p.isAbsolute :=
  isAbsolute_join_relative given (isAbsolute_of_slashless ordinary.slashless)

/-- A path that ends with an ordinary name does not end with a slash. -/
theorem endsInSlash_join (ordinary : name.Ordinary) : (p.join ⟨name⟩).endsInSlash = false := by
  have last (front : Bytes) : (front ++ name).getLast? ≠ some slash := by
    rw [List.getLast?_append, List.getLast?_eq_some_getLast ordinary.nonempty, Option.some_or]
    intro slashed
    apply ordinary.slashless
    rw [← Option.some.inj slashed]
    exact List.getLast_mem ordinary.nonempty
  rw [endsInSlash, decide_eq_false_iff_not]
  unfold join
  split
  · exact last []
  · split
    · exact last p.bytes
    · simpa using last (p.bytes ++ [slash])

/-- The last component of a path that ends with an ordinary name. -/
theorem fileName?_join (given : p.bytes ≠ []) (ordinary : name.Ordinary) :
    (p.join ⟨name⟩).fileName? = some name := by
  obtain ⟨first, front, cut, -⟩ := exists_pieces_join given ordinary
  have busy : isIdle name = false := by simp [isIdle, ordinary.nonempty, ordinary.ne_here]
  have last (front : List Component) (body : List Name) :
      (front ++ ((body ++ [name]).filter fun piece => !isIdle piece).map
        Component.ofPiece).getLast? = some (.name name) := by
    simp [List.filter_append, busy, Component.ofPiece, ordinary.ne_above]
  obtain ⟨start, body, whole⟩ : ∃ start body, (p.join ⟨name⟩).parts = (start, body ++ [name]) := by
    unfold parts
    rw [cut]
    dsimp only
    split
    · exact ⟨_, front, rfl⟩
    · split
      · exact ⟨_, front, rfl⟩
      · exact ⟨_, first :: front, rfl⟩
  rw [fileName?, components, whole]
  dsimp only
  rw [last]

/-! ## Paths below a directory -/

/-- The path that goes on from a directory by names. -/
def below (dir : Path) (names : List Name) : Path :=
  names.foldl (fun p name => p.join ⟨name⟩) dir

@[simp] theorem below_nil (dir : Path) : dir.below [] = dir := rfl

theorem below_cons (dir : Path) (name : Name) (names : List Name) :
    dir.below (name :: names) = (dir.join ⟨name⟩).below names := rfl

theorem below_concat (dir : Path) (names : List Name) (name : Name) :
    dir.below (names ++ [name]) = (dir.below names).join ⟨name⟩ := by
  rw [below, List.foldl_append]
  rfl

variable {dir : Path} {names : List Name}

theorem bytes_below_ne_nil (given : dir.bytes ≠ []) (ordinary : ∀ name ∈ names, name.Ordinary) :
    (dir.below names).bytes ≠ [] := by
  induction names generalizing dir with
  | nil => exact given
  | cons name names ih =>
    obtain ⟨first, others⟩ := List.forall_mem_cons.mp ordinary
    exact ih (bytes_join_ne_nil first) others

theorem isAbsolute_below (given : dir.bytes ≠ []) (ordinary : ∀ name ∈ names, name.Ordinary) :
    (dir.below names).isAbsolute = dir.isAbsolute := by
  induction names generalizing dir with
  | nil => rfl
  | cons name names ih =>
    obtain ⟨first, others⟩ := List.forall_mem_cons.mp ordinary
    rw [below_cons, ih (bytes_join_ne_nil first) others, isAbsolute_join given first]

theorem names_below (given : dir.bytes ≠ []) (ordinary : ∀ name ∈ names, name.Ordinary) :
    (dir.below names).names = dir.names ++ names := by
  induction names generalizing dir with
  | nil => exact (List.append_nil _).symm
  | cons name names ih =>
    obtain ⟨first, others⟩ := List.forall_mem_cons.mp ordinary
    rw [below_cons, ih (bytes_join_ne_nil first) others, names_join given first,
      List.append_assoc]
    rfl

/-- Different names make different paths. -/
theorem below_injective {names' : List Name} (given : dir.bytes ≠ [])
    (ordinary : ∀ name ∈ names, name.Ordinary) (ordinary' : ∀ name ∈ names', name.Ordinary)
    (same : dir.below names = dir.below names') : names = names' := by
  have pieces := congrArg Path.names same
  rw [names_below given ordinary, names_below given ordinary'] at pieces
  exact List.append_cancel_left pieces

/-- The pieces to follow on a path that goes on by names. -/
theorem steps_below (given : dir.bytes ≠ []) (ordinary : ∀ name ∈ names, name.Ordinary)
    (further : names ≠ []) : (dir.below names).steps = dir.names ++ names := by
  rw [steps_eq, names_below given ordinary]
  obtain ⟨front, last, rfl⟩ : ∃ front last, names = front ++ [last] :=
    ⟨names.dropLast, names.getLast further, (List.dropLast_concat_getLast further).symm⟩
  rw [below_concat, endsInSlash_join (ordinary last (by simp)), if_neg Bool.false_ne_true,
    List.append_nil]

end

end Path

end BattleAdvisor
