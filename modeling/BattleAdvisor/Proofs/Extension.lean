import BattleAdvisor.Preferences
import BattleAdvisor.Proofs.FileSystem.Relative
import BattleAdvisor.Proofs.Text.Utf8
import Mathlib.Data.List.TakeWhile

/-!
# Paths of data files

A path ends in a name if nothing but slashes and pieces `.` follows it (`Path.EndsIn`). The last
component of a path is the ordinary name in which it ends (`Path.fileName?_eq_some`), and depends on
the busy pieces of the path only, which are those that are neither empty nor `.`.

**Theorem (`selects_by_name`).** A path is one of a data file just if the name in which it ends is
more than a dot and the extension, and the extension has no dot. Slashes and pieces `.` that are put
at the end of the path, or beside one of its slashes, make no difference.
-/

namespace BattleAdvisor

namespace Path

variable {p : Path} {name : Name}

/-! ## Busy pieces -/

/-- The pieces of a path that are not idle. -/
def busy (p : Path) : List Name :=
  p.pieces.filter fun piece => !isIdle piece

theorem busy_append (first second : Bytes) :
    busy ⟨first ++ slash :: second⟩ = busy ⟨first⟩ ++ busy ⟨second⟩ := by
  rw [busy, pieces_append, List.filter_append]
  rfl

theorem busy_nil : busy ⟨[]⟩ = [] := by
  decide

theorem busy_here : busy ⟨here⟩ = [] := by
  decide

/-- A slash in front adds no busy piece. -/
theorem busy_slash (second : Bytes) : busy ⟨slash :: second⟩ = busy ⟨second⟩ := by
  have front := busy_append [] second
  rwa [busy_nil, List.nil_append, List.nil_append] at front

/-- The first piece of a path from the top directory is empty. -/
theorem exists_pieces_of_isAbsolute (top : p.isAbsolute = true) :
    ∃ rest, p.pieces = [] :: rest := by
  obtain ⟨bytes⟩ := p
  cases bytes with
  | nil => simp [isAbsolute] at top
  | cons b bytes =>
    obtain rfl : b = slash := by simpa [isAbsolute] using top
    exact ⟨pieces ⟨bytes⟩, pieces_append [] bytes⟩

/-- How a path begins is no name, and behind it all busy pieces are left. -/
theorem exists_parts_busy (p : Path) : ∃ front body, p.parts = (front, body) ∧
    (∀ name, front ≠ some (.name name)) ∧ (body.filter fun piece => !isIdle piece) = p.busy := by
  obtain ⟨first, rest, cut⟩ := p.exists_pieces
  have dropped (idle : isIdle first = true) :
      (rest.filter fun piece => !isIdle piece) = p.busy := by
    rw [busy, cut, List.filter_cons_of_neg (by simp [idle])]
  unfold parts
  rw [cut]
  dsimp only
  split
  next top =>
    obtain ⟨rest', cut'⟩ := exists_pieces_of_isAbsolute top
    obtain ⟨rfl, -⟩ := List.cons.inj (cut.symm.trans cut')
    exact ⟨_, _, rfl, nofun, dropped rfl⟩
  next =>
    split
    next here =>
      subst here
      exact ⟨_, _, rfl, nofun, dropped rfl⟩
    next => exact ⟨_, _, rfl, nofun, by rw [busy, cut]⟩

/-- The last component is the last busy piece. -/
theorem fileName?_eq (p : Path) : p.fileName? = p.busy.getLast?.filter (· ≠ above) := by
  obtain ⟨front, body, parts, unnamed, left⟩ := p.exists_parts_busy
  rw [fileName?, components, parts]
  dsimp only
  rw [left, List.getLast?_append, List.getLast?_map]
  cases p.busy.getLast? with
  | none =>
    cases front with
    | none => rfl
    | some component =>
      cases component with
      | name name => exact absurd rfl (unnamed name)
      | root | here | above => rfl
  | some piece =>
    rw [Option.map_some, Option.some_or, Component.ofPiece]
    by_cases up : piece = above <;> simp [up, Option.filter]

/-! ## The end of a path -/

/-- A path ends in a name: in front of it is a slash or nothing, and behind it are slashes and
pieces that mean the directory itself. -/
def EndsIn (p : Path) (name : Name) : Prop :=
  ∃ (front : Bytes) (idle : List Name), (front = [] ∨ front.getLast? = some slash) ∧
    (∀ piece ∈ idle, piece = [] ∨ piece = here) ∧
    p.bytes = front ++ name ++ idle.flatMap (slash :: ·)

theorem isIdle_iff {piece : Name} : isIdle piece = true ↔ piece = [] ∨ piece = here := by
  simp [isIdle]

/-- Pieces with a slash in front of each one come last. -/
theorem pieces_append_flatMap (first : Bytes) {names : List Name}
    (slashless : ∀ name ∈ names, slash ∉ name) :
    pieces ⟨first ++ names.flatMap (slash :: ·)⟩ = pieces ⟨first⟩ ++ names := by
  induction names generalizing first with
  | nil => rw [List.flatMap_nil, List.append_nil, List.append_nil]
  | cons name names ih =>
    obtain ⟨here, others⟩ := List.forall_mem_cons.mp slashless
    rw [List.flatMap_cons, ← List.append_assoc, ih _ others, pieces_append,
      pieces_of_slashless here, List.append_assoc]
    rfl

/-- The pieces in front of a name, when a slash or nothing is in front of it. -/
theorem exists_pieces_append {front : Bytes} (cut : front = [] ∨ front.getLast? = some slash)
    (slashless : slash ∉ name) : ∃ before, pieces ⟨front ++ name⟩ = before ++ [name] := by
  rcases cut with rfl | last
  · exact ⟨[], pieces_of_slashless slashless⟩
  · obtain ⟨start, rfl⟩ := List.getLast?_eq_some_iff.mp last
    refine ⟨pieces ⟨start⟩, ?_⟩
    rw [List.append_assoc, List.singleton_append, pieces_append, pieces_of_slashless slashless]

theorem bytes_ofPieces_splitFrom (part bytes : Bytes) :
    (ofPieces (Text.splitFrom (· = slash) part bytes)).bytes = part.reverse ++ bytes := by
  induction bytes generalizing part with
  | nil => rw [Text.splitFrom, ofPieces_singleton, List.append_nil]
  | cons b rest ih =>
    rw [Text.splitFrom]
    split
    next separator =>
      rw [ofPieces_cons _ (Text.splitFrom_ne_nil [] rest), ih, of_decide_eq_true separator]
      rfl
    next => rw [ih, List.reverse_cons, List.append_assoc, List.singleton_append]

/-- The pieces of a path make the path. -/
theorem ofPieces_pieces (p : Path) : ofPieces p.pieces = p :=
  congrArg Path.mk (bytes_ofPieces_splitFrom [] p.bytes)

theorem bytes_ofPieces_cons (name : Name) (behind : List Name) :
    (ofPieces (name :: behind)).bytes = name ++ behind.flatMap (slash :: ·) := by
  induction behind generalizing name with
  | nil => rw [ofPieces_singleton, List.flatMap_nil, List.append_nil]
  | cons next behind ih =>
    rw [ofPieces_cons name (List.cons_ne_nil next behind), ih, List.flatMap_cons]
    rfl

theorem bytes_ofPieces_append (before : List Name) (name : Name) (behind : List Name) :
    (ofPieces (before ++ name :: behind)).bytes =
      before.flatMap (· ++ [slash]) ++ name ++ behind.flatMap (slash :: ·) := by
  induction before with
  | nil => exact bytes_ofPieces_cons name behind
  | cons first before ih =>
    rw [List.cons_append, ofPieces_cons first (by simp), ih, List.flatMap_cons]
    simp

/-- Pieces with a slash behind each one end in a slash, if there are any. -/
theorem getLast?_flatMap_slash (names : List Name) :
    names.flatMap (· ++ [slash]) = [] ∨
      (names.flatMap (· ++ [slash])).getLast? = some slash := by
  rcases List.eq_nil_or_concat names with rfl | ⟨start, last, rfl⟩
  · exact .inl rfl
  · right
    rw [List.concat_eq_append, List.flatMap_append, List.flatMap_singleton, ← List.append_assoc,
      List.getLast?_concat]

/-- A path ends in a name just if all pieces behind the name are idle. -/
theorem endsIn_iff_pieces (slashless : slash ∉ name) : p.EndsIn name ↔
    ∃ before idle, p.pieces = before ++ name :: idle ∧ ∀ piece ∈ idle, isIdle piece = true := by
  constructor
  · rintro ⟨front, idle, cut, none, whole⟩
    have plain : ∀ piece ∈ idle, slash ∉ piece := by
      intro piece among
      rcases none piece among with rfl | rfl <;> decide
    obtain ⟨before, pieces⟩ := exists_pieces_append cut slashless
    have same : p = ⟨front ++ name ++ idle.flatMap (slash :: ·)⟩ := congrArg Path.mk whole
    refine ⟨before, idle, ?_, fun piece among => isIdle_iff.mpr (none piece among)⟩
    rw [same, pieces_append_flatMap _ plain, pieces, List.append_assoc, List.singleton_append]
  · rintro ⟨before, idle, cut, none⟩
    refine ⟨before.flatMap (· ++ [slash]), idle, getLast?_flatMap_slash before, ?_, ?_⟩
    · exact fun piece among => isIdle_iff.mp (none piece among)
    · rw [← bytes_ofPieces_append, ← cut, ofPieces_pieces]

/-- The last busy piece of a path is the one in which the path ends. -/
theorem getLast?_busy_eq_some :
    p.busy.getLast? = some name ↔ isIdle name = false ∧ slash ∉ name ∧ p.EndsIn name := by
  -- The last busy piece is found from the end of the pieces.
  rw [busy, List.getLast?_filter, List.find?_eq_some_iff_append]
  constructor
  · rintro ⟨counts, idle, before, cut, none⟩
    have cut : p.pieces = before.reverse ++ name :: idle.reverse := by
      rw [← List.reverse_reverse p.pieces, cut]
      simp
    have slashless : slash ∉ name := slashless_of_mem_pieces (p := p) (by simp [cut])
    refine ⟨by simpa using counts, slashless,
      (endsIn_iff_pieces slashless).mpr ⟨before.reverse, idle.reverse, cut, ?_⟩⟩
    intro piece among
    simpa using none piece (List.mem_reverse.mp among)
  · rintro ⟨counts, slashless, ends⟩
    obtain ⟨before, idle, cut, none⟩ := (endsIn_iff_pieces slashless).mp ends
    refine ⟨by simp [counts], idle.reverse, before.reverse, by simp [cut], ?_⟩
    intro piece among
    simp [none piece (List.mem_reverse.mp among)]

/-- **The last component of a path is the ordinary name in which it ends.** -/
theorem fileName?_eq_some : p.fileName? = some name ↔ name.Ordinary ∧ p.EndsIn name := by
  rw [fileName?_eq, Option.filter_eq_some_iff, getLast?_busy_eq_some, decide_eq_true_iff]
  constructor
  · rintro ⟨⟨counts, slashless, ends⟩, down⟩
    have counts : ¬ (name = [] ∨ name = here) := by
      rw [← isIdle_iff, counts]
      exact Bool.false_ne_true
    rw [not_or] at counts
    exact ⟨⟨counts.1, slashless, counts.2, down⟩, ends⟩
  · rintro ⟨ordinary, ends⟩
    exact ⟨⟨busy_of_ordinary ordinary, ordinary.slashless, ends⟩, ordinary.ne_above⟩

/-! ## Extensions -/

section

variable {extension : Bytes}

theorem ne_dot_of_mem_reverse (dotless : dot ∉ name) :
    ∀ b ∈ name.reverse, decide (b ≠ dot) = true := by
  intro b among
  rw [decide_eq_true_iff]
  rintro rfl
  exact dotless (List.mem_reverse.mp among)

theorem nameExtension?_of_dotless (dotless : dot ∉ name) : nameExtension? name = none := by
  rw [nameExtension?, List.takeWhile_eq_self_iff.mpr (ne_dot_of_mem_reverse dotless),
    List.reverse_reverse, if_neg (by omega)]

/-- What follows the last dot is the extension, unless the name begins with that dot. -/
theorem nameExtension?_append (stem : Bytes) (dotless : dot ∉ extension) :
    nameExtension? (stem ++ dot :: extension) = if stem = [] then none else some extension := by
  have taken : ((stem ++ dot :: extension).reverse.takeWhile (· ≠ dot)).reverse = extension := by
    rw [List.reverse_append, List.reverse_cons, List.append_assoc,
      List.takeWhile_append_of_pos (ne_dot_of_mem_reverse dotless), List.singleton_append,
      List.takeWhile_cons_of_neg (by simp), List.append_nil, List.reverse_reverse]
  rw [nameExtension?, taken, List.length_append, List.length_cons]
  by_cases given : stem = []
  · simp [given]
  · have some := List.length_pos_iff.mpr given
    rw [if_pos (by omega), if_neg given]

theorem nameExtension?_eq_some : nameExtension? name = some extension ↔
    dot ∉ extension ∧ ∃ stem, stem ≠ [] ∧ name = stem ++ dot :: extension := by
  constructor
  · intro found
    by_cases among : dot ∈ name
    · obtain ⟨after, before, cut, dotless⟩ :=
        List.eq_append_cons_of_mem (List.mem_reverse.mpr among)
      have whole : name = before.reverse ++ dot :: after.reverse := by
        rw [← List.reverse_reverse name, cut]
        simp
      have dotless : dot ∉ after.reverse := by simpa using dotless
      rw [whole, nameExtension?_append _ dotless] at found
      split at found
      · cases found
      next given =>
        obtain rfl := Option.some.inj found
        exact ⟨dotless, _, given, whole⟩
    · rw [nameExtension?_of_dotless among] at found
      cases found
  · rintro ⟨dotless, stem, given, rfl⟩
    rw [nameExtension?_append stem dotless, if_neg given]

end

end Path

namespace Preferences

open BattleAdvisor.Path (slash dot here)

variable {preferences : Preferences} {p q : Path}

/-- Whether a path is selected depends on the last of its busy pieces. -/
theorem selects_of_busy (same : p.busy = q.busy) :
    preferences.selects p = preferences.selects q := by
  rw [selects, selects, Path.extension?, Path.extension?, Path.fileName?_eq, Path.fileName?_eq,
    same]

theorem dot_mem_encode {text : String} : dot ∈ Utf8.encode text ↔ '.' ∈ text.toList :=
  Utf8.mem_encode_iff (by decide)

/-- A path is selected by the name in which it ends. -/
theorem selects_eq_true : preferences.selects p = true ↔
    '.' ∉ preferences.fileExtension.toList ∧ ∃ stem : Bytes, stem ≠ [] ∧
      Name.Ordinary (stem ++ dot :: Utf8.encode preferences.fileExtension) ∧
      p.EndsIn (stem ++ dot :: Utf8.encode preferences.fileExtension) := by
  rw [selects, decide_eq_true_iff, ← dot_mem_encode]
  simp only [Path.extension?, Option.bind_eq_some_iff, Utf8.decode?_eq_some,
    Path.nameExtension?_eq_some, Path.fileName?_eq_some]
  constructor
  · rintro ⟨_, ⟨name, ⟨ordinary, ends⟩, dotless, stem, given, rfl⟩, rfl⟩
    exact ⟨dotless, stem, given, ordinary, ends⟩
  · rintro ⟨dotless, stem, given, ordinary, ends⟩
    exact ⟨_, ⟨_, ⟨ordinary, ends⟩, dotless, stem, given, rfl⟩, rfl⟩

/-- A file of which the only dot comes first has no extension. -/
theorem selects_hidden {hidden : Bytes} (ordinary : Name.Ordinary (dot :: hidden))
    (dotless : dot ∉ hidden) (ends : p.EndsIn (dot :: hidden)) :
    preferences.selects p = false := by
  have none : Path.nameExtension? (dot :: hidden) = none :=
    (Path.nameExtension?_append [] dotless).trans (if_pos rfl)
  rw [selects, Path.extension?, Path.fileName?_eq_some.mpr ⟨ordinary, ends⟩, Option.bind_some,
    none]
  rfl

/-- **Paths of data files.** A path is selected just if it ends in an ordinary name that is made of
something, a dot and the extension, and the extension has no dot. More slashes and pieces `.` make
no difference at the end of a path or at one of its slashes. A name of which the only dot comes
first is not selected, and nothing is if the extension has a dot. -/
theorem selects_by_name (preferences : Preferences) :
    (∀ p : Path, preferences.selects p = true ↔
      '.' ∉ preferences.fileExtension.toList ∧ ∃ stem : Bytes, stem ≠ [] ∧
        Name.Ordinary (stem ++ dot :: Utf8.encode preferences.fileExtension) ∧
        p.EndsIn (stem ++ dot :: Utf8.encode preferences.fileExtension)) ∧
    (∀ bytes : Bytes,
      preferences.selects ⟨bytes ++ [slash]⟩ = preferences.selects ⟨bytes⟩ ∧
      preferences.selects ⟨bytes ++ slash :: here⟩ = preferences.selects ⟨bytes⟩) ∧
    (∀ first second : Bytes,
      preferences.selects ⟨first ++ slash :: slash :: second⟩ =
        preferences.selects ⟨first ++ slash :: second⟩ ∧
      preferences.selects ⟨first ++ slash :: (here ++ slash :: second)⟩ =
        preferences.selects ⟨first ++ slash :: second⟩) ∧
    (∀ (p : Path) (hidden : Bytes), Name.Ordinary (dot :: hidden) → dot ∉ hidden →
      p.EndsIn (dot :: hidden) → preferences.selects p = false) ∧
    ('.' ∈ preferences.fileExtension.toList → ∀ p, preferences.selects p = false) := by
  refine ⟨fun p => selects_eq_true, ?_, ?_, ?_, ?_⟩
  · intro bytes
    constructor <;> apply selects_of_busy
    · rw [Path.busy_append, Path.busy_nil, List.append_nil]
    · rw [Path.busy_append, Path.busy_here, List.append_nil]
  · intro first second
    constructor <;> apply selects_of_busy
    · rw [Path.busy_append, Path.busy_slash, Path.busy_append]
    · rw [Path.busy_append, Path.busy_append here, Path.busy_here, List.nil_append,
        Path.busy_append]
  · intro p hidden ordinary dotless ends
    exact selects_hidden ordinary dotless ends
  · intro dotted p
    rw [← Bool.not_eq_true, selects_eq_true]
    rintro ⟨dotless, -⟩
    exact dotless dotted

/-- The usual preferences with an extension that has a dot. -/
def packed : Preferences :=
  { usual with fileExtension := "tar.gz" }

/-- A name that is no text, a hidden file, and an extension that no name has. -/
theorem selects_oddNames :
    let odd : Path :=
      ⟨Utf8.encode "data//" ++ ([0xFF] ++ Utf8.encode ".json") ++ Utf8.encode "/.//"⟩
    let hidden := Path.ofString "data/.json/."
    usual.selects odd = true ∧
    (Name.Ordinary (Utf8.encode ".json") ∧ dot ∉ Utf8.encode "json" ∧
      hidden.EndsIn (Utf8.encode ".json") ∧ usual.selects hidden = false) ∧
    '.' ∈ packed.fileExtension.toList ∧
      packed.selects (Path.ofString "data/moves.tar.gz") = false := by
  intro odd hidden
  obtain ⟨named, -, -, unnamed, -⟩ := selects_by_name usual
  have selected : usual.selects odd = true := by
    refine (named odd).mpr ⟨by decide, [0xFF], by decide, ?_, ?_⟩
    · exact ⟨by decide, by decide, by decide, by decide⟩
    · exact ⟨Utf8.encode "data//", [here, [], []], .inr (by decide), by decide, by decide⟩
  have ordinary : Name.Ordinary (Utf8.encode ".json") :=
    ⟨by decide, by decide, by decide, by decide⟩
  have dotless : dot ∉ Utf8.encode "json" := by decide
  have ends : hidden.EndsIn (Utf8.encode ".json") :=
    ⟨Utf8.encode "data/", [here], .inr (by decide), by decide, by decide⟩
  have dotted : '.' ∈ packed.fileExtension.toList := by decide
  exact ⟨selected,
    ⟨ordinary, dotless, ends, unnamed hidden (Utf8.encode "json") ordinary dotless ends⟩,
    dotted, (selects_by_name packed).2.2.2.2 dotted _⟩

end Preferences

end BattleAdvisor
