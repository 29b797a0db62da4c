import BattleAdvisor.Proofs.Json.Members
import BattleAdvisor.Proofs.Json.SpelledValue

/-!
# Other spellings of a value

`Respelled` relates two spellings that differ in nothing but gaps, the pieces of strings and keys,
and the order of members with different keys, at any depth.

**Theorem (`Respelled.value?_eq`).** They have the same value, or both have none.

Of the order of members only the order of those with one key matters: `Reordered` says that for
each key the members with it are the same, in the same order, and what is gathered depends on
nothing else.
-/

namespace BattleAdvisor.Json

open Spelling

/-! ## The order of members -/

/-- The members with a key, or those whose keys have a surrogate without its partner. -/
def Spelling.membersOf (key? : Option String) (members : List Member) : List Member :=
  members.filter fun member => Piece.text? member.1.core = key?

/-- The members come in another order, except for those that have one key. -/
def Reordered (members others : List Member) : Prop :=
  ∀ key?, membersOf key? members = membersOf key? others

theorem Reordered.symm {members others : List Member} (h : Reordered members others) :
    Reordered others members :=
  fun key? => (h key?).symm

theorem Reordered.mem {members others : List Member} (h : Reordered members others)
    {member : Member} (among : member ∈ members) : member ∈ others := by
  have found : member ∈ membersOf (Piece.text? member.1.core) members :=
    List.mem_filter.mpr ⟨among, decide_eq_true rfl⟩
  rw [h] at found
  exact List.mem_of_mem_filter found

/-- A member spells this key and this value. -/
def Spelling.SpellsMember (member : Member) (pair : String × Value) : Prop :=
  Piece.text? member.1.core = some pair.1 ∧ member.2.core.value? = some pair.2

theorem Spelling.SpellsMember.unique : Relator.RightUnique SpellsMember := by
  rintro member ⟨key, value⟩ ⟨key', value'⟩ ⟨named, spelled⟩ ⟨named', spelled'⟩
  obtain rfl : key = key' := Option.some.inj (named.symm.trans named')
  obtain rfl : value = value' := Option.some.inj (spelled.symm.trans spelled')
  rfl

theorem Spelling.keys_eq {members : List Member} {all : Members}
    (each : List.Forall₂ SpellsMember members all) : keys members = all.map Prod.fst := by
  induction each with
  | nil => rfl
  | cons first _ ih => rw [keys, List.filterMap_cons, first.1, List.map_cons, ← ih, keys]

/-- The members with a key spell the pairs with that key. -/
theorem forall₂_membersOf {members : List Member} {all : Members}
    (each : List.Forall₂ SpellsMember members all) (key : String) :
    List.Forall₂ SpellsMember (membersOf (some key) members)
      (all.filter fun pair => pair.1 = key) := by
  refine List.rel_filter ?_ each
  intro member pair spelled
  simp [spelled.1]

/-- Members in another order have the same values. -/
theorem Reordered.membersValue? {members others : List Member} (h : Reordered members others)
    {all : Members} (spelled : Spelling.membersValue? members = some all) :
    ∃ all', Spelling.membersValue? others = some all' ∧ all'.gather = all.gather := by
  have each : List.Forall₂ SpellsMember members all := membersValue?_eq_some.mp spelled
  have pairs : ∀ member ∈ others, ∃ pair, SpellsMember member pair := by
    intro member among
    obtain ⟨found, _⟩ := (List.forall₂_and_left members all).mp
      (each.imp fun _ pair h => And.intro (⟨pair, h⟩ : ∃ pair, SpellsMember _ pair) h)
    exact found member (h.symm.mem among)
  obtain ⟨all', each'⟩ := exists_forall₂ pairs
  refine ⟨all', membersValue?_eq_some.mpr each', Members.gather_congr fun key => ?_⟩
  have mine := forall₂_membersOf each' key
  rw [← h (some key)] at mine
  exact List.right_unique_forall₂' SpellsMember.unique mine (forall₂_membersOf each key)

/-! ## Spellings that differ in form alone -/

/-- Two spellings differ in gaps, in the pieces of strings and keys, and in the order of members
with different keys. -/
inductive Respelled : Spelling → Spelling → Prop
  | refl (spelling : Spelling) : Respelled spelling spelling
  | trans {first second third : Spelling} :
      Respelled first second → Respelled second third → Respelled first third
  | string {pieces others : List Piece} (same : Piece.text? pieces = Piece.text? others) :
      Respelled (.string pieces) (.string others)
  /-- The gap in an empty array. -/
  | arrayGap (gap other : Gap) (items : List (Spaced Spelling)) :
      Respelled (.array gap items) (.array other items)
  /-- An item, and the gaps around it. -/
  | item {gap : Gap} {before behind : List (Spaced Spelling)} {item other : Spaced Spelling}
      (respelled : Respelled item.core other.core) :
      Respelled (.array gap (before ++ item :: behind)) (.array gap (before ++ other :: behind))
  /-- The gap in an empty object. -/
  | objectGap (gap other : Gap) (members : List Member) :
      Respelled (.object gap members) (.object other members)
  /-- The key or the value of a member, and the gaps around them. -/
  | member {gap : Gap} {before behind : List Member} {member other : Member}
      (same : Piece.text? member.1.core = Piece.text? other.1.core)
      (respelled : Respelled member.2.core other.2.core) :
      Respelled (.object gap (before ++ member :: behind))
        (.object gap (before ++ other :: behind))
  /-- The order of members. -/
  | reorder {gap : Gap} {members others : List Member} (reordered : Reordered members others) :
      Respelled (.object gap members) (.object gap others)

theorem itemsValue?_congr {before behind : List (Spaced Spelling)} {item other : Spaced Spelling}
    (same : item.core.value? = other.core.value?) :
    itemsValue? (before ++ item :: behind) = itemsValue? (before ++ other :: behind) := by
  induction before with
  | nil => simp only [List.nil_append, itemsValue?, same]
  | cons first before ih => simp only [List.cons_append, itemsValue?, ih]

theorem membersValue?_congr {before behind : List Member} {member other : Member}
    (named : Piece.text? member.1.core = Piece.text? other.1.core)
    (same : member.2.core.value? = other.2.core.value?) :
    membersValue? (before ++ member :: behind) = membersValue? (before ++ other :: behind) := by
  induction before with
  | nil => simp only [List.nil_append, membersValue?, named, same]
  | cons first before ih => simp only [List.cons_append, membersValue?, ih]

/-- What is spelled does not depend on gaps, pieces, and the order of members. -/
theorem Respelled.value?_eq {spelling other : Spelling} (h : Respelled spelling other) :
    spelling.value? = other.value? := by
  induction h with
  | refl => rfl
  | trans _ _ first second => exact first.trans second
  | string same => rw [value?, value?, same]
  | arrayGap => rw [value?, value?]
  | item _ ih => rw [value?, value?, itemsValue?_congr ih]
  | objectGap => rw [value?, value?]
  | member same _ ih => rw [value?, value?, membersValue?_congr same ih]
  | @reorder gap members others reordered =>
    rw [value?, value?]
    cases spelled : Spelling.membersValue? members with
    | some all =>
      obtain ⟨all', spelled', same⟩ := reordered.membersValue? spelled
      rw [spelled', Option.map_some, Option.map_some, same]
    | none =>
      cases spelled' : Spelling.membersValue? others with
      | none => rfl
      | some all' =>
        obtain ⟨all, found, -⟩ := reordered.symm.membersValue? spelled'
        rw [spelled] at found
        cases found

/-- The number of arrays and objects that are open at once does not depend on them either. -/
theorem Respelled.depth_eq {spelling other : Spelling} (h : Respelled spelling other) :
    spelling.depth = other.depth := by
  induction h with
  | refl => rfl
  | trans _ _ first second => exact first.trans second
  | string => rfl
  | arrayGap => rw [depth, depth]
  | @item gap before behind item other _ ih =>
    rw [depth, depth]
    congr 1
    induction before with
    | nil => simp only [List.nil_append, itemsDepth, ih]
    | cons first before more => simp only [List.cons_append, itemsDepth, more]
  | objectGap => rw [depth, depth]
  | @member gap before behind member other _ _ ih =>
    rw [depth, depth]
    congr 1
    induction before with
    | nil => simp only [List.nil_append, membersDepth, ih]
    | cons first before more => simp only [List.cons_append, membersDepth, more]
  | reorder reordered =>
    rw [depth, depth]
    congr 1
    refine le_antisymm ?_ ?_
    · exact membersDepth_le.mpr fun member among =>
        membersDepth_le.mp le_rfl member (reordered.mem among)
    · exact membersDepth_le.mpr fun member among =>
        membersDepth_le.mp le_rfl member (reordered.symm.mem among)

/-- Another spelling means the same. -/
theorem Respelled.means {spelling other : Spelling} (h : Respelled spelling other) {depth : Nat}
    {value : Value} (means : spelling.Means depth value) : other.Means depth value :=
  ⟨h.value?_eq ▸ means.1, h.depth_eq ▸ means.2⟩

end BattleAdvisor.Json
