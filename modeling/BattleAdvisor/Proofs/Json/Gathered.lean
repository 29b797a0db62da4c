import BattleAdvisor.Proofs.Json.Canonical

/-!
# Members in any order

The objects of a request have their members in the order in which they were built, and not in
ascending order of keys. What is written for such a value is still read: the reader gathers the
members of each object (`Value.gathered`).

**Theorem (`Value.Legible.parse_write`).** What is written for a value that is not nested too deeply
and whose numbers are read from their own text is read as the value with all members gathered.
-/

namespace BattleAdvisor.Json

/-- Gathering members with different keys changes nothing of what is found. -/
theorem Members.lookup_gather_of_distinct {members : Members}
    (distinct : (members.map Prod.fst).Nodup) (key : String) :
    members.gather.lookup key = members.lookup key := by
  induction members using List.reverseRecOn with
  | nil => rfl
  | append_singleton members last ih =>
    rw [List.map_append, List.nodup_append] at distinct
    obtain ⟨before, -, apart⟩ := distinct
    rw [gather_concat, lookup_put, ih before, List.lookup_append, lookup_cons]
    by_cases same : key = last.1
    · have absent : members.lookup key = none := by
        rw [List.lookup_eq_none_iff]
        intro member among
        have other := apart member.1 (List.mem_map_of_mem among) last.1 (by simp)
        simpa [same] using other.symm
      rw [if_pos same, if_pos same, absent, Option.none_or]
    · rw [if_neg same, if_neg same]
      simp

theorem Members.gather_single (key : String) (value : Value) :
    Members.gather [(key, value)] = [(key, value)] := rfl

/-- Two members are gathered in the order of their keys. -/
theorem Members.gather_pair {key key' : String} (order : key' < key) (value value' : Value) :
    Members.gather [(key, value), (key', value')] = [(key', value'), (key, value)] := by
  simp only [Members.gather, List.foldl_cons, List.foldl_nil, Members.put, if_pos order]

namespace Value

mutual

/-- The value with the members of each object gathered, at every depth. -/
def gathered : Value → Value
  | .array items => .array (itemsGathered items)
  | .object members => .object (Members.gather (membersGathered members))
  | value => value

/-- The items with the members of each object gathered. -/
def itemsGathered : List Value → List Value
  | [] => []
  | item :: rest => item.gathered :: itemsGathered rest

/-- The members with the members of each object in them gathered. -/
def membersGathered : List (String × Value) → List (String × Value)
  | [] => []
  | (key, value) :: rest => (key, value.gathered) :: membersGathered rest

end

theorem itemsGathered_eq_map (items : List Value) :
    itemsGathered items = items.map gathered := by
  induction items with
  | nil => rfl
  | cons item rest ih => rw [itemsGathered, ih, List.map_cons]

theorem membersGathered_eq_map (members : Members) :
    membersGathered members = members.map fun member => (member.1, member.2.gathered) := by
  induction members with
  | nil => rfl
  | cons member rest ih => rw [membersGathered, ih, List.map_cons]

@[simp] theorem gathered_null : Value.null.gathered = .null := by
  simp [gathered]

@[simp] theorem gathered_bool (b : Bool) : (Value.bool b).gathered = .bool b := by
  simp [gathered]

@[simp] theorem gathered_string (s : String) : (Value.string s).gathered = .string s := by
  simp [gathered]

@[simp] theorem gathered_array (items : List Value) :
    (Value.array items).gathered = .array (items.map gathered) := by
  rw [gathered, itemsGathered_eq_map]

@[simp] theorem gathered_object (members : Members) :
    (Value.object members).gathered =
      .object (Members.gather (members.map fun member => (member.1, member.2.gathered))) := by
  rw [gathered, membersGathered_eq_map]

/-- What is found in a value with all members gathered, if the keys are different. -/
theorem member?_gathered {members : Members} (distinct : (members.map Prod.fst).Nodup)
    (key : String) :
    (Value.object members).gathered.member? key = (members.lookup key).map gathered := by
  have keys : (members.map fun member => (member.1, member.2.gathered)).map Prod.fst =
      members.map Prod.fst := by
    simp
  rw [gathered_object, member?, Members.lookup_gather_of_distinct (keys ▸ distinct)]
  clear distinct keys
  induction members with
  | nil => rfl
  | cons member members ih =>
    rw [List.map_cons, Members.lookup_cons, ih, Members.lookup_cons]
    split <;> rfl

/-- A value that opens at most this number of arrays and objects at once, with numbers that are read
from their own text. The members of its objects are in any order. -/
inductive Legible : (depth : Nat) → Value → Prop
  | null (depth : Nat) : Legible depth .null
  | bool (depth : Nat) (b : Bool) : Legible depth (.bool b)
  | number (depth : Nat) {x : Number} (readsBack : x.ReadsBack) : Legible depth (.number x)
  | string (depth : Nat) (s : String) : Legible depth (.string s)
  | array {depth : Nat} {items : List Value} (each : ∀ item ∈ items, Legible depth item) :
      Legible (depth + 1) (.array items)
  | object {depth : Nat} {members : Members} (each : ∀ member ∈ members, Legible depth member.2) :
      Legible (depth + 1) (.object members)

end Value

open Spelling

/-- The text of the value spells the value with all members gathered. -/
def ShownBy (depth : Nat) (value : Value) (spelling : Spelling) : Prop :=
  spelling.chars = value.chars ∧ spelling.Means depth value.gathered

theorem exists_shownBy_array {depth : Nat} {items : List Value}
    (each : ∀ item ∈ items, ∃ spelling, ShownBy depth item spelling) :
    ∃ spelling, ShownBy (depth + 1) (.array items) spelling := by
  obtain ⟨parts, all⟩ : ∃ parts : List (Spaced Spelling),
      List.Forall₂ (fun item part => part = .tight part.core ∧ ShownBy depth item part.core)
        items parts := by
    apply exists_forall₂
    intro item among
    obtain ⟨spelling, shown⟩ := each item among
    exact ⟨.tight spelling, rfl, shown⟩
  refine ⟨.array .none parts, arrayChars_written (all.imp fun _ _ h => ⟨h.1, h.2.1⟩), ?_⟩
  rw [Value.gathered_array]
  apply means_array
  rw [List.forall₂_map_right_iff]
  exact List.Forall₂.flip (all.imp fun _ _ h => h.2.2)

theorem exists_shownBy_object {depth : Nat} {members : Members}
    (each : ∀ member ∈ members, ∃ spelling, ShownBy depth member.2 spelling) :
    ∃ spelling, ShownBy (depth + 1) (.object members) spelling := by
  obtain ⟨parts, all⟩ : ∃ parts : List Member,
      List.Forall₂ (fun pair part => ShowsMember pair part ∧
        Piece.text? part.1.core = some pair.1 ∧ part.2.core.Means depth pair.2.gathered)
        members parts := by
    apply exists_forall₂
    intro member among
    obtain ⟨spelling, shown, means⟩ := each member among
    obtain ⟨pieces, quoted, named⟩ := exists_pieces_of_stringText member.1
    exact ⟨(.tight pieces, .tight spelling), ⟨rfl, quoted, shown⟩, named, means⟩
  refine ⟨.object .none parts, objectChars_written (all.imp fun _ _ h => h.1), ?_⟩
  rw [Value.gathered_object]
  apply means_object
  rw [List.forall₂_map_right_iff]
  exact List.Forall₂.flip (all.imp fun _ _ h => h.2)

namespace Value.Legible

variable {depth : Nat} {value : Value}

/-- An object with one member. -/
theorem single (h : value.Legible depth) (key : String) :
    (Value.object [(key, value)]).Legible (depth + 1) :=
  .object (by simpa using h)

theorem exists_shownBy (h : value.Legible depth) : ∃ spelling, ShownBy depth value spelling := by
  induction h with
  | null depth => exact ⟨.null, rfl, rfl, Nat.zero_le _⟩
  | bool depth b =>
    refine ⟨.bool b, ?_, rfl, Nat.zero_le _⟩
    cases b <;> rfl
  | number depth readsBack =>
    obtain ⟨n, text, number⟩ := readsBack.exists_numeral
    refine ⟨.number n, text, ?_, Nat.zero_le _⟩
    rw [value?, number]
    rfl
  | string depth s =>
    obtain ⟨pieces, text, spelled⟩ := exists_pieces_of_stringText s
    refine ⟨.string pieces, text, ?_, Nat.zero_le _⟩
    rw [value?, spelled, gathered_string]
    rfl
  | array _ ih => exact exists_shownBy_array ih
  | object _ ih => exact exists_shownBy_object ih

/-- What is written for a legible value is read as the value with all members gathered. -/
theorem parse_write (h : value.Legible nestingLimit) :
    Value.parse value.write = .ok value.gathered := by
  obtain ⟨spelling, text, means⟩ := h.exists_shownBy
  refine Value.parse_eq_ok.mpr ⟨spelling, ⟨.none, .none, ?_⟩, means⟩
  rw [Value.write, String.toList_ofList, text]
  simp [Gap.none]

/-- Legible values that are written as the same text differ in the order of members only. -/
theorem gathered_eq {other : Value} (h : value.Legible nestingLimit)
    (h' : other.Legible nestingLimit) (same : value.write = other.write) :
    value.gathered = other.gathered := by
  have read := h.parse_write
  rw [same, h'.parse_write] at read
  exact (Except.ok.inj read).symm

end Value.Legible

end BattleAdvisor.Json
