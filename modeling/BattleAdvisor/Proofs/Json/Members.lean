import BattleAdvisor.Proofs.Json.Spelling
import Mathlib.Data.List.Induction
import Mathlib.Data.String.Basic

/-!
# Members in ascending order

`Members.gather` puts the members of a text one after another. What is gathered depends, for each
key, only on the last member with that key.

Main results: `Members.ascending_gather`, `Members.lookup_gather` and `Members.ext_of_lookup`.
-/

namespace BattleAdvisor.Json.Members

/-- The keys ascend, so that no two of them are equal. -/
def Ascending (members : Members) : Prop :=
  members.Pairwise fun first second => first.1 < second.1

/-! ## Putting one member -/

theorem mem_put {key : String} {value : Value} {members : Members} {member : String × Value}
    (h : member ∈ put key value members) : member = (key, value) ∨ member ∈ members := by
  induction members with
  | nil => exact .inl (List.mem_singleton.mp h)
  | cons first rest ih =>
    obtain ⟨k, v⟩ := first
    rw [put] at h
    split at h
    · exact List.mem_cons.mp h
    split at h
    · rcases List.mem_cons.mp h with new | old
      · exact .inl new
      · exact .inr (List.mem_cons_of_mem _ old)
    · rcases List.mem_cons.mp h with first | later
      · exact .inr (first ▸ List.mem_cons_self)
      · rcases ih later with new | old
        · exact .inl new
        · exact .inr (List.mem_cons_of_mem _ old)

theorem ascending_put {key : String} {value : Value} {members : Members}
    (ascending : Ascending members) : Ascending (put key value members) := by
  induction members with
  | nil => exact List.pairwise_singleton _ _
  | cons first rest ih =>
    obtain ⟨k, v⟩ := first
    obtain ⟨least, others⟩ := List.pairwise_cons.mp ascending
    rw [put]
    by_cases before : key < k
    · rw [if_pos before]
      refine List.pairwise_cons.mpr ⟨fun member among => ?_, ascending⟩
      rcases List.mem_cons.mp among with rfl | among
      · exact before
      · exact before.trans (least member among)
    rw [if_neg before]
    by_cases same : key = k
    · subst same
      rw [if_pos rfl]
      exact List.pairwise_cons.mpr ⟨least, others⟩
    · rw [if_neg same]
      refine List.pairwise_cons.mpr ⟨fun member among => ?_, ih others⟩
      rcases mem_put among with rfl | among
      · exact lt_of_le_of_ne (not_lt.mp before) (Ne.symm same)
      · exact least member among

theorem lookup_cons (key : String) (value : Value) (rest : Members) (k : String) :
    List.lookup k ((key, value) :: rest) = if k = key then some value else rest.lookup k := by
  by_cases same : k = key
  · rw [if_pos same, same, List.lookup_cons_self]
  · rw [if_neg same, List.lookup_cons, beq_eq_false_iff_ne.mpr same]

theorem lookup_put (key : String) (value : Value) (members : Members) (k : String) :
    (put key value members).lookup k = if k = key then some value else members.lookup k := by
  induction members with
  | nil => exact lookup_cons key value [] k
  | cons first rest ih =>
    obtain ⟨k', v⟩ := first
    rw [put]
    by_cases before : key < k'
    · rw [if_pos before, lookup_cons]
    rw [if_neg before]
    by_cases same : key = k'
    · subst same
      rw [if_pos rfl, lookup_cons, lookup_cons]
      by_cases found : k = key <;> simp [found]
    · rw [if_neg same, lookup_cons, lookup_cons, ih]
      by_cases found : k = k'
      · subst found
        rw [if_pos rfl, if_pos rfl, if_neg (Ne.symm same)]
      · rw [if_neg found, if_neg found]

/-- Members in ascending order are found by their keys. -/
theorem lookup_eq_some {members : Members} (ascending : Ascending members) {key : String}
    {value : Value} : members.lookup key = some value ↔ (key, value) ∈ members := by
  induction members with
  | nil => simp
  | cons first rest ih =>
    obtain ⟨k, v⟩ := first
    obtain ⟨least, others⟩ := List.pairwise_cons.mp ascending
    rw [lookup_cons, List.mem_cons, Prod.mk.injEq]
    by_cases same : key = k
    · subst same
      have later : (key, value) ∉ rest := fun among =>
        lt_irrefl key (least (key, value) among)
      simp [later, eq_comm]
    · simp [same, ih others]

/-- Members in ascending order are the same if they have the same values for all keys. -/
theorem ext_of_lookup {members others : Members} (ascending : Ascending members)
    (ascending' : Ascending others) (same : ∀ key, members.lookup key = others.lookup key) :
    members = others := by
  have distinct : ∀ {all : Members}, Ascending all → all.Nodup := fun ascending =>
    ascending.imp fun before => by
      rintro rfl
      exact lt_irrefl _ before
  have perm : members.Perm others := by
    refine (List.perm_ext_iff_of_nodup (distinct ascending) (distinct ascending')).mpr ?_
    rintro ⟨key, value⟩
    rw [← lookup_eq_some ascending, ← lookup_eq_some ascending', same]
  refine perm.eq_of_pairwise ?_ ascending ascending'
  intro first second _ _ before after
  exact absurd after (lt_asymm before)

/-! ## Gathering members -/

@[simp]
theorem gather_concat (members : Members) (last : String × Value) :
    gather (members ++ [last]) = put last.1 last.2 (gather members) := by
  rw [gather, List.foldl_append]
  rfl

theorem ascending_gather (members : Members) : Ascending members.gather := by
  induction members using List.reverseRecOn with
  | nil => exact .nil
  | append_singleton members last ih =>
    rw [gather_concat]
    exact ascending_put ih

/-- The last of several values for a key counts. -/
theorem lookup_gather (members : Members) (key : String) :
    members.gather.lookup key =
      ((members.filter fun member => member.1 = key).getLast?).map Prod.snd := by
  induction members using List.reverseRecOn with
  | nil => rfl
  | append_singleton members last ih =>
    rw [gather_concat, lookup_put, List.filter_append, ih]
    by_cases h : key = last.1
    · simp [h]
    · simp [h, Ne.symm h]

theorem lookup_gather_isSome (members : Members) (key : String) :
    (members.gather.lookup key).isSome ↔ key ∈ members.map Prod.fst := by
  rw [lookup_gather, Option.isSome_map, List.getLast?_isSome, ne_eq, List.filter_eq_nil_iff]
  simp

/-- What is gathered depends on the members with one key alone, for each key. -/
theorem gather_congr {members others : Members}
    (same : ∀ key, members.filter (fun member => member.1 = key) =
      others.filter (fun member => member.1 = key)) : members.gather = others.gather := by
  apply ext_of_lookup (ascending_gather members) (ascending_gather others)
  intro key
  rw [lookup_gather, lookup_gather, same]

end BattleAdvisor.Json.Members
