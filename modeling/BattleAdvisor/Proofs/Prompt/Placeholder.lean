import BattleAdvisor.Prompt.Placeholder
import Mathlib.Data.List.Nodup

/-!
# What a substitution does

`IsPlaceholder key text` says what a placeholder is, and `Substituted values text out` what it means
to go through a text once, from left to right, and to put the value for each placeholder: what is
put is not looked at again, and everything else is copied.

* `placeholderLength?_eq_some`: the search for a placeholder at the front of a text finds it, for
  any key, and at any place at most one length is a placeholder.
* `substituted_substitute`: `substitute` does what `Substituted` says.
* `Substituted.unique`: it is the only text that does, if no two of the keys have placeholders at
  one place.
-/

namespace BattleAdvisor.Prompt

open BattleAdvisor.Text

/-- The text consists of blanks. -/
def Blanks (text : List Char) : Prop :=
  ∀ c ∈ text, isBlank c = true

instance (text : List Char) : Decidable (Blanks text) :=
  List.decidableBAll _ text

theorem Blanks.append {text others : List Char} (first : Blanks text) (second : Blanks others) :
    Blanks (text ++ others) := by
  intro c h
  rcases List.mem_append.mp h with h | h
  · exact first c h
  · exact second c h

/-- A placeholder for a key: the key with blanks around it, between the opening and the closing. -/
def IsPlaceholder (key text : List Char) : Prop :=
  ∃ before after, Blanks before ∧ Blanks after ∧
    text = opening ++ (before ++ (key ++ (after ++ closing)))

/-! ## Finding a placeholder -/

theorem closingLength?_eq_some {text : List Char} {n : Nat} :
    closingLength? text = some n ↔
      ∃ after, Blanks after ∧ after ++ closing <+: text ∧ n = after.length + closing.length := by
  induction text generalizing n with
  | nil => simp [closingLength?, closing]
  | cons c rest ih =>
    rw [closingLength?]
    by_cases blank : isBlank c = true
    · rw [if_pos blank, Option.map_eq_some_iff]
      constructor
      · rintro ⟨m, found, rfl⟩
        obtain ⟨after, blanks, starts, rfl⟩ := ih.mp found
        refine ⟨c :: after, ?_, ?_, ?_⟩
        · exact List.forall_mem_cons.mpr ⟨blank, blanks⟩
        · exact List.prefix_cons_inj c |>.mpr starts
        · rw [List.length_cons]
          omega
      · rintro ⟨after, blanks, starts, rfl⟩
        cases after with
        | nil =>
          have same : c = '\x7d' := (List.cons_prefix_cons.mp starts).1.symm
          exact absurd blank (by rw [same]; decide)
        | cons d after =>
          obtain ⟨-, others⟩ := List.cons_prefix_cons.mp starts
          have blanks : Blanks after := fun c h => blanks c (List.mem_cons_of_mem _ h)
          refine ⟨_, ih.mpr ⟨after, blanks, others, rfl⟩, ?_⟩
          rw [List.length_cons]
          omega
    · rw [if_neg blank]
      constructor
      · intro found
        split at found
        next starts =>
          cases found
          exact ⟨[], fun c h => absurd h List.not_mem_nil, List.isPrefixOf_iff_prefix.mp starts,
            (Nat.zero_add _).symm⟩
        next => cases found
      · rintro ⟨after, blanks, starts, rfl⟩
        cases after with
        | nil =>
          rw [List.nil_append] at starts
          rw [if_pos (List.isPrefixOf_iff_prefix.mpr starts), List.length_nil, Nat.zero_add]
        | cons d after =>
          obtain ⟨rfl, -⟩ := List.cons_prefix_cons.mp starts
          exact absurd (blanks d List.mem_cons_self) blank

/-- Behind blanks, a key that begins a text begins with the same blanks, unless it is blank
itself. -/
theorem blanks_of_prefix {before key text : List Char} (blanks : Blanks before)
    (nonempty : before ≠ []) (later : before ++ key <+: text) (now : key <+: text) :
    Blanks key := by
  induction key generalizing before text with
  | nil => exact fun c h => absurd h List.not_mem_nil
  | cons k key ih =>
    cases before with
    | nil => exact absurd rfl nonempty
    | cons b before =>
      cases text with
      | nil => exact absurd (List.prefix_nil.mp now) (List.cons_ne_nil _ _)
      | cons t text =>
        obtain ⟨front, later⟩ := List.cons_prefix_cons.mp later
        obtain ⟨same, now⟩ := List.cons_prefix_cons.mp now
        have first : isBlank k = true := by
          rw [same, ← front]
          exact blanks b List.mem_cons_self
        have others : Blanks before := fun c h => blanks c (List.mem_cons_of_mem _ h)
        have shifted : Blanks (before ++ [k]) :=
          others.append fun c h => List.mem_singleton.mp h ▸ first
        have rest : Blanks key :=
          ih shifted (List.append_ne_nil_of_right_ne_nil _ (List.cons_ne_nil _ _))
            (by rwa [List.append_assoc]) now
        exact List.forall_mem_cons.mpr ⟨first, rest⟩

/-- If a blank key fits at the front of a text, what follows it closes the placeholder as soon as
what follows a later fit does. -/
theorem closingLength?_of_blank_key {before key after text : List Char} (first : Blanks before)
    (second : Blanks key) (third : Blanks after)
    (starts : before ++ (key ++ (after ++ closing)) <+: text) :
    closingLength? (text.drop key.length) =
      some (before.length + (after.length + closing.length)) := by
  obtain ⟨others, rfl⟩ := starts
  let blanks := before ++ (key ++ after)
  have blank : Blanks blanks := first.append (second.append third)
  have long : key.length ≤ blanks.length := by
    simp only [blanks, List.length_append]
    omega
  have text : before ++ (key ++ (after ++ closing)) ++ others = blanks ++ (closing ++ others) := by
    simp only [blanks, List.append_assoc]
  rw [text, List.drop_append_of_le_length long]
  refine closingLength?_eq_some.mpr ⟨blanks.drop key.length, ?_, ⟨others, ?_⟩, ?_⟩
  · exact fun c h => blank c (List.mem_of_mem_drop h)
  · rw [List.append_assoc]
  · rw [List.length_drop]
    simp only [blanks, List.length_append]
    omega

/-- The text begins with blanks, the key, and what ends a placeholder, of this length together. -/
def BeginsBody (key text : List Char) (n : Nat) : Prop :=
  ∃ before after, Blanks before ∧ Blanks after ∧
    before ++ (key ++ (after ++ closing)) <+: text ∧
    n = before.length + (key.length + (after.length + closing.length))

/-- Where the key fits, it is taken, also if there may be blanks in front of it. -/
theorem beginsBody_append {key others : List Char} {n : Nat} :
    BeginsBody key (key ++ others) n ↔
      ∃ m, closingLength? others = some m ∧ key.length + m = n := by
  constructor
  · rintro ⟨before, after, first, second, starts, rfl⟩
    by_cases none : before = []
    · subst none
      have ends := (List.prefix_append_right_inj key).mp starts
      exact ⟨_, closingLength?_eq_some.mpr ⟨after, second, ends, rfl⟩, (Nat.zero_add _).symm⟩
    · have later : before ++ key <+: key ++ others := by
        refine List.IsPrefix.trans ?_ starts
        rw [← List.append_assoc]
        exact List.prefix_append _ _
      have blank := blanks_of_prefix first none later (List.prefix_append key others)
      have found := closingLength?_of_blank_key first blank second starts
      rw [List.drop_left] at found
      refine ⟨_, found, ?_⟩
      omega
  · rintro ⟨m, found, rfl⟩
    obtain ⟨after, blanks, starts, rfl⟩ := closingLength?_eq_some.mp found
    refine ⟨[], after, fun c h => absurd h List.not_mem_nil, blanks, ?_, (Nat.zero_add _).symm⟩
    exact (List.prefix_append_right_inj key).mpr starts

/-- Where the key does not fit, there is a blank in front of it. -/
theorem beginsBody_cons {key rest : List Char} {c : Char} (other : ¬ key <+: c :: rest) {n : Nat} :
    BeginsBody key (c :: rest) n ↔
      isBlank c = true ∧ ∃ m, BeginsBody key rest m ∧ m + 1 = n := by
  constructor
  · rintro ⟨before, after, first, second, starts, rfl⟩
    cases before with
    | nil => exact absurd ((List.prefix_append key _).trans starts) other
    | cons b before =>
      obtain ⟨rfl, later⟩ := List.cons_prefix_cons.mp starts
      have blanks : Blanks before := fun d h => first d (List.mem_cons_of_mem _ h)
      refine ⟨first b List.mem_cons_self, _, ⟨before, after, blanks, second, later, rfl⟩, ?_⟩
      rw [List.length_cons]
      omega
  · rintro ⟨blank, _, ⟨before, after, first, second, starts, rfl⟩, rfl⟩
    refine ⟨c :: before, after, List.forall_mem_cons.mpr ⟨blank, first⟩, second,
      (List.prefix_cons_inj c).mpr starts, ?_⟩
    rw [List.length_cons]
    omega

theorem bodyLength?_eq_some {key text : List Char} {n : Nat} :
    bodyLength? key text = some n ↔ BeginsBody key text n := by
  induction text generalizing n with
  | nil =>
    constructor
    · intro found
      rw [bodyLength?] at found
      split at found <;> cases found
    · rintro ⟨before, after, -, -, starts, -⟩
      simp [closing] at starts
  | cons c rest ih =>
    rw [bodyLength?]
    by_cases fits : key.isPrefixOf (c :: rest) = true
    · obtain ⟨others, whole⟩ := List.isPrefixOf_iff_prefix.mp fits
      rw [if_pos fits, Option.map_eq_some_iff, ← whole, List.drop_left, beginsBody_append]
    · have other : ¬ key <+: c :: rest := fun h => fits (List.isPrefixOf_iff_prefix.mpr h)
      rw [if_neg fits, beginsBody_cons other]
      by_cases blank : isBlank c = true
      · rw [if_pos blank, Option.map_eq_some_iff]
        simp only [ih, blank, true_and]
      · simp [blank]

/-- The search at the front of a text finds the placeholder there. -/
theorem placeholderLength?_eq_some {key text : List Char} {n : Nat} :
    placeholderLength? key text = some n ↔
      ∃ found, IsPlaceholder key found ∧ found <+: text ∧ n = found.length := by
  rw [placeholderLength?]
  by_cases opens : opening.isPrefixOf text = true
  · obtain ⟨body, rfl⟩ := List.isPrefixOf_iff_prefix.mp opens
    rw [if_pos opens, List.drop_left, Option.map_eq_some_iff]
    constructor
    · rintro ⟨m, found, rfl⟩
      obtain ⟨before, after, first, second, starts, rfl⟩ := bodyLength?_eq_some.mp found
      refine ⟨_, ⟨before, after, first, second, rfl⟩,
        (List.prefix_append_right_inj opening).mpr starts, ?_⟩
      simp only [List.length_append]
    · rintro ⟨_, ⟨before, after, first, second, rfl⟩, starts, rfl⟩
      refine ⟨_, bodyLength?_eq_some.mpr ⟨before, after, first, second,
        (List.prefix_append_right_inj opening).mp starts, rfl⟩, ?_⟩
      simp only [List.length_append]
  · rw [if_neg opens]
    constructor
    · intro found
      cases found
    · rintro ⟨_, ⟨before, after, -, -, rfl⟩, starts, -⟩
      exact absurd (List.isPrefixOf_iff_prefix.mpr ((List.prefix_append _ _).trans starts)) opens

/-- At any place at most one length is a placeholder for a key. -/
theorem IsPlaceholder.unique {key first second text : List Char} (h : IsPlaceholder key first)
    (starts : first <+: text) (h' : IsPlaceholder key second) (starts' : second <+: text) :
    first = second := by
  have found := placeholderLength?_eq_some.mpr ⟨first, h, starts, rfl⟩
  have found' := placeholderLength?_eq_some.mpr ⟨second, h', starts', rfl⟩
  have same : first.length = second.length := Option.some.inj (found.symm.trans found')
  exact (List.prefix_of_prefix_length_le starts starts' (Nat.le_of_eq same)).eq_of_length same

/-! ## Substitution -/

/-- The values for the keys, letter by letter. -/
abbrev letters (values : List (String × String)) : List (List Char × List Char) :=
  values.map fun (key, value) => (key.toList, value.toList)

/-- Some placeholder for one of the keys begins the text. -/
def Matches (values : List (String × String)) (text : List Char) : Prop :=
  ∃ key value found, (key, value) ∈ values ∧ IsPlaceholder key.toList found ∧ found <+: text

/-- Going through a text once, from left to right, puts the value for each placeholder and copies
everything else. What is put is not looked at again. -/
inductive Substituted (values : List (String × String)) : List Char → List Char → Prop
  | nil : Substituted values [] []
  | placeholder {key value : String} {found rest out : List Char} (listed : (key, value) ∈ values)
      (is : IsPlaceholder key.toList found) (others : Substituted values rest out) :
      Substituted values (found ++ rest) (value.toList ++ out)
  | copied {c : Char} {rest out : List Char} (unmatched : ¬ Matches values (c :: rest))
      (others : Substituted values rest out) : Substituted values (c :: rest) (c :: out)

variable {values : List (String × String)}

theorem IsPlaceholder.exists_cons {key found : List Char} (h : IsPlaceholder key found) :
    ∃ others, found = '$' :: others := by
  obtain ⟨before, after, -, -, rfl⟩ := h
  exact ⟨_, rfl⟩

theorem match?_eq_some {text out : List Char} {n : Nat}
    (h : match? (letters values) text = some (n, out)) :
    ∃ key value found, (key, value) ∈ values ∧ IsPlaceholder key.toList found ∧ found <+: text ∧
      n = found.length ∧ out = value.toList := by
  obtain ⟨pair, mapped, h⟩ := List.exists_of_findSome?_eq_some h
  obtain ⟨⟨key, value⟩, listed, same⟩ := List.mem_map.mp mapped
  subst same
  obtain ⟨m, length, same'⟩ := Option.map_eq_some_iff.mp h
  obtain ⟨found, is, starts, rfl⟩ := placeholderLength?_eq_some.mp length
  cases same'
  exact ⟨key, value, found, listed, is, starts, rfl, rfl⟩

theorem match?_eq_none {text : List Char} :
    match? (letters values) text = none ↔ ¬ Matches values text := by
  rw [match?, List.findSome?_eq_none_iff]
  constructor
  · rintro h ⟨key, value, found, listed, is, starts⟩
    have none := h _ (List.mem_map_of_mem listed)
    rw [Option.map_eq_none_iff] at none
    have some := placeholderLength?_eq_some.mpr ⟨found, is, starts, rfl⟩
    exact absurd (none.symm.trans some) (Option.some_ne_none _).symm
  · intro h pair mapped
    obtain ⟨⟨key, value⟩, listed, rfl⟩ := List.mem_map.mp mapped
    rw [Option.map_eq_none_iff, Option.eq_none_iff_forall_ne_some]
    intro n length
    obtain ⟨found, is, starts, -⟩ := placeholderLength?_eq_some.mp length
    exact h ⟨key, value, found, listed, is, starts⟩

/-- What is written so far stands in front of the rest, and what is to be left out is left out. -/
theorem substituteFrom_eq (values : List (List Char × List Char)) (skip : Nat)
    (done text : List Char) :
    substituteFrom values skip done text =
      done.reverse ++ substituteFrom values 0 [] (text.drop skip) := by
  induction text generalizing skip done with
  | nil => simp [substituteFrom]
  | cons c rest ih =>
    cases skip with
    | succ skip => rw [substituteFrom, ih, List.drop_succ_cons]
    | zero =>
      rw [substituteFrom, List.drop_zero, substituteFrom]
      split
      next n value _ =>
        rw [ih, ih (n - 1) (value.reverse ++ [])]
        simp
      next =>
        rw [ih, ih 0 [c]]
        simp

theorem substituted_substituteFrom (values : List (String × String)) (text : List Char) :
    Substituted values text (substituteFrom (letters values) 0 [] text) := by
  induction length : text.length using Nat.strongRecOn generalizing text with
  | ind n ih =>
    cases text with
    | nil => exact .nil
    | cons c rest =>
      rw [substituteFrom]
      split
      next n value found =>
        obtain ⟨key, value, found, listed, is, ⟨others, whole⟩, rfl, rfl⟩ := match?_eq_some found
        obtain ⟨tail, rfl⟩ := is.exists_cons
        have shorter : others.length < n := by
          rw [← length, ← whole, List.length_append, List.length_cons]
          omega
        have after : rest.drop tail.length = others := by
          rw [← (List.cons.inj whole).2]
          exact List.drop_left
        rw [substituteFrom_eq, List.length_cons, Nat.add_sub_cancel, after, List.append_nil,
          List.reverse_reverse, ← whole]
        exact .placeholder listed is (ih _ shorter others rfl)
      next unmatched =>
        have shorter : rest.length < n := by
          rw [← length, List.length_cons]
          omega
        rw [substituteFrom_eq]
        exact .copied (match?_eq_none.mp unmatched) (ih _ shorter rest rfl)

/-- `substitute` goes through the template once. -/
theorem substituted_substitute (template : String) (values : List (String × String)) :
    Substituted values template.toList (substitute template values).toList := by
  rw [substitute, String.toList_ofList]
  exact substituted_substituteFrom values template.toList

/-! ## Keys that stay apart -/

/-- No two of the keys have placeholders at one place, and no key has two values. -/
def Apart (values : List (String × String)) : Prop :=
  ∀ first ∈ values, ∀ second ∈ values, ∀ found found' text : List Char,
    IsPlaceholder first.1.toList found → found <+: text →
    IsPlaceholder second.1.toList found' → found' <+: text → first = second

theorem Apart.singleton (pair : String × String) : Apart [pair] := by
  intro first listed second listed'
  intros
  rw [List.mem_singleton.mp listed, List.mem_singleton.mp listed']

/-- What a substitution can begin with. -/
theorem Substituted.cases {text out : List Char} (h : Substituted values text out) :
    text = [] ∧ out = [] ∨
    (∃ key value found rest others, (key, value) ∈ values ∧ IsPlaceholder key.toList found ∧
      Substituted values rest others ∧ text = found ++ rest ∧ out = value.toList ++ others) ∨
    ∃ c rest others, ¬ Matches values (c :: rest) ∧ Substituted values rest others ∧
      text = c :: rest ∧ out = c :: others := by
  cases h with
  | nil => exact .inl ⟨rfl, rfl⟩
  | placeholder listed is others => exact .inr (.inl ⟨_, _, _, _, _, listed, is, others, rfl, rfl⟩)
  | copied unmatched others => exact .inr (.inr ⟨_, _, _, unmatched, others, rfl, rfl⟩)

/-- Only one text puts the values for the placeholders of keys that stay apart. -/
theorem Substituted.unique (apart : Apart values) {text out out' : List Char}
    (h : Substituted values text out) (h' : Substituted values text out') : out = out' := by
  induction h generalizing out' with
  | nil =>
    obtain ⟨-, rfl⟩ | ⟨_, _, _, _, _, -, is, -, whole, -⟩ | ⟨_, _, _, -, -, whole, -⟩ := h'.cases
    · rfl
    · obtain ⟨_, rfl⟩ := is.exists_cons
      cases whole
    · cases whole
  | @placeholder key value found rest out listed is _ ih =>
    obtain ⟨c, rfl⟩ := is.exists_cons
    obtain ⟨whole, -⟩ | ⟨key', value', found', rest', others', listed', is', later, whole, rfl⟩ |
      ⟨_, _, _, unmatched, -, whole, -⟩ := h'.cases
    · cases whole
    · have starts' : found' <+: '$' :: c ++ rest := ⟨rest', whole.symm⟩
      have same := apart _ listed _ listed' _ _ _ is (List.prefix_append _ _) is' starts'
      cases same
      cases is.unique (List.prefix_append _ rest) is' starts'
      rw [← List.append_cancel_left whole] at later
      rw [ih later]
    · exact absurd ⟨key, value, _, listed, is, whole ▸ List.prefix_append _ _⟩ unmatched
  | @copied c rest out unmatched _ ih =>
    obtain ⟨whole, -⟩ | ⟨key', value', found', rest', others', listed', is', h', whole, rfl⟩ |
      ⟨_, _, _, -, h', whole, rfl⟩ := h'.cases
    · cases whole
    · exact absurd ⟨key', value', found', listed', is', whole ▸ List.prefix_append _ _⟩ unmatched
    · cases whole
      rw [ih h']

/-- The text has no blanks and none of the characters around a key. -/
def Plain (text : List Char) : Prop :=
  ∀ c ∈ text, isBlank c = false ∧ c ≠ '$' ∧ c ≠ '\x7b' ∧ c ≠ '\x7d'

instance (text : List Char) : Decidable (Plain text) :=
  List.decidableBAll _ text

/-- A plain key can be told from what begins with a placeholder for it. -/
theorem IsPlaceholder.key_eq {key found text : List Char} (plain : Plain key) (nonempty : key ≠ [])
    (h : IsPlaceholder key found) (starts : found <+: text) :
    ((text.drop opening.length).dropWhile isBlank).takeWhile
      (fun c => !isBlank c && c ≠ '\x7d') = key := by
  obtain ⟨before, after, first, second, rfl⟩ := h
  obtain ⟨others, rfl⟩ := starts
  obtain ⟨k, rest, rfl⟩ := List.exists_cons_of_ne_nil nonempty
  have blankless : isBlank k = false := (plain k List.mem_cons_self).1
  have inside : ∀ c ∈ k :: rest, (!isBlank c && decide (c ≠ '\x7d')) = true := by
    intro c h
    obtain ⟨blankless, -, -, closes⟩ := plain c h
    simp [blankless, closes]
  have outside : (after ++ (closing ++ others)).takeWhile
      (fun c => !isBlank c && decide (c ≠ '\x7d')) = [] := by
    cases after with
    | nil => rfl
    | cons a after => simp [second a List.mem_cons_self]
  simp only [List.append_assoc, List.drop_left]
  rw [List.dropWhile_append_of_pos first, List.cons_append,
    List.dropWhile_cons_of_neg (by simp [blankless]), ← List.cons_append,
    List.takeWhile_append_of_pos inside, outside, List.append_nil]

/-- Plain keys stay apart. -/
theorem apart_of_plain (plain : ∀ pair ∈ values, Plain pair.1.toList)
    (nonempty : ∀ pair ∈ values, pair.1 ≠ "") (distinct : (values.map Prod.fst).Nodup) :
    Apart values := by
  intro first listed second listed' found found' text is starts is' starts'
  have key := is.key_eq (plain first listed) (by simpa using nonempty first listed) starts
  have key' := is'.key_eq (plain second listed') (by simpa using nonempty second listed') starts'
  exact List.inj_on_of_nodup_map distinct listed listed'
    (String.toList_inj.mp (key.symm.trans key'))

end BattleAdvisor.Prompt
