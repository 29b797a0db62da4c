import BattleAdvisor.Prompt.Templates
import BattleAdvisor.Proofs.Prompt.Placeholder

/-!
# One key after the other

`Templates.fillPrompt` puts the player in first and then goes through the result again for the
battle. This is the same as putting both in at once as long as the second pass finds the
placeholders that the template has, and no other.

A placeholder that the first pass makes has to run across a value, because a plain value holds no
`$`. It cannot end inside the value either, so it holds the whole value, and a plain value inside a
placeholder is a part of its key. `Substituted.one_after_the_other` is the result: values that are
plain and no part of a later key can be put in one after the other.
-/

namespace BattleAdvisor.Prompt

variable {values : List (String × String)}

/-! ## Copied text -/

/-- What begins with a placeholder begins with `$`. -/
theorem not_matches_cons {c : Char} (h : c ≠ '$') (rest : List Char) :
    ¬ Matches values (c :: rest) := by
  rintro ⟨key, value, found, -, is, starts⟩
  obtain ⟨others, rfl⟩ := is.exists_cons
  exact h (List.cons_prefix_cons.mp starts).1.symm

/-- Text without `$` is copied. -/
theorem Substituted.append_copied {text rest out : List Char} (plain : ∀ c ∈ text, c ≠ '$')
    (others : Substituted values rest out) : Substituted values (text ++ rest) (text ++ out) := by
  induction text with
  | nil => exact others
  | cons c text ih =>
    have later := ih fun d h => plain d (List.mem_cons_of_mem _ h)
    exact .copied (not_matches_cons (plain c List.mem_cons_self) _) later

/-- A whole text without `$` is copied. -/
theorem Substituted.all_copied {text : List Char} (plain : ∀ c ∈ text, c ≠ '$') :
    Substituted values text text := by
  simpa using Substituted.nil.append_copied plain

/-- In a placeholder for a plain key there is one `$`, at its front. -/
theorem IsPlaceholder.dollar_first {key found : List Char} (plain : Plain key)
    (h : IsPlaceholder key found) : ∃ others, found = '$' :: others ∧ ∀ c ∈ others, c ≠ '$' := by
  obtain ⟨before, after, first, second, rfl⟩ := h
  have blank : Text.isBlank '$' = false := by decide
  refine ⟨'\x7b' :: '\x7b' :: (before ++ (key ++ (after ++ closing))), rfl, ?_⟩
  intro c h same
  subst same
  simp only [List.mem_append, List.mem_cons] at h
  rcases h with h | h | h | h | h | h
  · exact absurd h (by decide)
  · exact absurd h (by decide)
  · exact absurd (first _ h) (by rw [blank]; decide)
  · exact (plain _ h).2.1 rfl
  · exact absurd (second _ h) (by rw [blank]; decide)
  · exact absurd h (by decide)

/-- A placeholder ends with a brace. -/
theorem IsPlaceholder.getLast?_tail {key others : List Char}
    (h : IsPlaceholder key ('$' :: others)) : others.getLast? = some '\x7d' := by
  obtain ⟨before, after, -, -, whole⟩ := h
  have same : others = ['\x7b', '\x7b'] ++ before ++ key ++ after ++ ['\x7d'] ++ ['\x7d'] := by
    simpa [opening, closing] using whole
  rw [same, List.getLast?_concat]

/-- A placeholder for another key is copied. -/
theorem Substituted.append_placeholder {key found rest out : List Char} (plain : Plain key)
    (is : IsPlaceholder key found) (unmatched : ¬ Matches values (found ++ rest))
    (others : Substituted values rest out) : Substituted values (found ++ rest) (found ++ out) := by
  obtain ⟨tail, rfl, noDollar⟩ := is.dollar_first plain
  exact .copied unmatched (others.append_copied noDollar)

/-! ## Values inside placeholders -/

/-- What lies in two texts one after the other, and has no character of the first one, lies in the
second one. -/
theorem infix_of_infix_append {part first second : List Char} (nonempty : part ≠ [])
    (apart : ∀ c ∈ part, c ∉ first) (h : part <:+: first ++ second) : part <:+: second := by
  induction first with
  | nil => exact h
  | cons c first ih =>
    rcases List.infix_cons_iff.mp h with starts | later
    · obtain ⟨p, part, rfl⟩ := List.exists_cons_of_ne_nil nonempty
      have same := (List.cons_prefix_cons.mp starts).1
      exact absurd (same ▸ List.mem_cons_self) (apart p List.mem_cons_self)
    · exact ih (fun d h hd => apart d h (List.mem_cons_of_mem _ hd)) later

/-- The same from the other side. -/
theorem infix_of_append_infix {part first second : List Char} (nonempty : part ≠ [])
    (apart : ∀ c ∈ part, c ∉ second) (h : part <:+: first ++ second) : part <:+: first := by
  have reversed : part.reverse <:+: second.reverse ++ first.reverse := by
    rw [← List.reverse_append]
    exact List.reverse_infix.mpr h
  refine List.reverse_infix.mp (infix_of_infix_append ?_ ?_ reversed)
  · simpa using nonempty
  · intro c h
    simpa using apart c (List.mem_reverse.mp h)

theorem Plain.notMem_blanks {text blanks : List Char} (plain : Plain text)
    (blank : Blanks blanks) : ∀ c ∈ text, c ∉ blanks := by
  intro c h inside
  have blankless := (plain c h).1
  rw [blank c inside] at blankless
  cases blankless

/-- A plain value inside a placeholder is a part of its key. -/
theorem IsPlaceholder.infix_key {key found value : List Char} (plain : Plain value)
    (nonempty : value ≠ []) (h : IsPlaceholder key found) (inside : value <:+: found) :
    value <:+: key := by
  obtain ⟨before, after, first, second, rfl⟩ := h
  have opens : ∀ c ∈ value, c ∉ opening := by
    intro c h
    obtain ⟨-, dollar, brace, -⟩ := plain c h
    simp [opening, dollar, brace]
  have closes : ∀ c ∈ value, c ∉ closing := by
    intro c h
    obtain ⟨-, -, -, brace⟩ := plain c h
    simp [closing, brace]
  have inKey := infix_of_infix_append nonempty (plain.notMem_blanks first)
    (infix_of_infix_append nonempty opens inside)
  have beforeClosing : value <:+: key ++ after := by
    refine infix_of_append_infix nonempty closes ?_
    rwa [List.append_assoc]
  exact infix_of_append_infix nonempty (plain.notMem_blanks second) beforeClosing

/-- A value that can be put in before the given keys are looked for: no placeholder for them can
run across it. -/
structure Inert (value : String) (values : List (String × String)) : Prop where
  plain : Plain value.toList
  nonempty : value ≠ ""
  apart : ∀ pair ∈ values, ¬ value.toList <:+: pair.1.toList

/-- What ends outside of the value, and does not hold it, was there before the value was put in. -/
theorem Substituted.prefix_of_prefix {key value : String} {text out front : List Char}
    (h : Substituted [(key, value)] text out) (starts : front <+: out)
    (ends : ∀ c ∈ front.getLast?, c ∉ value.toList) (apart : ¬ value.toList <:+: front) :
    front <+: text := by
  induction h generalizing front with
  | nil => exact starts
  | @placeholder _ _ found rest out listed is _ ih =>
    cases List.mem_singleton.mp listed
    rcases List.prefix_or_prefix_of_prefix starts (List.prefix_append _ out) with inside | across
    · cases last : front.getLast? with
      | none =>
        rw [List.getLast?_eq_none_iff.mp last]
        exact List.nil_prefix
      | some c =>
        have among : c ∈ front := List.mem_of_getLast? last
        exact absurd (inside.subset among) (ends c last)
    · exact absurd across.isInfix apart
  | @copied c rest out _ _ ih =>
    cases front with
    | nil => exact List.nil_prefix
    | cons d front =>
      obtain ⟨rfl, later⟩ := List.cons_prefix_cons.mp starts
      refine List.cons_prefix_cons.mpr ⟨rfl, ih later ?_ ?_⟩
      · intro c last
        refine ends c ?_
        cases front with
        | nil => cases last
        | cons e front => simpa using last
      · exact fun inside => apart (inside.trans (List.infix_cons_iff.mpr (.inr List.infix_rfl)))

/-- Putting in a first value makes no placeholder for the other keys. -/
theorem not_matches_of_substituted {key value : String} {c : Char} {rest out : List Char}
    (inert : Inert value values) (h : Substituted [(key, value)] rest out)
    (unmatched : ¬ Matches values (c :: rest)) : ¬ Matches values (c :: out) := by
  rintro ⟨key', value', found, listed, is, starts⟩
  obtain ⟨tail, rfl⟩ := is.exists_cons
  obtain ⟨rfl, later⟩ := List.cons_prefix_cons.mp starts
  have last : ∀ c ∈ tail.getLast?, c ∉ value.toList := by
    intro c h among
    rw [is.getLast?_tail, Option.mem_some_iff] at h
    exact (inert.plain c among).2.2.2 h.symm
  have apart : ¬ value.toList <:+: tail := by
    intro inside
    refine inert.apart _ listed (is.infix_key inert.plain ?_ ?_)
    · simpa using inert.nonempty
    · exact inside.trans (List.infix_cons_iff.mpr (.inr List.infix_rfl))
  refine unmatched ⟨key', value', _, listed, is, ?_⟩
  exact List.cons_prefix_cons.mpr ⟨rfl, h.prefix_of_prefix later last apart⟩

/-- Where a placeholder for another key stands, there is none for the first one. -/
theorem Apart.not_matches {key value : String} (apart : Apart ((key, value) :: values))
    (distinct : key ∉ values.map Prod.fst) {pair : String × String} (listed : pair ∈ values)
    {found : List Char} (is : IsPlaceholder pair.1.toList found) (rest : List Char) :
    ¬ Matches [(key, value)] (found ++ rest) := by
  rintro ⟨_, _, found', listed', is', starts'⟩
  cases List.mem_singleton.mp listed'
  have same := apart _ List.mem_cons_self _ (List.mem_cons_of_mem _ listed) _ _ _ is' starts' is
    (List.prefix_append _ _)
  subst same
  exact distinct (List.mem_map_of_mem listed)

/-- **One after the other.** A value that can be put in first is put in first: what puts all values
in at once puts in this one, and then the others. -/
theorem Substituted.one_after_the_other {key value : String} {text out : List Char}
    (plain : ∀ pair ∈ values, Plain pair.1.toList) (apart : Apart ((key, value) :: values))
    (distinct : key ∉ values.map Prod.fst) (inert : Inert value values)
    (h : Substituted ((key, value) :: values) text out) :
    ∃ between, Substituted [(key, value)] text between ∧ Substituted values between out := by
  induction h with
  | nil => exact ⟨[], .nil, .nil⟩
  | @placeholder key' value' found rest out listed is _ ih =>
    obtain ⟨between, first, second⟩ := ih
    rcases List.mem_cons.mp listed with same | later
    · cases same
      exact ⟨value.toList ++ between, .placeholder List.mem_cons_self is first,
        second.append_copied fun c h => (inert.plain c h).2.1⟩
    · exact ⟨found ++ between, first.append_placeholder (plain _ later) is
        (apart.not_matches distinct later is rest), .placeholder later is second⟩
  | @copied c rest out unmatched _ ih =>
    obtain ⟨between, first, second⟩ := ih
    refine ⟨c :: between, .copied ?_ first,
      .copied (not_matches_of_substituted inert first ?_) second⟩
    · rintro ⟨_, _, found, listed, is, starts⟩
      cases List.mem_singleton.mp listed
      exact unmatched ⟨_, _, found, List.mem_cons_self, is, starts⟩
    · rintro ⟨key', value', found, listed, is, starts⟩
      exact unmatched ⟨key', value', found, List.mem_cons_of_mem _ listed, is, starts⟩

end BattleAdvisor.Prompt
