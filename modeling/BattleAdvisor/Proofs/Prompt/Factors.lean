import BattleAdvisor.Proofs.Prompt.Placeholder

/-!
# Where a template is cut

Filling one key cuts the template at the placeholders for it. `Cuts` says where: each cut is the
leftmost placeholder behind the cut before it, and behind the last cut there is none.

* `Cuts.unique`: a text is cut in one way.
* `Substituted.exists_cuts`: what a substitution puts out is what stands between the cuts, with the
  value at each of them.

**Theorem (`fill_factors`).** Filling a key, whatever its characters are, is just that.
-/

namespace BattleAdvisor.Prompt

/-- A placeholder for the key begins the text. -/
def BeginsPlaceholder (key text : List Char) : Prop :=
  ∃ found, IsPlaceholder key found ∧ found <+: text

/-- No placeholder for the key begins in the first of two texts that follow each other. -/
def Clear (key first second : List Char) : Prop :=
  ∀ position < first.length, ¬ BeginsPlaceholder key ((first ++ second).drop position)

/-- A text cut into factors: before each cut something is left, and behind the last one as well. -/
structure Factors where
  /-- What is left before a cut, and what is cut out. -/
  cuts : List (List Char × List Char)
  last : List Char

namespace Factors

/-- The text that was cut. -/
def text (factors : Factors) : List Char :=
  factors.cuts.flatMap (fun (gap, found) => gap ++ found) ++ factors.last

/-- The text with a value in place of all that was cut out. -/
def filled (factors : Factors) (value : List Char) : List Char :=
  factors.cuts.flatMap (fun (gap, _) => gap ++ value) ++ factors.last

/-- One more character at the front. -/
def push (c : Char) : Factors → Factors
  | ⟨[], last⟩ => ⟨[], c :: last⟩
  | ⟨(gap, found) :: cuts, last⟩ => ⟨(c :: gap, found) :: cuts, last⟩

theorem filled_push (c : Char) (factors : Factors) (value : List Char) :
    (factors.push c).filled value = c :: factors.filled value := by
  obtain ⟨cuts, last⟩ := factors
  cases cuts <;> simp [push, filled]

end Factors

/-- The text is cut at the placeholders for the key, from left to right. -/
inductive Cuts (key : List Char) : List Char → Factors → Prop
  | last {gap : List Char} (clear : Clear key gap []) : Cuts key gap ⟨[], gap⟩
  | cut {gap found rest last : List Char} {cuts : List (List Char × List Char)}
      (clear : Clear key gap (found ++ rest)) (is : IsPlaceholder key found)
      (others : Cuts key rest ⟨cuts, last⟩) :
      Cuts key (gap ++ (found ++ rest)) ⟨(gap, found) :: cuts, last⟩

variable {key text : List Char}

/-! ## Clear texts -/

theorem clear_nil (key second : List Char) : Clear key [] second := by
  intro position before
  simp at before

theorem clear_cons {c : Char} {first second : List Char} :
    Clear key (c :: first) second ↔
      ¬ BeginsPlaceholder key (c :: (first ++ second)) ∧ Clear key first second := by
  constructor
  · intro clear
    constructor
    · simpa using clear 0 (Nat.zero_lt_succ _)
    · intro position before
      simpa using clear (position + 1) (Nat.succ_lt_succ before)
  · rintro ⟨front, others⟩ position before
    cases position with
    | zero => simpa using front
    | succ position => simpa using others position (Nat.lt_of_succ_lt_succ before)

/-- A text in which no placeholder lies is clear. -/
theorem clear_of_absent (absent : ∀ found, IsPlaceholder key found → ¬ found <:+: text) :
    Clear key text [] := by
  rintro position - ⟨found, is, starts⟩
  rw [List.append_nil] at starts
  exact absent found is (starts.isInfix.trans (List.drop_suffix position text).isInfix)

/-- Where a placeholder begins, a clear text is at an end. -/
theorem Clear.length_le {first second gap found rest : List Char} (clear : Clear key first second)
    (is : IsPlaceholder key found) (same : first ++ second = gap ++ (found ++ rest)) :
    first.length ≤ gap.length := by
  by_contra before
  apply clear gap.length (Nat.lt_of_not_le before)
  rw [same, List.drop_left]
  exact ⟨found, is, List.prefix_append found rest⟩

/-! ## Cutting a text -/

theorem Cuts.text_eq {factors : Factors} (h : Cuts key text factors) : factors.text = text := by
  induction h with
  | last => rfl
  | cut _ _ _ ih =>
    rw [← ih]
    simp [Factors.text]

/-- Either nothing is cut out of a text, or it begins with a gap and a cut. -/
theorem Cuts.cases {factors : Factors} (h : Cuts key text factors) :
    (Clear key text [] ∧ factors = ⟨[], text⟩) ∨
    ∃ gap found rest cuts last, text = gap ++ (found ++ rest) ∧ Clear key gap (found ++ rest) ∧
      IsPlaceholder key found ∧ Cuts key rest ⟨cuts, last⟩ ∧
      factors = ⟨(gap, found) :: cuts, last⟩ := by
  cases h with
  | last clear => exact .inl ⟨clear, rfl⟩
  | cut clear is others => exact .inr ⟨_, _, _, _, _, rfl, clear, is, others, rfl⟩

/-- A clear text has no placeholder to be cut out. -/
theorem Clear.ne_append {gap found rest : List Char} (clear : Clear key text [])
    (is : IsPlaceholder key found) : text ≠ gap ++ (found ++ rest) := by
  intro same
  obtain ⟨others, rfl⟩ := is.exists_cons
  have short : text.length ≤ gap.length := clear.length_le is ((List.append_nil text).trans same)
  have long := congrArg List.length same
  simp only [List.length_append, List.length_cons] at long
  omega

/-- A text is cut in one way. -/
theorem Cuts.unique {factors factors' : Factors} (h : Cuts key text factors)
    (h' : Cuts key text factors') : factors = factors' := by
  induction h generalizing factors' with
  | last clear =>
    rcases h'.cases with ⟨-, rfl⟩ | ⟨gap, found, rest, cuts, last, same, -, is, -⟩
    · rfl
    · exact absurd same (clear.ne_append is)
  | @cut gap found rest last cuts clear is others ih =>
    rcases h'.cases with ⟨clear', -⟩ |
      ⟨gap', found', rest', cuts', last', same, clear', is', others', rfl⟩
    · exact absurd rfl (clear'.ne_append is)
    · -- Neither gap can go on where the other one ends.
      have length : gap.length = gap'.length :=
        Nat.le_antisymm (clear.length_le is' same) (clear'.length_le is same.symm)
      obtain ⟨rfl, behind⟩ := List.append_inj same length
      obtain rfl := is.unique (List.prefix_append found rest) is' ⟨rest', behind.symm⟩
      obtain rfl := List.append_cancel_left behind
      cases ih others'
      rfl

/-! ## Cutting and substituting -/

theorem matches_singleton {key value : String} :
    Matches [(key, value)] text ↔ BeginsPlaceholder key.toList text := by
  constructor
  · rintro ⟨_, _, found, listed, is, starts⟩
    cases List.mem_singleton.mp listed
    exact ⟨found, is, starts⟩
  · rintro ⟨found, is, starts⟩
    exact ⟨key, value, found, List.mem_singleton_self _, is, starts⟩

/-- A character at which no placeholder begins is not cut out. -/
theorem Cuts.push {c : Char} {factors : Factors} (h : Cuts key text factors)
    (unmatched : ¬ BeginsPlaceholder key (c :: text)) : Cuts key (c :: text) (factors.push c) := by
  cases h with
  | last clear =>
    apply Cuts.last
    rw [clear_cons, List.append_nil]
    exact ⟨unmatched, clear⟩
  | @cut gap found rest last cuts clear is others =>
    have later : Clear key (c :: gap) (found ++ rest) := clear_cons.mpr ⟨unmatched, clear⟩
    exact Cuts.cut later is others

/-- A substitution of one key cuts the text, and puts the value at each cut. -/
theorem Substituted.exists_cuts {key value : String} {out : List Char}
    (h : Substituted [(key, value)] text out) :
    ∃ factors, Cuts key.toList text factors ∧ out = factors.filled value.toList := by
  induction h with
  | nil => exact ⟨⟨[], []⟩, .last (clear_nil _ _), rfl⟩
  | @placeholder key' value' found rest out listed is _ ih =>
    cases List.mem_singleton.mp listed
    obtain ⟨⟨cuts, last⟩, cut, rfl⟩ := ih
    exact ⟨⟨([], found) :: cuts, last⟩, .cut (clear_nil _ _) is cut, by simp [Factors.filled]⟩
  | @copied c rest out unmatched _ ih =>
    obtain ⟨factors, cut, rfl⟩ := ih
    rw [matches_singleton] at unmatched
    exact ⟨factors.push c, cut.push unmatched, (factors.filled_push c _).symm⟩

/-- **Filling one key.** At any position of a template at most one length is a placeholder for the
key. The template is cut in one way at the leftmost placeholders that do not overlap, and filling it
puts the value at each cut and leaves the rest. A template without placeholders stays as it is. -/
theorem fill_factors (template key value : String) :
    (∀ (position : Nat) (found found' : List Char),
      IsPlaceholder key.toList found → found <+: template.toList.drop position →
      IsPlaceholder key.toList found' → found' <+: template.toList.drop position →
        found = found') ∧
    (∃ factors : Factors, Cuts key.toList template.toList factors ∧
      (∀ others, Cuts key.toList template.toList others → others = factors) ∧
      factors.text = template.toList ∧
      (fill template key value).toList = factors.filled value.toList) ∧
    ((∀ found, IsPlaceholder key.toList found → ¬ found <:+: template.toList) →
      fill template key value = template) := by
  obtain ⟨factors, cut, filled⟩ :=
    (substituted_substitute template [(key, value)]).exists_cuts
  refine ⟨?_, ⟨factors, cut, ?_, cut.text_eq, filled⟩, ?_⟩
  · intro position found found' is starts is' starts'
    exact is.unique starts is' starts'
  · intro others cut'
    exact cut'.unique cut
  · intro absent
    have whole := cut.unique (.last (clear_of_absent absent))
    rw [whole] at filled
    apply String.toList_inj.mp
    rw [fill, filled]
    rfl

/-- A key may begin with blanks and hold braces. Of two placeholders that overlap, the first one is
filled. -/
example :
    fill "$\x7b\x7b  \x7d\x7d$\x7b\x7b \x7d\x7d$\x7b\x7b \x7d\x7d" " \x7d\x7d$\x7b\x7b" "v" =
      "v$\x7b\x7b \x7d\x7d" := by
  decide +kernel

/-- A text that nearly has a placeholder, with one brace missing. -/
def nearMiss : String :=
  "$\x7b X \x7d\x7d"

theorem fill_nearMiss :
    (∀ found, IsPlaceholder "X".toList found → ¬ found <:+: nearMiss.toList) ∧
      fill nearMiss "X" "v" = nearMiss := by
  have unopened : ¬ opening <:+: nearMiss.toList := by decide +kernel
  have absent : ∀ found, IsPlaceholder "X".toList found → ¬ found <:+: nearMiss.toList := by
    rintro _ ⟨before, after, -, -, rfl⟩ inside
    exact unopened ((List.prefix_append _ _).isInfix.trans inside)
  exact ⟨absent, (fill_factors nearMiss "X" "v").2.2 absent⟩

end BattleAdvisor.Prompt
