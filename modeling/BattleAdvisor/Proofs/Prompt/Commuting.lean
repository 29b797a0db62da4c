import BattleAdvisor.Prompt.Render
import BattleAdvisor.Proofs.Prompt.Simultaneous
import BattleAdvisor.Proofs.Text.Utf8

/-!
# Rendering keys in any order

`fillInTurn` fills one key after the other, and each pass looks at what the passes before it put in.
A value that is plain and no part of another key makes no placeholder for that key, not even
together with a value next to it. So all orders of such keys and values make the same text: the one
that a single pass for all the keys makes (`fillInTurn_perm`).

Keys are rendered in turn by filling them in turn, as long as the pattern for each key is compiled
(`renderInTurn_eq_ok`); else rendering fails at a key that is refused.

**Theorem (`renderInTurn_perm`).** All orders of such keys and values are rendered as the same text,
or none is rendered.
-/

namespace BattleAdvisor.Prompt

/-- The template with the keys filled one after the other. -/
def fillInTurn (template : String) (values : List (String × String)) : String :=
  values.foldl (fun text (key, value) => fill text key value) template

@[simp] theorem fillInTurn_nil (template : String) : fillInTurn template [] = template :=
  rfl

@[simp] theorem fillInTurn_cons (template key value : String) (values : List (String × String)) :
    fillInTurn template ((key, value) :: values) =
      fillInTurn (fill template key value) values :=
  rfl

/-- Letters, digits and the underscore. -/
def isKeyChar (c : Char) : Bool :=
  c.isAlphanum || c = '_'

theorem plain_of_isKeyChar {c : Char} (h : isKeyChar c = true) :
    Text.isBlank c = false ∧ c ≠ '$' ∧ c ≠ '\x7b' ∧ c ≠ '\x7d' := by
  apply Templates.plain_of_isPlayerChar
  rw [Battle.isPlayerChar, ← isKeyChar, h, Bool.true_or]

/-- Keys and values that can be filled in any order. -/
structure Commuting (values : List (String × String)) : Prop where
  distinct : (values.map Prod.fst).Nodup
  /-- Keys are words. -/
  keys : ∀ pair ∈ values, pair.1 ≠ "" ∧ pair.1.toList.all isKeyChar = true
  /-- Values have no blanks and none of the characters around a key. -/
  plain : ∀ pair ∈ values, pair.2 ≠ "" ∧ Plain pair.2.toList
  /-- A value is no part of another key. -/
  apart : ∀ pair ∈ values, ∀ other ∈ values, other.1 ≠ pair.1 →
    ¬ pair.2.toList <:+: other.1.toList

variable {values order : List (String × String)}

namespace Commuting

/-- The order is not part of it. -/
theorem perm (h : Commuting values) (reordered : order.Perm values) : Commuting order := by
  have same : ∀ pair ∈ order, pair ∈ values := fun pair => reordered.mem_iff.mp
  constructor
  · exact (reordered.map Prod.fst).nodup_iff.mpr h.distinct
  · intro pair listed
    exact h.keys pair (same pair listed)
  · intro pair listed
    exact h.plain pair (same pair listed)
  · intro pair listed other listed'
    exact h.apart pair (same pair listed) other (same other listed')

theorem plain_keys (h : Commuting values) : ∀ pair ∈ values, Plain pair.1.toList := by
  intro pair listed c among
  exact plain_of_isKeyChar (List.all_eq_true.mp (h.keys pair listed).2 c among)

/-- No two of the keys have placeholders at one place. -/
theorem keys_apart (h : Commuting values) : Apart values :=
  apart_of_plain h.plain_keys (fun pair listed => (h.keys pair listed).1) h.distinct

variable {key value : String}

theorem tail (h : Commuting ((key, value) :: values)) : Commuting values := by
  constructor
  · exact (List.nodup_cons.mp h.distinct).2
  · intro pair listed
    exact h.keys pair (List.mem_cons_of_mem _ listed)
  · intro pair listed
    exact h.plain pair (List.mem_cons_of_mem _ listed)
  · intro pair listed other listed'
    exact h.apart pair (List.mem_cons_of_mem _ listed) other (List.mem_cons_of_mem _ listed')

theorem key_notMem (h : Commuting ((key, value) :: values)) : key ∉ values.map Prod.fst :=
  (List.nodup_cons.mp h.distinct).1

/-- The first value can be put in before the other keys are looked for. -/
theorem inert (h : Commuting ((key, value) :: values)) : Inert value values := by
  obtain ⟨nonempty, plain⟩ := h.plain _ List.mem_cons_self
  refine ⟨plain, nonempty, ?_⟩
  intro other listed
  apply h.apart _ List.mem_cons_self other (List.mem_cons_of_mem _ listed)
  intro same
  exact h.key_notMem (List.mem_map.mpr ⟨other, listed, same⟩)

end Commuting

/-- A pass looks at the keys and values, not at their order. -/
theorem Substituted.of_perm {text out : List Char} (h : Substituted values text out)
    (reordered : order.Perm values) : Substituted order text out := by
  have matches_iff : ∀ text, Matches order text ↔ Matches values text := by
    intro text
    simp only [Matches, reordered.mem_iff]
  induction h with
  | nil => exact .nil
  | placeholder listed is _ ih => exact .placeholder (reordered.mem_iff.mpr listed) is ih
  | copied unmatched _ ih =>
    rw [← matches_iff] at unmatched
    exact .copied unmatched ih

/-- Without keys all of a text is copied. -/
theorem Substituted.eq_of_nil {text out : List Char} (h : Substituted [] text out) :
    out = text := by
  induction h with
  | nil => rfl
  | placeholder listed => exact absurd listed List.not_mem_nil
  | copied _ _ ih => rw [ih]

/-- One pass for all the keys makes what a pass for each of them makes. -/
theorem Substituted.eq_fillInTurn {template : String} {out : List Char}
    (commuting : Commuting values) (h : Substituted values template.toList out) :
    out = (fillInTurn template values).toList := by
  induction values generalizing template out with
  | nil =>
    rw [fillInTurn_nil]
    exact h.eq_of_nil
  | cons pair values ih =>
    obtain ⟨key, value⟩ := pair
    obtain ⟨between, first, others⟩ := h.one_after_the_other commuting.tail.plain_keys
      commuting.keys_apart commuting.key_notMem commuting.inert
    have filled : between = (fill template key value).toList :=
      first.unique (.singleton _) (substituted_substitute template [(key, value)])
    rw [fillInTurn_cons]
    rw [filled] at others
    exact ih commuting.tail others

/-- Words as keys, filled one after the other with plain values that are no part of another key,
make the same text in all orders. It is the one that a single pass for all the keys makes. -/
theorem fillInTurn_perm {template : String} (commuting : Commuting values)
    (reordered : order.Perm values) : fillInTurn template order = substitute template values := by
  have once := substituted_substitute template values
  apply String.toList_inj.mp
  exact ((once.of_perm reordered).eq_fillInTurn (commuting.perm reordered)).symm

/-! ## Rendering -/

section

variable [Patterns] {template : String}

/-- Keys whose patterns are compiled are rendered by being filled. -/
theorem renderInTurn_eq_ok (accepted : ∀ pair ∈ values, Patterns.accepts pair.1 = true) :
    renderInTurn template values = .ok (fillInTurn template values) := by
  induction values generalizing template with
  | nil => rfl
  | cons pair values ih =>
    obtain ⟨first, others⟩ := List.forall_mem_cons.mp accepted
    rw [renderInTurn, render, if_pos first]
    exact ih others

/-- Rendering stops at the first key whose pattern is refused. -/
theorem renderInTurn_eq_error (refused : ∃ pair ∈ values, Patterns.accepts pair.1 = false) :
    ∃ pair ∈ values, Patterns.accepts pair.1 = false ∧
      renderInTurn template values = .error (.badFormat (.templateKey pair.1)) := by
  induction values generalizing template with
  | nil =>
    obtain ⟨pair, listed, -⟩ := refused
    exact absurd listed List.not_mem_nil
  | cons pair values ih =>
    rw [renderInTurn, render]
    cases accepted : Patterns.accepts pair.1 with
    | false => exact ⟨pair, List.mem_cons_self, accepted, rfl⟩
    | true =>
      obtain ⟨other, listed, refused⟩ := refused
      have behind : other ∈ values := by
        refine (List.mem_cons.mp listed).resolve_left ?_
        rintro rfl
        exact nomatch accepted.symm.trans refused
      obtain ⟨other, listed, refused, failed⟩ := ih ⟨other, behind, refused⟩
      exact ⟨other, List.mem_cons_of_mem _ listed, refused, failed⟩

/-- The keys for the player and the battle are short, so that the prompt is always rendered. -/
theorem renderInTurn_prompt [LawfulPatterns] (templates : Templates) (player battle : String) :
    renderInTurn templates.prompt
      [(Templates.playerKey, player), (Templates.battleKey, battle)] =
        .ok (templates.fillPrompt player battle) := by
  refine renderInTurn_eq_ok ?_
  simp only [List.forall_mem_cons]
  exact ⟨LawfulPatterns.accepts_short (by decide), LawfulPatterns.accepts_short (by decide),
    List.forall_mem_nil _⟩

/-- **Any order.** Take words as keys and plain values that are no part of another key. If the
pattern for each key is compiled, all orders are rendered as the same text: the one that a single
pass for all the keys makes, which puts in each value without looking at it again. If a pattern is
refused, all orders fail, each at a key whose pattern is refused. -/
theorem renderInTurn_perm (commuting : Commuting values) (reordered : order.Perm values) :
    ((∀ pair ∈ values, Patterns.accepts pair.1 = true) →
      renderInTurn template order = .ok (substitute template values) ∧
      ∀ out, Substituted values template.toList out ↔
        out = (substitute template values).toList) ∧
    ((∃ pair ∈ values, Patterns.accepts pair.1 = false) →
      ∃ pair ∈ values, Patterns.accepts pair.1 = false ∧
        renderInTurn template order = .error (.badFormat (.templateKey pair.1))) := by
  constructor
  · intro accepted
    have once := substituted_substitute template values
    refine ⟨?_, fun out => ⟨fun h => h.unique commuting.keys_apart once, ?_⟩⟩
    · rw [renderInTurn_eq_ok fun pair listed => accepted pair (reordered.mem_iff.mp listed),
        fillInTurn_perm commuting reordered]
    · rintro rfl
      exact once
  · rintro ⟨pair, listed, refused⟩
    obtain ⟨other, listed, refused, failed⟩ :=
      renderInTurn_eq_error ⟨pair, reordered.mem_iff.mpr listed, refused⟩
    exact ⟨other, reordered.mem_iff.mp listed, refused, failed⟩

end

/-- A library that compiles patterns for keys with up to a few hundred thousand bytes. -/
instance limitedPatterns : Patterns := Patterns.upTo 300000

instance limitedPatterns_lawful : LawfulPatterns where
  accepts_short short := decide_eq_true (Nat.le_trans short (by decide))

/-- A value may be a part of its own key, and two values may stand side by side. -/
theorem renderInTurn_reversed :
    Commuting [("AB", "B"), ("X_1", "AB/X"), ("Y", "PLAYER")] ∧
    [("Y", "PLAYER"), ("X_1", "AB/X"), ("AB", "B")].Perm
      [("AB", "B"), ("X_1", "AB/X"), ("Y", "PLAYER")] ∧
    renderInTurn
        "$\x7b\x7b $\x7b\x7bAB\x7d\x7d \x7d\x7d $\x7b\x7b X_1 \x7d\x7d$\x7b\x7bY\x7d\x7d"
        [("Y", "PLAYER"), ("X_1", "AB/X"), ("AB", "B")] =
      .ok "$\x7b\x7b B \x7d\x7d AB/XPLAYER" := by
  have commuting : Commuting [("AB", "B"), ("X_1", "AB/X"), ("Y", "PLAYER")] :=
    ⟨by decide, by decide, by decide, by decide⟩
  have reordered : [("Y", "PLAYER"), ("X_1", "AB/X"), ("AB", "B")].Perm
      [("AB", "B"), ("X_1", "AB/X"), ("Y", "PLAYER")] := by decide
  refine ⟨commuting, reordered, ?_⟩
  rw [((renderInTurn_perm commuting reordered).1 (by decide)).1]
  exact congrArg Except.ok (by decide +kernel)

theorem commuting_letters (n : Nat) : Commuting [(Text.letters (n + 1), "v")] where
  distinct := List.nodup_singleton _
  keys := by
    have word : isKeyChar 'a' = true := by decide
    simp [Text.letters_ne_empty, word]
  plain := by
    have plain : "v" ≠ "" ∧ Plain "v".toList := ⟨by decide, by decide⟩
    exact List.forall_mem_singleton.mpr plain
  apart := by
    intro pair listed other listed' differ
    rw [List.mem_singleton.mp listed, List.mem_singleton.mp listed'] at differ
    exact absurd rfl differ

/-- A word may be too long for a key: then nothing is rendered, not even a template in which there
is no placeholder. -/
theorem renderInTurn_longKey :
    Commuting [(Text.letters 1000000, "v")] ∧
    (∀ out, Substituted [(Text.letters 1000000, "v")] "x".toList out ↔ out = "x".toList) ∧
    renderInTurn "x" [(Text.letters 1000000, "v")] =
      .error (.badFormat (.templateKey (Text.letters 1000000))) := by
  have commuting := commuting_letters 999999
  have once := substituted_substitute "x" [(Text.letters 1000000, "v")]
  have size : 1000000 ≤ (Text.letters 1000000).utf8ByteSize := by
    have := Utf8.length_le_utf8ByteSize (List.replicate 1000000 'a')
    rwa [List.length_replicate] at this
  have refused : Patterns.accepts (Text.letters 1000000) = false :=
    decide_eq_false (by omega)
  refine ⟨commuting, fun out => ⟨fun h => h.unique commuting.keys_apart once, ?_⟩, ?_⟩
  · rintro rfl
    exact once
  · rw [renderInTurn, render, refused]
    rfl

end BattleAdvisor.Prompt
