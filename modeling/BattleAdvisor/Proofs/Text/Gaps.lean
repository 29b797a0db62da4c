import BattleAdvisor.Advice.Provision
import BattleAdvisor.Proofs.Text.Collapse

/-!
# Collapsing parts of a text

A gap is a run of characters that are no word characters. Collapsing puts one underscore in place of
each gap, so what it makes consists of word characters, is not longer, and collapses to itself.

Two texts in a row collapse to what they collapse to one by one, unless the first one ends in a gap
with which the second one begins (`Collapses.append`). Then one underscore stands for both parts of
that gap (`Collapses.append_within`).

**Theorem (`collapse_parts`).** This holds of all texts, and so of the relative paths in display
names.
-/

namespace BattleAdvisor.Text

/-- The last character of a text is no word character. -/
def EndsInGap (text : List Char) : Prop :=
  ∃ c ∈ text.getLast?, isWord c = false

/-- The first character of a text is no word character. -/
def BeginsInGap (text : List Char) : Prop :=
  ∃ c ∈ text.head?, isWord c = false

variable {first second result result' text : List Char}

theorem isWord_underscore : isWord '_' = true := by
  decide

/-! ## Ends of a text -/

theorem EndsInGap.ne_nil (ends : EndsInGap text) : text ≠ [] := by
  rintro rfl
  obtain ⟨c, among, -⟩ := ends
  cases among

/-- The end of a text is that of its second part. -/
theorem endsInGap_append (first : List Char) (given : second ≠ []) :
    EndsInGap (first ++ second) ↔ EndsInGap second := by
  rw [EndsInGap, EndsInGap, List.getLast?_append, List.getLast?_eq_some_getLast given,
    Option.some_or]

theorem EndsInGap.append (ends : EndsInGap second) (first : List Char) :
    EndsInGap (first ++ second) :=
  (endsInGap_append first ends.ne_nil).mpr ends

theorem endsInGap_of_run {run : List Char} (nonempty : run ≠ [])
    (gap : ∀ c ∈ run, isWord c = false) : EndsInGap run :=
  ⟨run.getLast nonempty, List.getLast?_eq_some_getLast nonempty, gap _ (List.getLast_mem nonempty)⟩

/-- A word character before a text makes no gap at its end. -/
theorem EndsInGap.of_cons_word {c : Char} (word : isWord c = true)
    (ends : EndsInGap (c :: text)) : EndsInGap text := by
  by_cases given : text = []
  · subst given
    obtain ⟨d, last, gap⟩ := ends
    obtain rfl : c = d := Option.some.inj last
    rw [word] at gap
    cases gap
  · exact (endsInGap_append [c] given).mp ends

/-! ## What a text collapses to -/

namespace Collapses

theorem isWord_of_mem (collapses : Collapses text result) : ∀ c ∈ result, isWord c = true := by
  induction collapses with
  | nil => exact List.forall_mem_nil _
  | word word _ ih => exact List.forall_mem_cons.mpr ⟨word, ih⟩
  | run _ _ _ _ ih => exact List.forall_mem_cons.mpr ⟨isWord_underscore, ih⟩

theorem length_le (collapses : Collapses text result) : result.length ≤ text.length := by
  induction collapses with
  | nil => exact Nat.le_refl 0
  | word _ _ ih => exact Nat.succ_le_succ ih
  | run nonempty _ _ _ ih =>
    have some := List.length_pos_iff.mpr nonempty
    rw [List.length_append, List.length_cons]
    omega

/-- The word characters of the text are kept in their order. -/
theorem words_sublist (collapses : Collapses text result) :
    (text.filter isWord).Sublist result := by
  induction collapses with
  | nil => exact .slnil
  | word word _ ih =>
    rw [List.filter_cons_of_pos word]
    exact ih.cons_cons _
  | @run run rest _ _ gap _ _ ih =>
    have none : run.filter isWord = [] :=
      List.filter_eq_nil_iff.mpr fun c among => by simp [gap c among]
    rw [List.filter_append, none, List.nil_append]
    exact ih.cons _

/-- A text of word characters stays as it is. -/
theorem of_words (words : ∀ c ∈ text, isWord c = true) : Collapses text text := by
  induction text with
  | nil => exact .nil
  | cons c rest ih =>
    obtain ⟨word, others⟩ := List.forall_mem_cons.mp words
    exact .word word (ih others)

theorem eq_nil (collapses : Collapses [] result) : result = [] := by
  rw [collapses.eq]
  rfl

/-! ## Two texts in a row -/

/-- A run that is longest in its text is longest in two texts in a row, unless it goes on in the
second one. -/
theorem longest_append {rest : List Char} (longest : ∀ c ∈ rest.head?, isWord c = true)
    (ends : rest = [] → ¬ BeginsInGap second) :
    ∀ c ∈ (rest ++ second).head?, isWord c = true := by
  cases rest with
  | nil =>
    intro c begins
    cases word : isWord c with
    | true => rfl
    | false => exact absurd ⟨c, begins, word⟩ (ends rfl)
  | cons d rest => exact longest

/-- Texts that do not meet in a gap are collapsed one by one. -/
theorem append (collapses : Collapses first result) (collapses' : Collapses second result')
    (apart : ¬ (EndsInGap first ∧ BeginsInGap second)) :
    Collapses (first ++ second) (result ++ result') := by
  induction collapses with
  | nil => exact collapses'
  | @word c rest result word _ ih =>
    exact .word word (ih fun ⟨ends, begins⟩ => apart ⟨ends.append [c], begins⟩)
  | @run run rest result nonempty gap longest _ ih =>
    rw [List.append_assoc]
    refine .run nonempty gap (longest_append longest ?_) (ih fun ⟨ends, begins⟩ => ?_)
    · rintro rfl begins
      rw [List.append_nil] at apart
      exact apart ⟨endsInGap_of_run nonempty gap, begins⟩
    · exact apart ⟨ends.append run, begins⟩

/-- What begins in a gap collapses to an underscore for that gap and what is behind it. -/
theorem exists_run (collapses : Collapses text result) (begins : BeginsInGap text) :
    ∃ run rest after, text = run ++ rest ∧ (∀ c ∈ run, isWord c = false) ∧
      (∀ c ∈ rest.head?, isWord c = true) ∧ Collapses rest after ∧ result = '_' :: after := by
  cases collapses with
  | nil =>
    obtain ⟨c, among, -⟩ := begins
    cases among
  | word word =>
    obtain ⟨c, among, gap⟩ := begins
    cases among
    rw [word] at gap
    cases gap
  | run _ gap longest later => exact ⟨_, _, _, rfl, gap, longest, later, rfl⟩

/-- In texts that meet in a gap one underscore stands for the whole gap. -/
theorem append_within (collapses : Collapses first result) (collapses' : Collapses second result')
    (ends : EndsInGap first) (begins : BeginsInGap second) :
    ∃ before after, result = before ++ ['_'] ∧ result' = '_' :: after ∧
      Collapses (first ++ second) (before ++ '_' :: after) := by
  induction collapses with
  | nil => exact absurd rfl ends.ne_nil
  | @word c rest result word _ ih =>
    obtain ⟨before, after, rfl, rfl, later⟩ := ih (ends.of_cons_word word)
    exact ⟨c :: before, after, rfl, rfl, .word word later⟩
  | @run run rest result nonempty gap longest later ih =>
    rw [List.append_assoc]
    by_cases given : rest = []
    · -- The run goes on with the one at the front of the second text.
      subst given
      obtain ⟨run', rest', after, rfl, gap', longest', later', rfl⟩ := collapses'.exists_run begins
      refine ⟨[], after, by rw [later.eq_nil]; rfl, rfl, ?_⟩
      rw [List.nil_append, List.nil_append, ← List.append_assoc]
      refine .run (by simp [nonempty]) ?_ longest' later'
      exact List.forall_mem_append.mpr ⟨gap, gap'⟩
    · obtain ⟨before, after, rfl, rfl, later⟩ := ih ((endsInGap_append run given).mp ends)
      refine ⟨'_' :: before, after, rfl, rfl, .run nonempty gap ?_ later⟩
      exact longest_append longest fun none => absurd none given

end Collapses

theorem collapses_collapse (text : List Char) : Collapses text (collapse text) :=
  collapses_iff.mpr rfl

/-- Just the texts of word characters stay as they are. -/
theorem collapse_eq_self_iff : collapse text = text ↔ ∀ c ∈ text, isWord c = true := by
  constructor
  · intro same
    rw [← same]
    exact (collapses_collapse text).isWord_of_mem
  · intro words
    exact (Collapses.of_words words).eq.symm

/-- Where two texts meet in a gap, there is one underscore fewer. -/
theorem collapse_append_within (ends : EndsInGap first) (begins : BeginsInGap second) :
    ∃ before after, collapse first = before ++ ['_'] ∧ collapse second = '_' :: after ∧
      collapse (first ++ second) = before ++ '_' :: after := by
  obtain ⟨before, after, one, other, whole⟩ :=
    (collapses_collapse first).append_within (collapses_collapse second) ends begins
  exact ⟨before, after, one, other, whole.eq.symm⟩

theorem collapse_append_iff :
    collapse (first ++ second) = collapse first ++ collapse second ↔
      ¬ (EndsInGap first ∧ BeginsInGap second) := by
  constructor
  · rintro same ⟨ends, begins⟩
    obtain ⟨before, after, one, other, whole⟩ := collapse_append_within ends begins
    rw [whole, one, other, List.append_assoc] at same
    have fewer := congrArg List.length same
    simp at fewer
  · intro apart
    exact ((collapses_collapse first).append (collapses_collapse second) apart).eq.symm

/-- **Collapsing.** A display name ends with the relative path in which one underscore is put in
place of each longest run of characters that are no word characters. Collapsing makes a text of word
characters that is not longer and has the word characters of the text in their order; a second time
it changes nothing, and just the texts of word characters are not changed at all. Texts in a row are
collapsed one by one, unless they meet in a gap; then there is one underscore fewer. -/
theorem collapse_parts :
    (∀ (start : String) (dir path : Path), ∃ shown,
      Collapses (path.relativeTo dir).display.toList shown ∧
        Provision.displayName start dir path = start ++ "_" ++ String.ofList shown) ∧
    (∀ text : List Char,
      (∀ result, Collapses text result ↔ result = collapse text) ∧
      (∀ c ∈ collapse text, isWord c = true) ∧
      (collapse text).length ≤ text.length ∧
      (text.filter isWord).Sublist (collapse text) ∧
      collapse (collapse text) = collapse text ∧
      (collapse text = text ↔ ∀ c ∈ text, isWord c = true)) ∧
    ∀ first second : List Char,
      (collapse (first ++ second) = collapse first ++ collapse second ↔
        ¬ (EndsInGap first ∧ BeginsInGap second)) ∧
      (EndsInGap first → BeginsInGap second →
        ∃ before after, collapse first = before ++ ['_'] ∧ collapse second = '_' :: after ∧
          collapse (first ++ second) = before ++ '_' :: after) := by
  refine ⟨?_, ?_, ?_⟩
  · intro start dir path
    exact ⟨_, collapses_collapse _, rfl⟩
  · intro text
    have collapses := collapses_collapse text
    exact ⟨fun result => collapses_iff, collapses.isWord_of_mem, collapses.length_le,
      collapses.words_sublist, collapse_eq_self_iff.mpr collapses.isWord_of_mem,
      collapse_eq_self_iff⟩
  · intro first second
    exact ⟨collapse_append_iff, collapse_append_within⟩

/-- A path cut inside the gap of a name. -/
theorem collapse_cutName :
    let first := "species/sun -".toList
    let second := "- flower.json".toList
    EndsInGap first ∧ BeginsInGap second ∧
    ∃ before after, collapse first = before ++ ['_'] ∧ collapse second = '_' :: after ∧
      collapse (first ++ second) = before ++ '_' :: after ∧
      before ++ '_' :: after = "species_sun_flower_json".toList := by
  intro first second
  have ends : EndsInGap first := ⟨'-', rfl, by decide⟩
  have begins : BeginsInGap second := ⟨'-', rfl, by decide⟩
  obtain ⟨before, after, one, other, whole⟩ := (collapse_parts.2.2 first second).2 ends begins
  exact ⟨ends, begins, before, after, one, other, whole, whole.symm.trans (by decide +kernel)⟩

end BattleAdvisor.Text
