import BattleAdvisor.Text.Collapse

/-!
# Runs that are collapsed

`Text.Collapses` says what it is to replace each longest run of characters that are no word
characters by one underscore, without the loop that does it: a text is cut into word characters and
longest runs. `Text.collapse` finds this, and nothing else is it (`Text.collapses_iff`).
-/

namespace BattleAdvisor.Text

/-- The second text is the first one with an underscore in place of each longest run of characters
that are no word characters. -/
inductive Collapses : List Char → List Char → Prop
  | nil : Collapses [] []
  | word {c : Char} {rest result : List Char} (word : isWord c = true)
      (later : Collapses rest result) : Collapses (c :: rest) (c :: result)
  | run {run rest result : List Char} (nonempty : run ≠ []) (gap : ∀ c ∈ run, isWord c = false)
      (longest : ∀ c ∈ rest.head?, isWord c = true) (later : Collapses rest result) :
      Collapses (run ++ rest) ('_' :: result)

/-! ## The loop -/

theorem collapse_loop_eq (inGap : Bool) (done text : List Char) :
    collapse.loop inGap done text = done.reverse ++ collapse.loop inGap [] text := by
  induction text generalizing inGap done with
  | nil => simp [collapse.loop]
  | cons c rest ih =>
    rw [collapse.loop, collapse.loop]
    by_cases word : isWord c = true
    · rw [if_pos word, if_pos word, ih, ih false [c]]
      simp
    · rw [if_neg word, if_neg word]
      cases inGap with
      | true => exact ih true done
      | false =>
        rw [if_neg Bool.false_ne_true, if_neg Bool.false_ne_true, ih, ih true ['_']]
        simp

/-- What comes first does not show whether there was a gap before it, unless it goes on with it. -/
theorem collapse_loop_of_head {rest : List Char} (longest : ∀ c ∈ rest.head?, isWord c = true) :
    collapse.loop true [] rest = collapse rest := by
  cases rest with
  | nil => rfl
  | cons c rest =>
    have word : isWord c = true := longest c rfl
    rw [collapse, collapse.loop, collapse.loop, if_pos word, if_pos word]

theorem collapse_loop_of_gap {run : List Char} (gap : ∀ c ∈ run, isWord c = false)
    (rest : List Char) : collapse.loop true [] (run ++ rest) = collapse.loop true [] rest := by
  induction run with
  | nil => rfl
  | cons c run ih =>
    obtain ⟨first, others⟩ := List.forall_mem_cons.mp gap
    rw [List.cons_append, collapse.loop, first, if_neg Bool.false_ne_true, if_pos rfl]
    exact ih others

/-! ## Texts -/

theorem collapse_cons_word {c : Char} (word : isWord c = true) (rest : List Char) :
    collapse (c :: rest) = c :: collapse rest := by
  rw [collapse, collapse.loop, if_pos word, collapse_loop_eq]
  rfl

theorem collapse_run {run rest : List Char} (nonempty : run ≠ [])
    (gap : ∀ c ∈ run, isWord c = false) (longest : ∀ c ∈ rest.head?, isWord c = true) :
    collapse (run ++ rest) = '_' :: collapse rest := by
  obtain ⟨c, run, rfl⟩ := List.exists_cons_of_ne_nil nonempty
  obtain ⟨first, others⟩ := List.forall_mem_cons.mp gap
  rw [List.cons_append, collapse, collapse.loop, first, if_neg Bool.false_ne_true,
    if_neg Bool.false_ne_true, collapse_loop_eq, collapse_loop_of_gap others,
    collapse_loop_of_head longest]
  rfl

theorem Collapses.eq {text result : List Char} (collapses : Collapses text result) :
    result = collapse text := by
  induction collapses with
  | nil => rfl
  | word word _ ih => rw [collapse_cons_word word, ih]
  | run nonempty gap longest _ ih => rw [collapse_run nonempty gap longest, ih]

/-- A character that is no word character is a run of its own, or belongs to the run behind it. -/
theorem Collapses.cons_gap {c : Char} (gap : isWord c = false) {rest result : List Char}
    (collapses : Collapses rest result) : ∃ result, Collapses (c :: rest) result := by
  have alone {rest result : List Char} (longest : ∀ d ∈ rest.head?, isWord d = true)
      (later : Collapses rest result) : Collapses (c :: rest) ('_' :: result) :=
    .run (List.cons_ne_nil c []) (by simpa using gap) longest later
  cases collapses with
  | nil => exact ⟨_, alone (by simp) .nil⟩
  | word word later => exact ⟨_, alone (by simpa using word) (.word word later)⟩
  | @run run rest _ nonempty others longest later =>
    exact ⟨_, .run (List.cons_ne_nil c run) (List.forall_mem_cons.mpr ⟨gap, others⟩) longest later⟩

theorem exists_collapses (text : List Char) : ∃ result, Collapses text result := by
  induction text with
  | nil => exact ⟨[], .nil⟩
  | cons c rest ih =>
    obtain ⟨result, later⟩ := ih
    cases word : isWord c with
    | true => exact ⟨c :: result, .word word later⟩
    | false => exact later.cons_gap word

/-- **Collapsing puts an underscore in place of each longest run, and changes nothing else.** -/
theorem collapses_iff {text result : List Char} :
    Collapses text result ↔ result = collapse text := by
  constructor
  · exact Collapses.eq
  · rintro rfl
    obtain ⟨result, collapses⟩ := exists_collapses text
    rwa [← collapses.eq]

end BattleAdvisor.Text
