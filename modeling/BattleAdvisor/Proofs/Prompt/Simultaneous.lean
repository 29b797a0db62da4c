import BattleAdvisor.Proofs.Battle
import BattleAdvisor.Proofs.Prompt.Filling

/-!
# Putting in the player and the battle

`Templates.fillPrompt` puts in the player and then the battle. For players that are no part of the
key of the battle this is the same as going through the template once and putting in both, so that
nothing that was put in is looked at again. For the template that comes with the program it is the
same for all players. For each part of the key there is a template that tells the two apart: it
spells the rest of the key around the player, and so makes a placeholder for the battle.
-/

namespace BattleAdvisor.Templates

open Prompt Battle

/-- The values that are put into a prompt. -/
def values (player battle : String) : List (String × String) :=
  [(playerKey, player), (battleKey, battle)]

/-! ## Keys and players are plain -/

theorem plain_playerKey : Plain playerKey.toList := by
  decide

theorem plain_battleKey : Plain battleKey.toList := by
  decide

theorem plain_keys (player battle : String) :
    ∀ pair ∈ values player battle, Plain pair.1.toList := by
  simp only [values, List.forall_mem_cons]
  exact ⟨plain_playerKey, plain_battleKey, by simp⟩

theorem apart_values (player battle : String) : Apart (values player battle) := by
  refine apart_of_plain (plain_keys player battle) ?_ ?_
  · simp [values, playerKey, battleKey]
  · simp [values, playerKey, battleKey]

/-- The characters of a player lie between the marks around keys. -/
theorem code_of_isPlayerChar {c : Char} (h : isPlayerChar c = true) :
    0x2D ≤ c.toNat ∧ c.toNat ≤ 0x7A := by
  have letter : c.isAlpha = (c.isUpper || c.isLower) := rfl
  have upper : c.isUpper = decide (c.val ≥ 'A'.val ∧ c.val ≤ 'Z'.val) := rfl
  have lower : c.isLower = (c.val ≥ 'a'.val && c.val ≤ 'z'.val) := rfl
  simp only [isPlayerChar, Char.isAlphanum, letter, upper, lower, Char.isDigit, Bool.or_eq_true,
    Bool.and_eq_true, decide_eq_true_eq, ge_iff_le, UInt32.le_iff_toNat_le] at h
  rcases h with (((⟨low, high⟩ | ⟨low, high⟩) | ⟨low, high⟩) | rfl) | rfl
  · exact ⟨Nat.le_trans (by decide) low, Nat.le_trans high (by decide)⟩
  · exact ⟨Nat.le_trans (by decide) low, Nat.le_trans high (by decide)⟩
  · exact ⟨Nat.le_trans (by decide) low, Nat.le_trans high (by decide)⟩
  · decide
  · decide

theorem plain_of_isPlayerChar {c : Char} (h : isPlayerChar c = true) :
    Text.isBlank c = false ∧ c ≠ '$' ∧ c ≠ '\x7b' ∧ c ≠ '\x7d' := by
  have code := code_of_isPlayerChar h
  refine ⟨?_, ?_, ?_, ?_⟩
  · rw [Text.isBlank, Text.Ranges.has, Text.blankRanges, Text.Ranges.covers,
      Text.Ranges.covers, Text.Ranges.covers, if_neg (by omega), if_neg (by omega),
      if_pos (by omega)]
    simp only [Bool.or_false, Bool.or_eq_false_iff, decide_eq_false_iff_not]
    omega
  · rintro rfl
    exact absurd code.1 (by decide)
  · rintro rfl
    exact absurd code.2 (by decide)
  · rintro rfl
    exact absurd code.2 (by decide)

theorem plain_of_readPlayer {player : String} (h : readPlayer (some player) = .ok player) :
    player ≠ "" ∧ Plain player.toList := by
  rw [readPlayer] at h
  split_ifs at h with empty allowed
  exact ⟨empty, fun c among => plain_of_isPlayerChar (List.all_eq_true.mp allowed c among)⟩

/-! ## Players that are no part of the key -/

/-- A placeholder for the battle cannot run across such a player. -/
theorem inert_of_readPlayer {player battle : String}
    (accepted : readPlayer (some player) = .ok player)
    (apart : ¬ player.toList <:+: battleKey.toList) : Inert player [(battleKey, battle)] := by
  obtain ⟨nonempty, plain⟩ := plain_of_readPlayer accepted
  exact ⟨plain, nonempty, fun pair listed => List.mem_singleton.mp listed ▸ apart⟩

/-- What puts in both values at once puts in one after the other. -/
theorem eq_fillPrompt {templates : Templates} {player battle : String}
    (accepted : readPlayer (some player) = .ok player)
    (apart : ¬ player.toList <:+: battleKey.toList) {out : List Char}
    (h : Substituted (values player battle) templates.prompt.toList out) :
    out = (templates.fillPrompt player battle).toList := by
  have keys : ∀ pair ∈ [(battleKey, battle)], Plain pair.1.toList := fun pair listed =>
    List.mem_singleton.mp listed ▸ plain_battleKey
  have distinct : playerKey ∉ [(battleKey, battle)].map Prod.fst := by
    simp [playerKey, battleKey]
  obtain ⟨between, first, second⟩ := h.one_after_the_other keys (apart_values player battle)
    distinct (inert_of_readPlayer accepted apart)
  have same := first.unique (.singleton _) (substituted_substitute templates.prompt _)
  subst same
  exact second.unique (.singleton _) (substituted_substitute _ _)

/-- Putting in both values at once has exactly one result. -/
theorem substituted_iff (template player battle : String) (out : List Char) :
    Substituted (values player battle) template.toList out ↔
      out = (substitute template (values player battle)).toList := by
  have whole := substituted_substitute template (values player battle)
  constructor
  · intro h
    exact h.unique (apart_values player battle) whole
  · rintro rfl
    exact whole

/-! ## The template that comes with the program -/

/-- The parts of the standard template around its placeholders. -/
def standardParts : List Char × List Char × List Char × List Char :=
  ("You are controlling player `".toList,
    "`.\n\nHere is the current battle input:\n\n```json\n".toList,
    "\n```\n\nChoose the next action for `".toList, "`.\n".toList)

/-- The placeholder for a key, with a space on both sides of the key. -/
def spacedPlaceholder (key : String) : List Char :=
  opening ++ ([' '] ++ (key.toList ++ ([' '] ++ closing)))

theorem isPlaceholder_spaced (key : String) : IsPlaceholder key.toList (spacedPlaceholder key) := by
  have blank : Blanks [' '] := by decide
  exact ⟨[' '], [' '], blank, blank, rfl⟩

/-- The parts with texts for the two placeholders. -/
def assembled (player battle : List Char) : List Char :=
  standardParts.1 ++ (player ++ (standardParts.2.1 ++ (battle ++
    (standardParts.2.2.1 ++ (player ++ standardParts.2.2.2)))))

theorem standardPrompt_eq :
    standard.prompt.toList =
      assembled (spacedPlaceholder playerKey) (spacedPlaceholder battleKey) := by
  decide +kernel

theorem dollar_notMem_standardParts : '$' ∉ standardParts.1 ∧ '$' ∉ standardParts.2.1 ∧
    '$' ∉ standardParts.2.2.1 ∧ '$' ∉ standardParts.2.2.2 := by
  decide

/-- What is put into the standard template stands at the places of the placeholders. -/
theorem substituted_assembled {values : List (String × String)}
    {player player' battle battle' : List Char}
    (first : ∀ {rest out}, Substituted values rest out →
      Substituted values (player ++ rest) (player' ++ out))
    (second : ∀ {rest out}, Substituted values rest out →
      Substituted values (battle ++ rest) (battle' ++ out)) :
    Substituted values (assembled player battle) (assembled player' battle') := by
  obtain ⟨a, b, c, d⟩ := dollar_notMem_standardParts
  rw [← List.forall_mem_ne'] at a b c d
  exact .append_copied a (first (.append_copied b (second (.append_copied c (first
    (.all_copied d))))))

theorem fillPrompt_standard {player battle : String}
    (accepted : readPlayer (some player) = .ok player) :
    (standard.fillPrompt player battle).toList = assembled player.toList battle.toList := by
  obtain ⟨-, plain⟩ := plain_of_readPlayer accepted
  have between : (fill standard.prompt playerKey player).toList =
      assembled player.toList (spacedPlaceholder battleKey) := by
    refine (substituted_substitute _ _).unique (.singleton _) ?_
    rw [standardPrompt_eq]
    refine substituted_assembled (fun others => ?_) fun {rest} _ others => ?_
    · exact .placeholder List.mem_cons_self (isPlaceholder_spaced playerKey) others
    · refine others.append_placeholder plain_battleKey (isPlaceholder_spaced battleKey) ?_
      exact (apart_values player battle).not_matches (by simp [playerKey, battleKey])
        List.mem_cons_self (isPlaceholder_spaced battleKey) rest
  refine (substituted_substitute _ _).unique (.singleton _) ?_
  rw [between]
  refine substituted_assembled (fun others => ?_) fun others => ?_
  · exact others.append_copied fun c h => (plain c h).2.1
  · exact .placeholder List.mem_cons_self (isPlaceholder_spaced battleKey) others

theorem substituted_standard (player battle : String) :
    Substituted (values player battle) standard.prompt.toList
      (assembled player.toList battle.toList) := by
  rw [standardPrompt_eq]
  refine substituted_assembled (fun others => ?_) fun others => ?_
  · exact .placeholder List.mem_cons_self (isPlaceholder_spaced playerKey) others
  · exact .placeholder (List.mem_cons_of_mem _ List.mem_cons_self) (isPlaceholder_spaced battleKey)
      others

/-! ## Players that are a part of the key -/

/-- A template in which the rest of the key of the battle stands around the player. -/
def around (front behind : List Char) : List Char :=
  opening ++ (front ++ (spacedPlaceholder playerKey ++ (behind ++ closing)))

theorem isPlaceholder_key (key : String) :
    IsPlaceholder key.toList (opening ++ (key.toList ++ closing)) :=
  ⟨[], [], by simp [Blanks], by simp [Blanks], rfl⟩

/-- No placeholder begins where the rest of the key does: it would have to go on up to a brace, and
in front of the first closing brace there is a second `$`. -/
theorem not_matches_around {values : List (String × String)}
    (keys : ∀ pair ∈ values, Plain pair.1.toList) {front : List Char} (plain : Plain front)
    (behind : List Char) : ¬ Matches values (around front behind) := by
  rintro ⟨key, value, found, listed, is, starts⟩
  obtain ⟨tail, rfl, noDollar⟩ := is.dollar_first (keys _ listed)
  have closed : '\x7d' ∈ tail := List.mem_of_getLast? is.getLast?_tail
  have unclosed : '\x7d' ∉ ['\x7b', '\x7b'] ++ front := by
    intro among
    rcases List.mem_append.mp among with brace | inFront
    · exact absurd brace (by decide)
    · exact (plain _ inFront).2.2.2 rfl
  obtain ⟨-, starts⟩ := List.cons_prefix_cons.mp starts
  have whole : tail <+: (['\x7b', '\x7b'] ++ front) ++
      '$' :: ((spacedPlaceholder playerKey).tail ++ (behind ++ closing)) := by
    simpa [around, opening, spacedPlaceholder] using starts
  rcases List.prefix_or_prefix_of_prefix whole (List.prefix_append _ _) with inside | across
  · exact unclosed (inside.subset closed)
  · obtain ⟨more, rfl⟩ := across
    cases more with
    | nil =>
      rw [List.append_nil] at closed
      exact unclosed closed
    | cons c more =>
      obtain ⟨rfl, -⟩ := List.cons_prefix_cons.mp ((List.prefix_append_right_inj _).mp whole)
      exact noDollar '$' (List.mem_append_right _ List.mem_cons_self) rfl

/-- In such a template the player is put in, and nothing else. -/
theorem substituted_around {values : List (String × String)}
    (keys : ∀ pair ∈ values, Plain pair.1.toList) {player : String}
    (listed : (playerKey, player) ∈ values) {front behind : List Char} (plain : Plain front)
    (plain' : Plain behind) :
    Substituted values (around front behind)
      (opening ++ (front ++ (player.toList ++ (behind ++ closing)))) := by
  have rest : Substituted values (behind ++ closing) (behind ++ closing) := by
    refine .all_copied fun c among => ?_
    rcases List.mem_append.mp among with inBehind | inClosing
    · exact (plain' c inBehind).2.1
    · rintro rfl
      exact absurd inClosing (by decide)
  have inside := Substituted.placeholder listed (isPlaceholder_spaced playerKey) rest
  have braces : ∀ c ∈ ['\x7b', '\x7b'] ++ front, c ≠ '$' := by
    intro c among
    rcases List.mem_append.mp among with brace | inFront
    · rintro rfl
      exact absurd brace (by decide)
    · exact (plain c inFront).2.1
  have later := inside.append_copied braces
  simp only [List.cons_append, List.nil_append] at later
  exact .copied (not_matches_around keys plain behind) later

theorem Plain.of_append {text others : List Char} (h : Plain (text ++ others)) :
    Plain text ∧ Plain others :=
  ⟨fun c among => h c (List.mem_append_left _ among),
    fun c among => h c (List.mem_append_right _ among)⟩

/-- Once such a player is put in, there is a placeholder for the battle. -/
theorem fillPrompt_around {player battle : String} {front behind : List Char}
    (key : front ++ player.toList ++ behind = battleKey.toList) (context : String) :
    (fillPrompt ⟨context, String.ofList (around front behind)⟩ player battle).toList =
      battle.toList := by
  obtain ⟨inFront, inBehind⟩ := Plain.of_append (key ▸ plain_battleKey)
  have keys : ∀ pair ∈ [(playerKey, player)], Plain pair.1.toList := fun pair listed =>
    List.mem_singleton.mp listed ▸ plain_playerKey
  have between : (fill (String.ofList (around front behind)) playerKey player).toList =
      opening ++ (battleKey.toList ++ closing) := by
    refine (substituted_substitute _ _).unique (.singleton _) ?_
    rw [String.toList_ofList, ← key]
    simpa using substituted_around keys List.mem_cons_self (Plain.of_append inFront).1 inBehind
  have nothing : Substituted [(battleKey, battle)] [] [] := .nil
  refine (substituted_substitute _ _).unique (.singleton _) ?_
  rw [between]
  simpa using nothing.placeholder (List.mem_singleton.mpr rfl) (isPlaceholder_key battleKey)

theorem readPlayer_of_infix {player : String} (nonempty : player ≠ "")
    (part : player.toList <:+: battleKey.toList) : readPlayer (some player) = .ok player := by
  have allowed : battleKey.toList.all isPlayerChar = true := by decide
  rw [readPlayer, if_neg nonempty, if_pos]
  exact List.all_eq_true.mpr fun c among => List.all_eq_true.mp allowed c (part.subset among)

theorem dollar_notMem_leastBattle {others : List Char} :
    '$' :: others ≠ leastBattle.write.toList := by
  rw [Json.Value.write, String.toList_ofList, leastBattle, Json.Value.chars]
  simp

/-- **Nothing that was put in is looked at again.** For players that are no part of the key of the
battle the prompt is what going through the template once makes, and no other text is. For the
template that comes with the program this holds for all players. For each part of the key, put in
as the player, there is a template and a battle for which it does not hold. -/
theorem fillPrompt_simultaneous :
    (∀ (templates : Templates) (player battle : String),
      readPlayer (some player) = .ok player → ¬ player.toList <:+: battleKey.toList →
      ∀ out, Substituted (values player battle) templates.prompt.toList out ↔
        out = (templates.fillPrompt player battle).toList) ∧
    (∀ player battle : String, readPlayer (some player) = .ok player →
      ∀ out, Substituted (values player battle) standard.prompt.toList out ↔
        out = (standard.fillPrompt player battle).toList) ∧
    ∀ player : String, player ≠ "" → player.toList <:+: battleKey.toList →
      ∃ (templates : Templates) (text battle : String),
        readPlayer (some player) = .ok player ∧ readBattle (some text) = .ok battle ∧
        ¬ Substituted (values player battle) templates.prompt.toList
          (templates.fillPrompt player battle).toList := by
  refine ⟨?_, ?_, ?_⟩
  · intro templates player battle accepted apart out
    have same := eq_fillPrompt accepted apart
      (substituted_substitute templates.prompt (values player battle))
    rw [substituted_iff, same]
  · intro player battle accepted out
    have same := (substituted_iff standard.prompt player battle _).mp
      (substituted_standard player battle)
    rw [substituted_iff, ← same, fillPrompt_standard accepted]
  · intro player nonempty part
    obtain ⟨front, behind, key⟩ := part
    refine ⟨⟨"", String.ofList (around front behind)⟩, leastBattle.write, leastBattle.write,
      readPlayer_of_infix nonempty ⟨front, behind, key⟩, readBattle_leastBattle, ?_⟩
    obtain ⟨inFront, inBehind⟩ := Plain.of_append (key ▸ plain_battleKey)
    have once := substituted_around (plain_keys player leastBattle.write) List.mem_cons_self
      (Plain.of_append inFront).1 inBehind
    rw [fillPrompt_around key, String.toList_ofList]
    intro again
    exact dollar_notMem_leastBattle (once.unique (apart_values _ _) again)

/-- The template that comes with the program has placeholders for both keys. They stay as they are
where it is put in as the battle. -/
theorem fillPrompt_standard_twice :
    readPlayer (some "p1") = .ok "p1" ∧ ¬ "p1".toList <:+: battleKey.toList ∧
    Substituted (values "p1" standard.prompt) standard.prompt.toList
      (standard.fillPrompt "p1" standard.prompt).toList := by
  have accepted : readPlayer (some "p1") = .ok "p1" := by
    rw [readPlayer, if_neg (by decide), if_pos (by decide)]
  have apart : ¬ "p1".toList <:+: battleKey.toList := by decide
  exact ⟨accepted, apart,
    (fillPrompt_simultaneous.1 standard "p1" standard.prompt accepted apart _).mpr rfl⟩

end BattleAdvisor.Templates
