import BattleAdvisor.Proofs.Course
import BattleAdvisor.Proofs.Json.Canonical

/-!
# Battles

A text describes a battle if it spells, by the grammar of `Json.Spelling`, an object that can be
read and has all parts among its own keys.

**Theorem (`readBattle_text`).** Exactly these texts are accepted, each of the other texts is
refused for the reason that applies to it, and another spelling of what is accepted is accepted as
the same battle.
-/

namespace BattleAdvisor.Battle

open Json Json.Spelling

/-- The text spells an object that has these members and can be read. -/
def SpellsObject (text : String) (members : List Member) : Prop :=
  ∃ gap, Spells text (.object gap members) ∧ (Spelling.object gap members).Readable

/-- The object that a text spells has a value for a key if the key is among those of its members. -/
theorem SpellsObject.parse {text : String} {members : List Member}
    (h : SpellsObject text members) :
    ∃ all, Value.parse text = .ok (.object all) ∧
      ∀ key, (all.lookup key).isSome ↔ key ∈ keys members := by
  obtain ⟨gap, spells, readable⟩ := h
  obtain ⟨value, spelled, shallow⟩ := readable.exists_means
  have read : Value.parse text = .ok value :=
    Value.parse_eq_ok.mpr ⟨_, spells, spelled, shallow⟩
  rw [value?, Option.map_eq_some_iff] at spelled
  obtain ⟨pairs, each, rfl⟩ := spelled
  refine ⟨pairs.gather, read, ?_⟩
  intro key
  rw [Members.lookup_gather_isSome, keys_eq (membersValue?_eq_some.mp each)]

theorem SpellsObject.of_parse {text : String} {all : Members}
    (h : Value.parse text = .ok (.object all)) : ∃ members, SpellsObject text members := by
  obtain ⟨spelling, spells, means⟩ := Value.parse_eq_ok.mp h
  cases spelling with
  | object gap members => exact ⟨members, gap, spells, means.readable⟩
  | null | bool => cases means.1
  | number | string | array =>
    obtain ⟨_, _, other⟩ := Option.map_eq_some_iff.mp means.1
    cases other

/-! ## What becomes of a text -/

/-- What becomes of a text that can be read depends on the value that it spells. -/
theorem readBattle_of_spells {text : String} {spelling : Spelling} {value : Value}
    (spells : Spells text spelling) (means : spelling.Means nestingLimit value) :
    readBattle (some text) = ofValue value := by
  rw [readBattle, if_neg (spells.nonempty),
    Value.parse_eq_ok.mpr ⟨spelling, spells, means⟩]

theorem readBattle_of_parse {text : String} {value : Value} (h : Value.parse text = .ok value) :
    readBattle (some text) = ofValue value := by
  obtain ⟨spelling, spells, means⟩ := Value.parse_eq_ok.mp h
  exact readBattle_of_spells spells means

/-- What becomes of a text that spells an object. -/
theorem SpellsObject.readBattle {text : String} {members : List Member}
    (h : SpellsObject text members) :
    match sections.find? fun part => part.key ∉ keys members with
    | some part => Battle.readBattle (some text) = .error (.incomplete part)
    | none => ∃ battle, Battle.readBattle (some text) = .ok battle := by
  obtain ⟨all, read, found⟩ := h.parse
  have absent : (sections.find? fun part => ((Value.object all).member? part.key).isNone) =
      sections.find? fun part => part.key ∉ keys members := by
    congr 1
    funext part
    rw [Bool.eq_iff_iff, decide_eq_true_iff, ← found, Value.member?, Option.isNone_iff_eq_none,
      Option.isSome_iff_ne_none, not_not]
  obtain ⟨spelling, spells, means⟩ := Value.parse_eq_ok.mp read
  have same := readBattle_of_spells spells means
  rw [same, ofValue, absent]
  cases sections.find? fun part => part.key ∉ keys members with
  | some part => rfl
  | none => exact ⟨_, rfl⟩

/-- What becomes of any other text. -/
theorem readBattle_of_not_object {text : String} (nonempty : text ≠ "")
    (h : ¬ ∃ members, SpellsObject text members) :
    ∃ why, readBattle (some text) = .error (.badFormat why) := by
  rw [readBattle, if_neg nonempty]
  cases read : Value.parse text with
  | error error => exact ⟨_, rfl⟩
  | ok value =>
    cases value with
    | object all => exact absurd (SpellsObject.of_parse read) h
    | null | bool | number | string | array => exact ⟨_, rfl⟩

theorem readBattle_empty : readBattle (some "") = .error (.missing .battle) := by
  rw [readBattle, if_pos rfl]

/-- The four things that can become of a text. -/
theorem readBattle_cases (text : String) :
    (text = "" ∧ readBattle (some text) = .error (.missing .battle)) ∨
    (∃ members part, SpellsObject text members ∧
      sections.find? (fun part => part.key ∉ keys members) = some part ∧
      readBattle (some text) = .error (.incomplete part)) ∨
    (∃ members battle, SpellsObject text members ∧ (∀ part ∈ sections, part.key ∈ keys members) ∧
      readBattle (some text) = .ok battle) ∨
    (text ≠ "" ∧ (¬ ∃ members, SpellsObject text members) ∧
      ∃ why, readBattle (some text) = .error (.badFormat why)) := by
  by_cases empty : text = ""
  · subst empty
    exact .inl ⟨rfl, readBattle_empty⟩
  by_cases object : ∃ members, SpellsObject text members
  · obtain ⟨members, spells⟩ := object
    have result := spells.readBattle
    cases first : sections.find? fun part => part.key ∉ keys members with
    | some part =>
      rw [first] at result
      exact .inr (.inl ⟨members, part, spells, first, result⟩)
    | none =>
      rw [first] at result
      obtain ⟨battle, accepted⟩ := result
      refine .inr (.inr (.inl ⟨members, battle, spells, ?_, accepted⟩))
      simpa using first
  · exact .inr (.inr (.inr ⟨empty, object, readBattle_of_not_object empty object⟩))

/-! ## The four results -/

theorem readBattle_ok_iff {text : String} :
    (∃ battle, readBattle (some text) = .ok battle) ↔
      ∃ members, SpellsObject text members ∧ ∀ part ∈ sections, part.key ∈ keys members := by
  constructor
  · rintro ⟨battle, accepted⟩
    rcases readBattle_cases text with ⟨-, failed⟩ | ⟨_, _, -, -, failed⟩ |
      ⟨members, _, spells, complete, -⟩ | ⟨-, -, _, failed⟩
    · simp [accepted] at failed
    · simp [accepted] at failed
    · exact ⟨members, spells, complete⟩
    · simp [accepted] at failed
  · rintro ⟨members, spells, complete⟩
    have result := spells.readBattle
    have first : sections.find? (fun part => part.key ∉ keys members) = none := by
      simpa using complete
    rw [first] at result
    exact result

theorem readBattle_missing_iff {text : String} :
    readBattle (some text) = .error (.missing .battle) ↔ text = "" := by
  constructor
  · intro result
    rcases readBattle_cases text with ⟨empty, -⟩ | ⟨_, _, -, -, other⟩ | ⟨_, _, -, -, other⟩ |
      ⟨-, -, _, other⟩
    · exact empty
    · simp [result] at other
    · simp [result] at other
    · simp [result] at other
  · rintro rfl
    exact readBattle_empty

theorem readBattle_incomplete_iff {text : String} {part : Section} :
    readBattle (some text) = .error (.incomplete part) ↔
      ∃ members, SpellsObject text members ∧
        sections.find? (fun part => part.key ∉ keys members) = some part := by
  constructor
  · intro result
    rcases readBattle_cases text with ⟨-, other⟩ | ⟨members, first, spells, absent, same⟩ |
      ⟨_, _, -, -, other⟩ | ⟨-, -, _, other⟩
    · simp [result] at other
    · rw [result] at same
      cases same
      exact ⟨members, spells, absent⟩
    · simp [result] at other
    · simp [result] at other
  · rintro ⟨members, spells, first⟩
    have result := spells.readBattle
    rw [first] at result
    exact result

theorem readBattle_badFormat_iff {text : String} :
    (∃ why, readBattle (some text) = .error (.badFormat why)) ↔
      text ≠ "" ∧ ¬ ∃ members, SpellsObject text members := by
  constructor
  · rintro ⟨why, result⟩
    rcases readBattle_cases text with ⟨-, other⟩ | ⟨_, _, -, -, other⟩ | ⟨_, _, -, -, other⟩ |
      ⟨nonempty, object, -⟩
    · simp [result] at other
    · simp [result] at other
    · simp [result] at other
    · exact ⟨nonempty, object⟩
  · rintro ⟨nonempty, object⟩
    exact readBattle_of_not_object nonempty object

/-! ## The least battle -/

/-- The least battle: all parts are there, and there is nothing in them. -/
def leastBattle : Value :=
  .object [("battle_state", .null), ("failed_actions", .null), ("player_data", .null),
    ("request_data", .null)]

theorem ofValue_leastBattle : ofValue leastBattle = .ok leastBattle.write := by
  have complete : (sections.find? fun part => (leastBattle.member? part.key).isNone) = none := by
    decide
  rw [leastBattle, ofValue]
  rw [leastBattle] at complete
  rw [complete]

theorem regular_leastBattle : leastBattle.Regular nestingLimit := by
  refine .object ?_ ?_
  · rw [Members.Ascending]
    decide
  · intro member among
    simp only [List.mem_cons, List.not_mem_nil, or_false] at among
    rcases among with rfl | rfl | rfl | rfl <;> exact .null _

theorem readBattle_leastBattle :
    readBattle (some leastBattle.write) = .ok leastBattle.write := by
  rw [readBattle_of_parse regular_leastBattle.parse_write, ofValue_leastBattle]

/-! ## A battle that is not in its canonical spelling -/

theorem eq_write_of_ofValue {value : Value} {battle : String} (h : ofValue value = .ok battle) :
    battle = value.write := by
  rw [ofValue.eq_def] at h
  split at h
  · split at h
    · cases h
    · cases h
      rfl
  · cases h

/-- A battle with gaps, escapes, a surrogate pair and whole numbers. Its keys do not ascend, and one
is there twice. -/
def wildBattle : String :=
  " \x7b \"request_data\": \x7b\"turn\": 1\x7d,\n" ++
  "\t\"player_data\": \x7b\"name\": \"Ren\\u00e9\", \"hp\": [12, -3, [ ]]\x7d,\n" ++
  "\t\"failed\\u005factions\": [true],\n" ++
  "\t\"battle_state\": \x7b\"z\": null, \"a\": \"\\ud83d\\ude00 \\\"\\/\\n\"\x7d,\n" ++
  "\t\"request_data\": \x7b\"turn\": 2\x7d \x7d\n"

/-- The same battle in its canonical spelling. -/
def canonicalBattle : String :=
  "\x7b\"battle_state\":\x7b\"a\":\"😀 \\\"/\\n\",\"z\":null\x7d,\"failed_actions\":[true]," ++
  "\"player_data\":\x7b\"hp\":[12,-3,[]],\"name\":\"René\"\x7d,\"request_data\":\x7b\"turn\":2\x7d\x7d"

theorem readBattle_wildBattle : readBattle (some wildBattle) = .ok canonicalBattle :=
  eq_ok_of_toOption (by decide +kernel)

theorem exists_parse_wildBattle :
    ∃ value, Value.parse wildBattle = .ok value ∧ value.floats = [] := by
  have whole : (Value.parse wildBattle).toOption.any (·.floats.isEmpty) = true := by
    decide +kernel
  obtain ⟨value, read, none⟩ := (Option.any_eq_true _ _).mp whole
  exact ⟨value, eq_ok_of_toOption read, List.isEmpty_iff.mp none⟩

/-! ## Acceptance -/

/-- **Acceptance of battles.** A text is accepted exactly if it spells an object that can be read
and has all parts among its own keys. Otherwise it is empty, or it spells such an object that lacks
a part, of which the first is named, or it is of a wrong form. What becomes of a text that can be
read depends on the value that it spells, and not on gaps, on the pieces of its strings, and on the
order of members with different keys. -/
theorem readBattle_text (text : String) :
    ((∃ battle, readBattle (some text) = .ok battle) ↔
      ∃ members, SpellsObject text members ∧ ∀ part ∈ sections, part.key ∈ keys members) ∧
    (readBattle (some text) = .error (.missing .battle) ↔ text = "") ∧
    (∀ part, readBattle (some text) = .error (.incomplete part) ↔
      ∃ members, SpellsObject text members ∧
        sections.find? (fun part => part.key ∉ keys members) = some part) ∧
    ((∃ why, readBattle (some text) = .error (.badFormat why)) ↔
      text ≠ "" ∧ ¬ ∃ members, SpellsObject text members) ∧
    (∀ other spelling spelling', Spells text spelling → Spells other spelling' →
      spelling.Readable → spelling'.Readable → spelling.value? = spelling'.value? →
      readBattle (some text) = readBattle (some other)) ∧
    ∀ other spelling spelling', Spells text spelling → Spells other spelling' →
      spelling.Readable → Respelled spelling spelling' →
      readBattle (some text) = readBattle (some other) := by
  refine ⟨readBattle_ok_iff, readBattle_missing_iff, fun _ => readBattle_incomplete_iff,
    readBattle_badFormat_iff, ?_, ?_⟩
  · intro other spelling spelling' spells spells' readable readable' same
    obtain ⟨value, means⟩ := readable.exists_means
    rw [readBattle_of_spells spells means,
      readBattle_of_spells spells' ⟨same ▸ means.1, readable'.shallow⟩]
  · intro other spelling spelling' spells spells' readable respelled
    obtain ⟨value, means⟩ := readable.exists_means
    rw [readBattle_of_spells spells means,
      readBattle_of_spells spells' (respelled.means means)]

theorem wildBattle_accepted :
    (∃ members, SpellsObject wildBattle members ∧ ∀ part ∈ sections, part.key ∈ keys members) ∧
    readBattle (some wildBattle) = readBattle (some canonicalBattle) := by
  obtain ⟨value, read, whole⟩ := exists_parse_wildBattle
  obtain ⟨spelling, spells, means⟩ := Value.parse_eq_ok.mp read
  have regular := regular_of_means means (by simp [whole])
  have described : ofValue value = .ok canonicalBattle :=
    readBattle_of_parse read ▸ readBattle_wildBattle
  have same := regular.parse_write
  rw [← eq_write_of_ofValue described] at same
  obtain ⟨spelling', spells', means'⟩ := Value.parse_eq_ok.mp same
  refine ⟨(readBattle_text wildBattle).1.mp ⟨_, readBattle_wildBattle⟩, ?_⟩
  exact (readBattle_text wildBattle).2.2.2.2.1 canonicalBattle spelling spelling' spells spells'
    means.readable means'.readable (means.1.trans means'.1.symm)

/-! ## The canonical spelling -/

/-- A player that was accepted is accepted again. -/
theorem readPlayer_again {player? : Option String} {player : String}
    (h : readPlayer player? = .ok player) : readPlayer (some player) = .ok player := by
  cases player? with
  | none => cases h
  | some given =>
    have same : given = player := by
      rw [readPlayer] at h
      split at h
      · cases h
      split at h
      · cases h
        rfl
      · cases h
    rw [← same] at h ⊢
    exact h

/-- A path is accepted as it is, if it is not empty and leads to a directory. -/
theorem readDirectory_eq_ok {fs : FileSystem} {path dir : Path} :
    Question.readDirectory fs (some path) = .ok dir ↔
      path = dir ∧ path.bytes ≠ [] ∧ fs.isDirectory path = true := by
  unfold Question.readDirectory
  dsimp only
  constructor
  · intro accepted
    split_ifs at accepted with empty absent other
    exact ⟨Except.ok.inj accepted, empty, by simpa using other⟩
  · rintro ⟨rfl, given, found⟩
    have present : fs.exists? path = true := by
      unfold FileSystem.isDirectory at found
      unfold FileSystem.exists?
      split at found
      next leads => rw [leads]
      next => cases found
    rw [if_neg given, present, found]
    rfl

/-- A directory that was accepted is accepted again. -/
theorem readDirectory_again {fs : FileSystem} {path path' : Path}
    (h : Question.readDirectory fs (some path) = .ok path') :
    Question.readDirectory fs (some path') = .ok path' := by
  obtain ⟨rfl, -, -⟩ := readDirectory_eq_ok.mp h
  exact h

/-- What a question is made of; its directory is one. -/
structure MadeOf (fs : FileSystem) (player? battle? : Option String) (useCache : Bool)
    (dataDirectory? : Option Path) (useDataFiles : Bool) (question : Question) : Prop where
  player : readPlayer player? = .ok question.player
  battle : readBattle battle? = .ok question.battle
  cached : question.useCache = useCache
  given : question.dataDirectory? = dataDirectory?
  wanted : question.useDataFiles = useDataFiles
  found : ∀ dir, dataDirectory? = some dir → fs.isDirectory dir = true

theorem of_make {fs : FileSystem} {player? battle? : Option String} {useCache : Bool}
    {dataDirectory? : Option Path} {useDataFiles : Bool} {question : Question}
    (h : Question.make fs player? battle? useCache dataDirectory? useDataFiles = .ok question) :
    MadeOf fs player? battle? useCache dataDirectory? useDataFiles question := by
  simp only [Question.make, bind, Except.bind] at h
  split at h
  next => cases h
  next player named =>
    split at h
    next => cases h
    next battle described =>
      cases dataDirectory? with
      | none =>
        cases h
        exact ⟨named, described, rfl, rfl, rfl, nofun⟩
      | some path =>
        dsimp only at h
        split at h
        next => cases h
        next dir accepted =>
          cases h
          obtain ⟨rfl, -, found⟩ := readDirectory_eq_ok.mp accepted
          refine ⟨named, described, rfl, rfl, rfl, ?_⟩
          rintro dir ⟨⟩
          exact found

/-- A question about the data files of a directory is accepted if its player and its battle are. -/
theorem make_of_isDirectory {fs : FileSystem} {player? battle? : Option String}
    {player battle : String} {dir : Path} (named : readPlayer player? = .ok player)
    (described : readBattle battle? = .ok battle) (given : dir.bytes ≠ [])
    (found : fs.isDirectory dir = true) (useCache useDataFiles : Bool) :
    Question.make fs player? battle? useCache (some dir) useDataFiles =
      .ok ⟨player, battle, useCache, some dir, useDataFiles⟩ := by
  have accepted : Question.readDirectory fs (some dir) = .ok dir :=
    readDirectory_eq_ok.mpr ⟨rfl, given, found⟩
  simp only [Question.make, named, described, accepted]
  rfl

/-- A question that was accepted is accepted again, if its battle is. -/
theorem make_again {fs : FileSystem} {player? battle? : Option String} {useCache : Bool}
    {dataDirectory? : Option Path} {useDataFiles : Bool} {question : Question}
    (again : ∀ battle, readBattle battle? = .ok battle → readBattle (some battle) = .ok battle)
    (h : Question.make fs player? battle? useCache dataDirectory? useDataFiles = .ok question) :
    Question.make fs (some question.player) (some question.battle) question.useCache
      question.dataDirectory? question.useDataFiles = .ok question := by
  simp only [Question.make, bind, Except.bind] at h
  split at h
  next => cases h
  next player named =>
    have named' := readPlayer_again named
    split at h
    next => cases h
    next battle described =>
      have described' := again battle described
      cases dataDirectory? with
      | none =>
        cases h
        simp only [Question.make, bind, Except.bind, named', described']
        rfl
      | some path =>
        simp only at h
        split at h
        next => cases h
        next path' found =>
          have found' := readDirectory_again found
          cases h
          simp only [Question.make, bind, Except.bind, named', described', found']
          rfl

/-- **The canonical spelling is a fixed point.** A battle that was accepted has the value of the
text that it was read from, and is accepted as itself. It has no gaps, and the keys of each object
in it ascend. The parts of a question that was accepted make the same question again. -/
theorem readBattle_canonical {text battle : String} {value : Value}
    (accepted : readBattle (some text) = .ok battle) (read : Value.parse text = .ok value)
    (readsBack : ∀ x ∈ value.floats, (Number.float x).ReadsBack) :
    Value.parse battle = .ok value ∧ readBattle (some battle) = .ok battle ∧
    (∃ spelling : Spelling, battle.toList = spelling.chars ∧ spelling.Canonical ∧
      spelling.value? = some value) ∧
    ∀ fs player? useCache dataDirectory? useDataFiles question,
      Question.make fs player? (some text) useCache dataDirectory? useDataFiles = .ok question →
      Question.make fs (some question.player) (some question.battle) question.useCache
        question.dataDirectory? question.useDataFiles = .ok question := by
  obtain ⟨spelling, -, means⟩ := Value.parse_eq_ok.mp read
  have regular := regular_of_means means readsBack
  have described : ofValue value = .ok battle := readBattle_of_parse read ▸ accepted
  obtain rfl := eq_write_of_ofValue described
  have again : readBattle (some value.write) = .ok value.write := by
    rw [readBattle_of_parse regular.parse_write, described]
  refine ⟨regular.parse_write, again, ?_, ?_⟩
  · obtain ⟨canonical, written⟩ := regular.exists_canonical
    refine ⟨canonical, ?_, written.canonical, written.means.1⟩
    rw [Value.write, String.toList_ofList, written.chars_eq]
  · intro fs player? useCache dataDirectory? useDataFiles question made
    refine make_again ?_ made
    intro battle accepted'
    rw [accepted] at accepted'
    cases accepted'
    exact again

theorem wildBattle_canonical :
    readBattle (some wildBattle) = .ok canonicalBattle ∧
    Value.parse canonicalBattle = Value.parse wildBattle ∧
    readBattle (some canonicalBattle) = .ok canonicalBattle := by
  obtain ⟨value, read, whole⟩ := exists_parse_wildBattle
  obtain ⟨same, again, -⟩ := readBattle_canonical readBattle_wildBattle read (by simp [whole])
  exact ⟨readBattle_wildBattle, same.trans read.symm, again⟩

end BattleAdvisor.Battle
