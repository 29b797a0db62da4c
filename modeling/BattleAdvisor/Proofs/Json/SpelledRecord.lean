import BattleAdvisor.Proofs.Json.SpelledContent
import BattleAdvisor.Proofs.Json.Skipping
import Mathlib.Data.List.Nodup

/-!
# Records that the grammar allows

A record may be spelled as an object, with members in any order, with unknown members among them,
and without those that say what the blank record says anyway; or as an array of its contents.

Main results, for formats that are `RecordFormat.Lawful`:

* `Lawful.parse_object_eq_ok`: an object is read as a record exactly if it tells the record
  (`RecordFormat.IsToldBy`).
* `Lawful.parse_repeated`: an object in which a field comes twice is refused.
* `Lawful.parse_listed`: an array of the contents of a record is read as the record.

`RecordFormat.Step` is what one member does to a draft of the record, and `RecordFormat.Steps` what
all of them do. The reader does nothing else (`Lawful.readMember_eq_ok`,
`Lawful.readMembers_eq_ok`), so the rest is about steps: `Lawful.account` is the invariant.
-/

namespace BattleAdvisor.Json

open Spelling

/-! ## Fields and formats -/

/-- The content of a field is read exactly from what spells it. -/
structure Field.Sound {α : Type} (field : Field α) : Prop where
  exact : ∀ bound, Exact (field.read bound) field.write
  gapless : ∀ bound, Gapless (field.read bound)

namespace Field

variable {α : Type}

theorem Sound.read_eq_ok {field : Field α} (sound : field.Sound) {bound : Nat} {gap : Gap}
    {spelling : Spelling} {rest rest' : List Char} (ends : EndsNumber rest)
    {content : field.Content} :
    field.read bound (gap.chars ++ (spelling.chars ++ rest)) = .ok (content, rest') ↔
      spelling.value? = some (field.write content) ∧ rest' = rest := by
  rw [sound.gapless, sound.exact bound spelling rest ends]

/-- Different contents are not written alike, if there is a text that spells them. -/
theorem Sound.eq_of_value? {field : Field α} (sound : field.Sound) {spelling : Spelling}
    {content other : field.Content} (h : spelling.value? = some (field.write content))
    (h' : spelling.value? = some (field.write other)) : content = other := by
  have read := (sound.exact 0 spelling [] .nil content []).mpr ⟨h, rfl⟩
  have read' := (sound.exact 0 spelling [] .nil other []).mpr ⟨h', rfl⟩
  rw [read] at read'
  cases read'
  rfl

theorem sound_text (key : String) (presence : Presence) (get : α → String)
    (set : String → α → α) : (Field.text key presence get set).Sound :=
  ⟨fun _ => exact_readText, fun _ => gapless_readText⟩

theorem sound_optionalText (key : String) (presence : Presence) (get : α → Option String)
    (set : Option String → α → α) : (Field.optionalText key presence get set).Sound :=
  ⟨fun _ => exact_readText.optional (by simp), fun _ => gapless_readOptional readText⟩

theorem sound_optionalCount (key : String) (presence : Presence) (get : α → Option Nat)
    (set : Option Nat → α → α) : (Field.optionalCount key presence get set).Sound :=
  ⟨fun _ => exact_readCount.optional (by simp [writeCount]),
    fun _ => gapless_readOptional readCount⟩

end Field

namespace RecordFormat

variable {α : Type} {format : RecordFormat α}

/-- The fields of a format are independent of each other, make up the records, and can be told
apart by their keys. -/
structure Lawful (format : RecordFormat α) : Prop where
  distinct : (format.fields.map Field.key).Nodup
  sound : ∀ field ∈ format.fields, field.Sound
  get_set : ∀ field ∈ format.fields, ∀ content record,
    field.get (field.set content record) = content
  get_set_of_ne : ∀ field ∈ format.fields, ∀ other ∈ format.fields, other.key ≠ field.key →
    ∀ content record, other.get (field.set content record) = other.get record
  ext : ∀ record record', (∀ field ∈ format.fields, field.get record = field.get record') →
    record = record'

theorem Lawful.eq_of_key (lawful : format.Lawful) {field other : Field α}
    (h : field ∈ format.fields) (h' : other ∈ format.fields) (same : field.key = other.key) :
    field = other :=
  List.inj_on_of_nodup_map lawful.distinct h h' same

/-! ## Members -/

/-- What a member does to a draft: one with an unknown key does nothing, whatever its value is, and
one with the key of a field sets the content, but only once. -/
inductive Step (format : RecordFormat α) (draft : Draft α) (key : String) (value : Spelling) :
    Draft α → Prop
  | unknown (other : ∀ field ∈ format.fields, field.key ≠ key) : Step format draft key value draft
  | known {field : Field α} (among : field ∈ format.fields) (same : field.key = key)
      (fresh : key ∉ draft.seen) {content : field.Content}
      (told : value.value? = some (field.write content)) :
      Step format draft key value ⟨field.set content draft.record, key :: draft.seen⟩

/-- What members do to a draft one after another. -/
inductive Steps (format : RecordFormat α) : Draft α → List Member → Draft α → Prop
  | nil (draft : Draft α) : Steps format draft [] draft
  | cons {draft next last : Draft α} {member : Member} {key : String} {members : List Member}
      (named : Piece.text? member.1.core = some key)
      (first : format.Step draft key member.2.core next)
      (others : Steps format next members last) : Steps format draft (member :: members) last

theorem steps_nil {draft last : Draft α} : format.Steps draft [] last ↔ last = draft := by
  constructor
  · rintro ⟨⟩
    rfl
  · rintro rfl
    exact .nil last

theorem failClosing_ne_ok {β : Type} {close : Char} {cause : Cause} {text rest : List Char}
    {b : β} : failClosing close cause text ≠ .ok (b, rest) := by
  rw [failClosing]
  split <;> simp

/-- A member with an unknown key is passed over. -/
theorem readMember_of_unknown {bound : Nat} (draft : Draft α) {key : String} {member : Member}
    (other : ∀ field ∈ format.fields, field.key ≠ key)
    (fits : member.2.core.chars.length ≤ bound) {rest : List Char} (ends : EndsNumber rest) :
    format.readMember bound draft key (member.1.after.chars ++ ':' ::
        (member.2.before.chars ++ (member.2.core.chars ++ rest))) = .ok (draft, rest) := by
  have unknown : (format.fields.find? fun field => field.key = key) = none := by simpa using other
  have passed := member.2.core.skip_chars member.2.before fits ends
  simp only [RecordFormat.readMember, unknown, readColon_chars, Reader.map, passed]

/-- A member with the key of a field is read as the content, unless the field was seen before. -/
theorem Lawful.readMember_of_known (lawful : format.Lawful) {bound : Nat} {draft next : Draft α}
    {field : Field α} (among : field ∈ format.fields) {member : Member} {rest rest' : List Char}
    (ends : EndsNumber rest) :
    format.readMember bound draft field.key (member.1.after.chars ++ ':' ::
        (member.2.before.chars ++ (member.2.core.chars ++ rest))) = .ok (next, rest') ↔
      field.key ∉ draft.seen ∧ (∃ content, member.2.core.value? = some (field.write content) ∧
        ⟨field.set content draft.record, field.key :: draft.seen⟩ = next) ∧ rest' = rest := by
  have read := @(lawful.sound field among).read_eq_ok _ _ bound member.2.before member.2.core
  simp only [RecordFormat.readMember, find?_field lawful.distinct among, readColon_chars]
  by_cases seen : field.key ∈ draft.seen
  · rw [if_pos (by simpa using seen)]
    exact iff_of_false failClosing_ne_ok fun h => h.1 seen
  · rw [if_neg (by simpa using seen)]
    constructor
    · intro h
      split at h
      next => cases h
      next content others taken =>
        obtain ⟨told, rfl⟩ := (read ends).mp taken
        cases h
        exact ⟨seen, ⟨content, told, rfl⟩, rfl⟩
    · rintro ⟨-, ⟨content, told, rfl⟩, rfl⟩
      rw [(read ends).mpr ⟨told, rfl⟩]

/-- A member is read up to its end, and does what it does to the draft. -/
theorem Lawful.readMember_eq_ok (lawful : format.Lawful) {bound : Nat} {draft next : Draft α}
    {key : String} {member : Member} (fits : member.2.core.chars.length ≤ bound)
    {rest rest' : List Char} (ends : EndsNumber rest) :
    format.readMember bound draft key (member.1.after.chars ++ ':' ::
        (member.2.before.chars ++ (member.2.core.chars ++ rest))) = .ok (next, rest') ↔
      format.Step draft key member.2.core next ∧ rest' = rest := by
  by_cases known : ∃ field ∈ format.fields, field.key = key
  · obtain ⟨field, among, rfl⟩ := known
    rw [lawful.readMember_of_known among ends]
    constructor
    · rintro ⟨fresh, ⟨content, told, rfl⟩, rfl⟩
      exact ⟨.known among rfl fresh told, rfl⟩
    · rintro ⟨step, rfl⟩
      cases step with
      | unknown other => exact absurd rfl (other field among)
      | known among' same fresh told =>
        obtain rfl := lawful.eq_of_key among' among same
        exact ⟨fresh, ⟨_, told, rfl⟩, rfl⟩
  · have other : ∀ field ∈ format.fields, field.key ≠ key :=
      fun field among same => known ⟨field, among, same⟩
    rw [readMember_of_unknown draft other fits ends, Except.ok.injEq, Prod.mk.injEq]
    constructor
    · rintro ⟨rfl, rfl⟩
      exact ⟨.unknown other, rfl⟩
    · rintro ⟨step, rfl⟩
      cases step with
      | unknown => exact ⟨rfl, rfl⟩
      | known among same => exact absurd same (other _ among)

/-- The key of a member is read, too. -/
theorem Lawful.readNamed_eq_ok (lawful : format.Lawful) {bound : Nat} {draft next : Draft α}
    {member : Member} (fits : member.2.core.chars.length ≤ bound) {rest rest' : List Char}
    (ends : EndsNumber rest) :
    Json.readMember (format.readMember bound) draft (member.1.core.flatMap Piece.chars ++ '"' ::
        (member.1.after.chars ++ ':' ::
          (member.2.before.chars ++ (member.2.core.chars ++ rest)))) = .ok (next, rest') ↔
      (∃ key, Piece.text? member.1.core = some key ∧
        format.Step draft key member.2.core next) ∧ rest' = rest := by
  rw [Json.readMember]
  constructor
  · intro h
    split at h
    next => cases h
    next key others taken =>
      obtain ⟨named, rfl⟩ := readString_eq_ok.mp taken
      obtain ⟨step, rfl⟩ := (lawful.readMember_eq_ok fits ends).mp h
      exact ⟨⟨key, named, step⟩, rfl⟩
  · rintro ⟨⟨key, named, step⟩, rfl⟩
    simp only [readString_pieces named]
    exact (lawful.readMember_eq_ok fits ends).mpr ⟨step, rfl⟩

/-- The members behind a member are read up to the end of the object, and do what they do. -/
theorem Lawful.readMembersFrom_eq_ok (lawful : format.Lawful) {bound limit : Nat}
    {draft last : Draft α} {members : List Member} (short : members.length < limit)
    (fits : ∀ member ∈ members, member.2.core.chars.length ≤ bound) (after : Gap)
    (rest rest' : List Char) :
    readMembersFrom (format.readMember bound) limit draft
        (after.chars ++ (membersChars members ++ rest)) = .ok (last, rest') ↔
      format.Steps draft members last ∧ rest' = rest := by
  induction members generalizing draft limit after with
  | nil =>
    obtain ⟨limit, rfl⟩ : ∃ n, limit = n + 1 := ⟨limit - 1, by simp at short; omega⟩
    simp [membersChars, readMembersFrom, skipGap_cons (show isGap '\x7d' = false from rfl),
      steps_nil, eq_comm]
  | cons member members ih =>
    obtain ⟨limit, rfl⟩ : ∃ n, limit = n + 1 := ⟨limit - 1, by simp at short; omega⟩
    have later (next : Draft α) := @ih limit next (by simpa using short)
      (fun member h => fits member (List.mem_cons_of_mem _ h)) member.2.after
    have comma : (',' = '\x7d') = False := by simp
    simp only [membersChars, Piece.quoted, List.cons_append, List.append_assoc, List.nil_append,
      readMembersFrom, skipGap_gap, skipGap_cons (show isGap ',' = false from rfl),
      skipGap_cons (show isGap '"' = false from rfl), comma, if_false, if_true]
    have read {next : Draft α} {others : List Char} := @lawful.readNamed_eq_ok _ _ bound draft next
      member (fits member List.mem_cons_self) _ others
      (member.2.after.endsNumber (endsNumber_membersChars members rest))
    constructor
    · intro h
      split at h
      next => cases h
      next next others taken =>
        obtain ⟨⟨key, named, step⟩, rfl⟩ := read.mp taken
        obtain ⟨steps, rfl⟩ := (later next).mp h
        exact ⟨.cons named step steps, rfl⟩
    · rintro ⟨steps, rfl⟩
      cases steps with
      | cons named step steps =>
        rw [read.mpr ⟨⟨_, named, step⟩, rfl⟩]
        exact (later _).mpr ⟨steps, rfl⟩

/-- An object is read up to its end, and its members do what they do to the draft. -/
theorem Lawful.readMembers_eq_ok (lawful : format.Lawful) {bound : Nat} {draft last : Draft α}
    {gap : Gap} {members : List Member} (fits : (Spelling.object gap members).chars.length ≤ bound)
    (rest rest' : List Char) :
    readMembers bound (format.readMember bound) draft
        ((Spelling.object gap members).chars.tail ++ rest) = .ok (last, rest') ↔
      format.Steps draft members last ∧ rest' = rest := by
  obtain ⟨short, fits⟩ := Spelling.fits_members fits
  cases members with
  | nil =>
    simp [Spelling.chars, readMembers, skipGap_cons (show isGap '\x7d' = false from rfl),
      steps_nil, eq_comm]
  | cons member members =>
    have whole := @lawful.readMembersFrom_eq_ok _ _ bound (bound + 1) draft last (member :: members)
      (Nat.lt_succ_of_lt short) fits Gap.none rest rest'
    simpa [Spelling.chars, membersChars, Piece.quoted, Gap.none, readMembers_quote] using whole

/-! ## What members say of a record -/

theorem keys_cons {member : Member} {key : String} (named : Piece.text? member.1.core = some key)
    (members : List Member) : keys (member :: members) = key :: keys members :=
  List.filterMap_cons_some named

theorem mem_keys {key : String} {members : List Member} :
    key ∈ keys members ↔ ∃ member ∈ members, Piece.text? member.1.core = some key :=
  List.mem_filterMap

/-- A member with another key leaves a field as it is. -/
theorem Lawful.step_other (lawful : format.Lawful) {draft next : Draft α} {key : String}
    {value : Spelling} (step : format.Step draft key value next) {field : Field α}
    (h : field ∈ format.fields) (other : field.key ≠ key) :
    field.get next.record = field.get draft.record ∧
      (field.key ∈ next.seen ↔ field.key ∈ draft.seen) := by
  cases step with
  | unknown => exact ⟨rfl, Iff.rfl⟩
  | known among same fresh told =>
    refine ⟨lawful.get_set_of_ne _ among field h ?_ _ _, ?_⟩
    · rwa [same]
    · simp [other]

/-- A member with the key of a field is the first one, and its value is the content from then on. -/
theorem Lawful.step_same (lawful : format.Lawful) {draft next : Draft α} {value : Spelling}
    {field : Field α} (h : field ∈ format.fields)
    (step : format.Step draft field.key value next) :
    field.key ∉ draft.seen ∧ field.key ∈ next.seen ∧
      value.value? = some (field.write (field.get next.record)) := by
  cases step with
  | unknown other => exact absurd rfl (other field h)
  | known among same fresh told =>
    obtain rfl := lawful.eq_of_key among h same
    refine ⟨fresh, List.mem_cons_self, ?_⟩
    rw [told, lawful.get_set _ among]

/-- What members say of a field, if they lead from a draft to another one. -/
structure Account (field : Field α) (draft : Draft α) (members : List Member) (last : Draft α) :
    Prop where
  told : ∀ member ∈ members, Piece.text? member.1.core = some field.key →
    member.2.core.value? = some (field.write (field.get last.record))
  once : (keys members).count field.key ≤ 1
  fresh : field.key ∈ keys members → field.key ∉ draft.seen
  kept : field.key ∉ keys members → field.get last.record = field.get draft.record
  seen : field.key ∈ last.seen ↔ field.key ∈ draft.seen ∨ field.key ∈ keys members

/-- What members do to a draft is what they say of its fields. -/
theorem Lawful.account (lawful : format.Lawful) {draft last : Draft α} {members : List Member}
    (steps : format.Steps draft members last) {field : Field α} (h : field ∈ format.fields) :
    Account field draft members last := by
  induction steps with
  | nil draft => exact ⟨by simp, by simp [keys], by simp [keys], fun _ => rfl, by simp [keys]⟩
  | @cons draft next last member key members named step _ ih =>
    have cons := keys_cons named members
    by_cases same : field.key = key
    · subst same
      obtain ⟨fresh, seen, told⟩ := lawful.step_same h step
      -- The field was seen now, so no other member can have its key.
      have later : field.key ∉ keys members := fun again => ih.fresh again seen
      refine ⟨?_, ?_, fun _ => fresh, ?_, ?_⟩
      · intro other among again
        rcases List.mem_cons.mp among with rfl | among
        · rw [told, ih.kept later]
        · exact absurd (mem_keys.mpr ⟨other, among, again⟩) later
      · rw [cons, List.count_cons_self, List.count_eq_zero.mpr later]
      · rw [cons]
        exact fun absent => absurd List.mem_cons_self absent
      · rw [cons]
        exact iff_of_true (ih.seen.mpr (.inl seen)) (.inr List.mem_cons_self)
    · obtain ⟨kept, seen⟩ := lawful.step_other step h same
      have among : field.key ∈ keys (member :: members) ↔ field.key ∈ keys members := by
        simp [cons, same]
      refine ⟨?_, ?_, ?_, ?_, ?_⟩
      · refine List.forall_mem_cons.mpr ⟨fun again => ?_, ih.told⟩
        exact absurd (Option.some.inj (again.symm.trans named)) same
      · rw [cons, List.count_cons_of_ne (Ne.symm same)]
        exact ih.once
      · rw [among, ← seen]
        exact ih.fresh
      · rw [among, ← kept]
        exact ih.kept
      · rw [among, ← seen]
        exact ih.seen

theorem Steps.named {draft last : Draft α} {members : List Member}
    (steps : format.Steps draft members last) :
    ∀ member ∈ members, Piece.text? member.1.core ≠ none := by
  induction steps with
  | nil => simp
  | cons named _ _ ih => exact List.forall_mem_cons.mpr ⟨by simp [named], ih⟩

/-- Members can be taken one after another if their keys can be read, no field comes twice or was
seen before, and each field has a content. -/
theorem exists_steps {draft : Draft α} {members : List Member}
    (named : ∀ member ∈ members, Piece.text? member.1.core ≠ none)
    (told : ∀ field ∈ format.fields, ∀ member ∈ members,
      Piece.text? member.1.core = some field.key →
        ∃ content, member.2.core.value? = some (field.write content))
    (once : ∀ field ∈ format.fields, (keys members).count field.key ≤ 1)
    (fresh : ∀ field ∈ format.fields, field.key ∈ keys members → field.key ∉ draft.seen) :
    ∃ last, format.Steps draft members last := by
  induction members generalizing draft with
  | nil => exact ⟨draft, .nil draft⟩
  | cons member members ih =>
    obtain ⟨key, first⟩ := Option.ne_none_iff_exists'.mp (named member List.mem_cons_self)
    have cons := keys_cons first members
    have onward {next : Draft α} (step : format.Step draft key member.2.core next)
        (seen : ∀ field ∈ format.fields, field.key ∈ keys members → field.key ∉ next.seen) :
        ∃ last, format.Steps draft (member :: members) last := by
      obtain ⟨last, steps⟩ := ih (fun m h => named m (List.mem_cons_of_mem _ h))
        (fun field h m among => told field h m (List.mem_cons_of_mem _ among))
        (fun field h => (List.count_le_count_cons).trans (cons ▸ once field h)) seen
      exact ⟨last, .cons first step steps⟩
    by_cases known : ∃ field ∈ format.fields, field.key = key
    · obtain ⟨field, h, rfl⟩ := known
      obtain ⟨content, spelled⟩ := told field h member List.mem_cons_self first
      have later : field.key ∉ keys members := by
        have once := once field h
        rw [cons, List.count_cons_self] at once
        exact List.count_eq_zero.mp (by omega)
      refine onward (.known h rfl (fresh field h (by simp [cons])) spelled) ?_
      intro other h' among seen
      rcases List.mem_cons.mp seen with same | seen
      · exact later (same ▸ among)
      · exact fresh other h' (by simp [cons, among]) seen
    · have other : ∀ field ∈ format.fields, field.key ≠ key :=
        fun field h same => known ⟨field, h, same⟩
      exact onward (.unknown other) fun field h among => fresh field h (by simp [cons, among])

/-- An object of these members tells the record. The members may come in any order, with any gaps,
and there may be others among them, with other keys and any values. -/
structure IsToldBy (format : RecordFormat α) (record : α) (members : List Member) : Prop where
  /-- Keys are strings: each surrogate in them has its partner. -/
  named : ∀ member ∈ members, Piece.text? member.1.core ≠ none
  /-- A member with the key of a field spells the content of the record. -/
  told : ∀ field ∈ format.fields, ∀ member ∈ members, Piece.text? member.1.core = some field.key →
    member.2.core.value? = some (field.write (field.get record))
  /-- No field comes twice. -/
  once : ∀ field ∈ format.fields, (keys members).count field.key ≤ 1
  /-- What is left out may be left out, and is as in the blank record. -/
  absent : ∀ field ∈ format.fields, field.key ∉ keys members →
    field.presence ≠ .required ∧ field.get record = field.get format.blank

/-- What the members do to the blank record makes it the record exactly if they tell the record. -/
theorem Lawful.isToldBy_iff (lawful : format.Lawful) {record : α} {members : List Member} :
    format.IsToldBy record members ↔ ∃ last, format.Steps ⟨format.blank, []⟩ members last ∧
      (∀ field ∈ format.fields, field.presence = .required → field.key ∈ last.seen) ∧
      last.record = record := by
  constructor
  · intro tells
    obtain ⟨last, steps⟩ : ∃ last, format.Steps ⟨format.blank, []⟩ members last :=
      exists_steps tells.named (fun field h m among named => ⟨_, tells.told field h m among named⟩)
        tells.once (by simp)
    refine ⟨last, steps, ?_, lawful.ext _ _ ?_⟩
    · intro field h required
      refine (lawful.account steps h).seen.mpr (.inr ?_)
      by_contra absent
      exact (tells.absent field h absent).1 required
    · intro field h
      have account := lawful.account steps h
      by_cases among : field.key ∈ keys members
      · obtain ⟨member, among, named⟩ := mem_keys.mp among
        exact (lawful.sound field h).eq_of_value? (account.told member among named)
          (tells.told field h member among named)
      · rw [account.kept among, (tells.absent field h among).2]
  · rintro ⟨last, steps, complete, rfl⟩
    refine ⟨steps.named, fun field h => (lawful.account steps h).told,
      fun field h => (lawful.account steps h).once, fun field h absent => ⟨?_, ?_⟩⟩
    · intro required
      have seen := (lawful.account steps h).seen.mp (complete field h required)
      simp [absent] at seen
    · exact (lawful.account steps h).kept absent

theorem readObject_eq_ok {bound : Nat} {text rest : List Char} {record : α} :
    format.readObject bound text = .ok (record, rest) ↔ ∃ last,
      readMembers bound (format.readMember bound) ⟨format.blank, []⟩ text = .ok (last, rest) ∧
      (∀ field ∈ format.fields, field.presence = .required → field.key ∈ last.seen) ∧
      last.record = record := by
  rw [readObject]
  cases taken : readMembers bound (format.readMember bound) ⟨format.blank, []⟩ text with
  | error failure => simp
  | ok result =>
    obtain ⟨last, others⟩ := result
    simp only
    cases missing : format.fields.find? fun field =>
      field.presence = .required && !last.seen.contains field.key with
    | none =>
      have complete : ∀ field ∈ format.fields, field.presence = .required →
          field.key ∈ last.seen := by simpa using missing
      simp only [Except.ok.injEq, Prod.mk.injEq]
      constructor
      · rintro ⟨rfl, rfl⟩
        exact ⟨last, ⟨rfl, rfl⟩, complete, rfl⟩
      · rintro ⟨_, ⟨rfl, rfl⟩, -, rfl⟩
        exact ⟨rfl, rfl⟩
    | some field =>
      have among := List.mem_of_find?_eq_some missing
      have absent : field.presence = .required ∧ field.key ∉ last.seen := by
        simpa using List.find?_some missing
      refine iff_of_false (by simp) ?_
      rintro ⟨_, same, complete, -⟩
      cases same
      exact absent.2 (complete field among absent.1)

/-- What an object is read as is what it tells. -/
theorem Lawful.read_object_eq_ok (lawful : format.Lawful) {bound : Nat} {before gap : Gap}
    {members : List Member} (fits : (Spelling.object gap members).chars.length ≤ bound)
    {rest rest' : List Char} {record : α} :
    format.read bound (before.chars ++ ((Spelling.object gap members).chars ++ rest)) =
        .ok (record, rest') ↔ format.IsToldBy record members ∧ rest' = rest := by
  have start : format.read bound (before.chars ++ ((Spelling.object gap members).chars ++ rest)) =
      format.readObject bound ((Spelling.object gap members).chars.tail ++ rest) := by
    rw [object_chars, RecordFormat.read, skipGap_gap, List.cons_append,
      skipGap_cons (show isGap '\x7b' = false from rfl)]
    rfl
  rw [start, readObject_eq_ok, lawful.isToldBy_iff]
  simp only [lawful.readMembers_eq_ok fits]
  constructor
  · rintro ⟨last, ⟨steps, rfl⟩, complete, same⟩
    exact ⟨⟨last, steps, complete, same⟩, rfl⟩
  · rintro ⟨⟨last, steps, complete, same⟩, rfl⟩
    exact ⟨last, ⟨steps, rfl⟩, complete, same⟩

/-- **An object is read as a record exactly if it tells the record.** -/
theorem Lawful.parse_object_eq_ok (lawful : format.Lawful) {text : String} {gap : Gap}
    {members : List Member} (spells : Spells text (.object gap members)) {record : α} :
    format.parse text = .ok record ↔ format.IsToldBy record members := by
  have fits : (Spelling.object gap members).chars.length ≤ text.toList.length + 1 :=
    Nat.le_succ_of_le spells.length_le
  obtain ⟨before, after, whole⟩ := spells
  rw [parse, readWhole_eq_ok]
  generalize text.toList.length + 1 = bound at fits
  simp only [whole, lawful.read_object_eq_ok fits]
  constructor
  · rintro ⟨_, tells, -⟩
    exact tells
  · intro tells
    exact ⟨after, tells, rfl⟩

/-- An object in which a field comes twice is refused. -/
theorem Lawful.parse_repeated (lawful : format.Lawful) {text : String} {gap : Gap}
    {members : List Member} (spells : Spells text (.object gap members)) {field : Field α}
    (h : field ∈ format.fields) (repeated : 2 ≤ (keys members).count field.key) :
    ∃ error, format.parse text = .error error := by
  cases parsed : format.parse text with
  | error error => exact ⟨error, rfl⟩
  | ok record =>
    have once := ((lawful.parse_object_eq_ok spells).mp parsed).once field h
    omega

/-! ## Arrays -/

/-- Setting the contents of a record makes a draft of it the record. -/
theorem Lawful.get_foldl (lawful : format.Lawful) {record draft : α} {fields : List (Field α)}
    (known : fields ⊆ format.fields) {field : Field α} (h : field ∈ format.fields)
    (set : field ∈ fields ∨ field.get draft = field.get record) :
    field.get ((fields.map (Entry.ofField record)).foldl Entry.set draft) = field.get record := by
  induction fields generalizing draft with
  | nil => simpa using set
  | cons other fields ih =>
    obtain ⟨among, known⟩ := List.cons_subset.mp known
    refine ih known ?_
    by_cases same : field.key = other.key
    · obtain rfl := lawful.eq_of_key h among same
      exact .inr (lawful.get_set field h _ _)
    · rcases set with set | set
      · refine .inl ((List.mem_cons.mp set).resolve_left ?_)
        rintro rfl
        exact same rfl
      · exact .inr ((lawful.get_set_of_ne other among field h same _ _).trans set)

theorem Lawful.foldl_set (lawful : format.Lawful) (record : α) :
    (format.fields.map (Entry.ofField record)).foldl Entry.set format.blank = record :=
  lawful.ext _ _ fun _ h => lawful.get_foldl (fun _ h => h) h (.inl h)

/-- An item spells the content that a record has for a field. -/
def SpellsContent (record : α) (item : Spaced Spelling) (field : Field α) : Prop :=
  item.core.value? = some (field.write (field.get record))

/-- Contents behind a content are read up to the end of the array. -/
theorem readSequenceFrom_chars {record draft : α} {fields : List (Field α)}
    {items : List (Spaced Spelling)} (each : List.Forall₂ (SpellsContent record) items fields)
    (sound : ∀ field ∈ fields, field.Sound) (bound index : Nat) (after : Gap)
    (rest : List Char) :
    format.readSequenceFrom bound fields (index + 1) draft
        (after.chars ++ (itemsChars items ++ rest)) =
      .ok ((fields.map (Entry.ofField record)).foldl Entry.set draft, rest) := by
  induction each generalizing draft index after with
  | nil =>
    simp [itemsChars, readSequenceFrom, endSequence, skipGap_cons (show isGap ']' = false from rfl)]
  | @cons item field items fields told _ ih =>
    obtain ⟨before, core, behind⟩ := item
    obtain ⟨c, text, start, gap, close⟩ :=
      core.begins.append (behind.chars ++ (itemsChars items ++ rest))
    have taken := ((sound field List.mem_cons_self).exact bound core _
      (behind.endsNumber (endsNumber_itemsChars items rest)) _ _).mpr ⟨told, rfl⟩
    rw [start] at taken
    have later := @ih (Entry.set draft (Entry.ofField record field))
      (fun field h => sound field (List.mem_cons_of_mem _ h)) (index + 1) behind
    have comma : (',' = ']') = False := by simp
    simp only [itemsChars, List.cons_append, List.append_assoc, readSequenceFrom, skipGap_gap,
      skipGap_cons (show isGap ',' = false from rfl), comma, if_false, Nat.add_one_ne_zero, if_true,
      start, skipGap_cons gap, if_neg close, taken]
    exact later

/-- Contents are read up to the end of the array. -/
theorem readSequence_chars {record draft : α} {fields : List (Field α)}
    {items : List (Spaced Spelling)} (each : List.Forall₂ (SpellsContent record) items fields)
    (sound : ∀ field ∈ fields, field.Sound) (bound : Nat) (gap : Gap) (rest : List Char) :
    format.readSequenceFrom bound fields 0 draft
        ((Spelling.array gap items).chars.tail ++ rest) =
      .ok ((fields.map (Entry.ofField record)).foldl Entry.set draft, rest) := by
  cases each with
  | nil =>
    simp [Spelling.chars, readSequenceFrom, endSequence,
      skipGap_cons (show isGap ']' = false from rfl)]
  | @cons item field items fields told others =>
    obtain ⟨before, core, behind⟩ := item
    obtain ⟨c, text, start, gap, close⟩ :=
      core.begins.append (behind.chars ++ (itemsChars items ++ rest))
    have taken := ((sound field List.mem_cons_self).exact bound core _
      (behind.endsNumber (endsNumber_itemsChars items rest)) _ _).mpr ⟨told, rfl⟩
    rw [start] at taken
    have later := @readSequenceFrom_chars _ format _ (Entry.set draft (Entry.ofField record field))
      _ _ others (fun field h => sound field (List.mem_cons_of_mem _ h)) bound 0 behind rest
    simp only [Spelling.chars, List.tail_cons, List.append_assoc, readSequenceFrom, skipGap_gap,
      if_true, start, skipGap_cons gap, if_neg close, taken]
    exact later

/-- **An array of the contents of a record is read as the record.** -/
theorem Lawful.parse_listed (lawful : format.Lawful) {text : String} {gap : Gap}
    {items : List (Spaced Spelling)} (spells : Spells text (.array gap items)) {record : α}
    (each : List.Forall₂ (SpellsContent record) items format.fields) :
    format.parse text = .ok record := by
  obtain ⟨before, after, whole⟩ := spells
  rw [parse, readWhole_eq_ok]
  generalize text.toList.length + 1 = bound
  refine ⟨after, ?_⟩
  have bracket : ('[' = '\x7b') = False := by simp
  rw [whole, array_chars, RecordFormat.read, skipGap_gap, List.cons_append,
    skipGap_cons (show isGap '[' = false from rfl)]
  simp only [bracket, if_false, if_true]
  rw [readSequence_chars each lawful.sound, lawful.foldl_set]

end RecordFormat

end BattleAdvisor.Json
