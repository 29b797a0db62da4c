import BattleAdvisor.Json.Record
import BattleAdvisor.Proofs.Json.Value

/-!
# Written records can be read

The object of a record may have its members in any order, and may leave out what the blank record
says anyway. An `Entry` is a member of such an object together with what it says of its field.

* `RecordFormat.reads_entries`: an object of entries is read as the blank record with all of them
  set.
* `RecordFormat.Tells.reads`: an object that says all of a record is read as the record.
-/

namespace BattleAdvisor.Json

/-! ## Contents -/

theorem reads_text (s : String) : Reads readText (.string s) s := by
  intro rest _
  simp [Value.chars, stringText, readText, skipGap_cons (show isGap '"' = false from rfl),
    readString_stringText]

theorem reads_absent {β : Type} (content : Reader β) :
    Reads (readOptional content) .null none := by
  intro rest _
  have := readWord_append ['u', 'l', 'l'] rest
  simp only [List.cons_append, List.nil_append] at this
  simp [Value.chars, readOptional, skipGap_cons (show isGap 'n' = false from rfl), Reader.map, this]

theorem reads_someText (s : String) : Reads (readOptional readText) (.string s) (some s) := by
  intro rest ends
  have taken := reads_text s rest ends
  simp only [Value.chars, stringText, List.cons_append, List.append_assoc, List.nil_append]
    at taken ⊢
  simp [readOptional, skipGap_cons (show isGap '"' = false from rfl), Reader.map, taken]

theorem reads_optionalText (s? : Option String) :
    Reads (readOptional readText) (writeOptional .string s?) s? := by
  cases s? with
  | none => exact reads_absent readText
  | some s => exact reads_someText s

theorem reads_someCount {n : Nat} (fits : n < wordLimit) :
    Reads (readOptional readCount) (writeCount n) (some n) := by
  intro rest ends
  have taken := readNumber_toDigits fits ends true
  obtain ⟨c, digits, text⟩ := List.exists_cons_of_ne_nil (@Nat.toDigits_ne_nil n 10)
  have digit : c.isDigit = true :=
    Nat.isDigit_of_mem_toDigits (by decide) (by decide) (text ▸ List.mem_cons_self)
  have others : c ≠ 'n' ∧ c ≠ '-' := by
    refine ⟨?_, ?_⟩ <;> (rintro rfl; exact absurd digit (by decide))
  have gap : isGap c = false := by
    obtain ⟨_, _, same, gap, -⟩ := begins_of_isDigit digit rest
    exact (List.cons.inj same).1 ▸ gap
  have spelled : (writeCount n).chars = c :: digits := by
    simp [writeCount, Value.chars, Number.chars, integerText, text]
  rw [text, List.cons_append] at taken
  rw [spelled, List.cons_append, readOptional, skipGap_cons gap]
  split
  next same => exact absurd (List.cons.inj same).1 others.1
  next =>
    have nonnegative : ¬ (n : Int) < 0 := by omega
    simp [Reader.map, readCount, skipGap_cons gap, digit, others, taken, wholeNumber, asCount,
      nonnegative]

theorem reads_optionalCount {n? : Option Nat} (fits : ∀ n ∈ n?, n < wordLimit) :
    Reads (readOptional readCount) (writeOptional writeCount n?) n? := by
  cases n? with
  | none => exact reads_absent readCount
  | some n => exact reads_someCount (fits n rfl)

/-- A list is read if each of its items is. -/
theorem reads_list {β : Type} {content : Reader β} {values : List Value} {bs : List β}
    (reads : List.Forall₂ (Reads content) values bs) {bound : Nat}
    (fits : values.length ≤ bound) : Reads (readList bound content) (.array values) bs := by
  intro rest _
  obtain ⟨text, whole, taken⟩ := reads_items reads fits rest
  rw [whole, List.cons_append]
  simp [readList, skipGap_cons (show isGap '[' = false from rfl), taken]

/-! ## Entries -/

/-- A member of an object, with what it says of a field. -/
structure Entry (α : Type) where
  field : Field α
  content : field.Content
  value : Value

namespace Entry

variable {α : Type}

/-- The key of an entry. -/
def key (entry : Entry α) : String :=
  entry.field.key

/-- The key and the value of an entry. -/
def member (entry : Entry α) : String × Value :=
  (entry.key, entry.value)

/-- The record after the entry. -/
def set (record : α) (entry : Entry α) : α :=
  entry.field.set entry.content record

/-- The entry that a record has for a field. -/
def ofField (record : α) (field : Field α) : Entry α :=
  ⟨field, field.get record, field.write (field.get record)⟩

end Entry

namespace RecordFormat

variable {α : Type} {format : RecordFormat α}

theorem find?_field {fields : List (Field α)} (distinct : (fields.map Field.key).Nodup)
    {field : Field α} (h : field ∈ fields) :
    (fields.find? fun other => other.key = field.key) = some field := by
  induction fields with
  | nil => simp at h
  | cons first fields ih =>
    obtain ⟨fresh, distinct⟩ := List.nodup_cons.mp distinct
    rcases List.mem_cons.mp h with rfl | h
    · simp
    · have other : first.key ≠ field.key := fun same =>
        fresh (same ▸ List.mem_map_of_mem h)
      simp [other, ih distinct h]

/-- Entries of different fields are read one after another. -/
theorem readsMembers_entries (distinct : (format.fields.map Field.key).Nodup) {bound : Nat}
    {entries : List (Entry α)} (known : ∀ entry ∈ entries, entry.field ∈ format.fields)
    (reads : ∀ entry ∈ entries, Reads (entry.field.read bound) entry.value entry.content)
    (draft : Draft α)
    (once : (draft.seen.reverse ++ entries.map Entry.key).Nodup) :
    ReadsMembers (format.readMember bound) draft (entries.map Entry.member)
      ⟨entries.foldl Entry.set draft.record,
        (entries.map Entry.key).reverse ++ draft.seen⟩ := by
  induction entries generalizing draft with
  | nil => exact .nil draft
  | cons entry entries ih =>
    have fresh : entry.key ∉ draft.seen := fun seen =>
      (List.nodup_append.mp once).2.2 _ (List.mem_reverse.mpr seen) _ List.mem_cons_self rfl
    have others := ih (fun e h => known e (List.mem_cons_of_mem _ h))
      (fun e h => reads e (List.mem_cons_of_mem _ h))
      ⟨Entry.set draft.record entry, entry.key :: draft.seen⟩ (by simpa using once)
    refine .cons (fun rest ends => ?_) (by simpa using others)
    have taken := reads entry List.mem_cons_self rest ends
    have found : (format.fields.find? fun field => field.key = entry.key) = some entry.field :=
      find?_field distinct (known entry List.mem_cons_self)
    simp [readMember, found, fresh, readColon, skipGap_cons (show isGap ':' = false from rfl),
      taken, Entry.set]

/-- An object of entries is read as the blank record with all of them set. -/
theorem reads_entries (distinct : (format.fields.map Field.key).Nodup) {bound : Nat}
    {entries : List (Entry α)} (known : ∀ entry ∈ entries, entry.field ∈ format.fields)
    (reads : ∀ entry ∈ entries, Reads (entry.field.read bound) entry.value entry.content)
    (once : (entries.map Entry.key).Nodup)
    (complete : ∀ field ∈ format.fields, field.presence = .required →
      ∃ entry ∈ entries, entry.key = field.key)
    (fits : entries.length ≤ bound) :
    Reads (format.read bound) (.object (entries.map Entry.member))
      (entries.foldl Entry.set format.blank) := by
  intro rest _
  have members := readsMembers_entries distinct known reads ⟨format.blank, []⟩ (by simpa)
  have short : (entries.map Entry.member).length ≤ bound := by simpa using fits
  obtain ⟨text, whole, taken⟩ := reads_members members short rest
  have present : (format.fields.find? fun field => field.presence = .required &&
      !((entries.map Entry.key).reverse ++ []).contains field.key) = none := by
    rw [List.find?_eq_none]
    intro field h
    by_cases required : field.presence = .required
    · obtain ⟨entry, among, same⟩ := complete field h required
      simp only [List.append_nil, List.contains_reverse, Bool.and_eq_true, Bool.not_eq_true',
        not_and, Bool.not_eq_false, List.contains_iff_mem]
      exact fun _ => List.mem_map.mpr ⟨entry, among, same⟩
    · simp [required]
  rw [whole, List.cons_append]
  simp only [read, skipGap_cons (show isGap '\x7b' = false from rfl), if_pos, readObject, taken,
    present]

/-- An object that says all of a record: it has members for fields of the record, in any order and
each at most once, and what it leaves out is as in the blank record. -/
def Tells (format : RecordFormat α) (record : α) (value : Value) : Prop :=
  ∃ fields : List (Field α), fields ⊆ format.fields ∧ (fields.map Field.key).Nodup ∧
    (∀ field ∈ format.fields, field.presence = .required → field ∈ fields) ∧
    (fields.map (Entry.ofField record)).foldl Entry.set format.blank = record ∧
    value = .object ((fields.map (Entry.ofField record)).map Entry.member)

/-- The contents of a record are read as they are written. -/
def Keeps (format : RecordFormat α) (record : α) : Prop :=
  ∀ field ∈ format.fields, ∀ bound,
    Reads (field.read bound) (field.write (field.get record)) (field.get record)

/-- An object that says all of a record is read as the record. -/
theorem Tells.reads (distinct : (format.fields.map Field.key).Nodup) {record : α} {value : Value}
    (tells : format.Tells record value) (keeps : format.Keeps record) {bound : Nat}
    (fits : value.chars.length ≤ bound) : Reads (format.read bound) value record := by
  obtain ⟨fields, known, once, complete, whole, rfl⟩ := tells
  have short := (fits_members fits).1
  have reads : Reads (format.read bound)
      (.object ((fields.map (Entry.ofField record)).map Entry.member))
      ((fields.map (Entry.ofField record)).foldl Entry.set format.blank) := by
    refine reads_entries distinct ?_ ?_ ?_ ?_ (by simpa using short)
    · intro entry h
      obtain ⟨field, among, rfl⟩ := List.mem_map.mp h
      exact known among
    · intro entry h
      obtain ⟨field, among, rfl⟩ := List.mem_map.mp h
      exact keeps field (known among) bound
    · simpa [Function.comp_def, Entry.key, Entry.ofField] using once
    · exact fun field h required =>
        ⟨Entry.ofField record field, List.mem_map_of_mem (complete field h required), rfl⟩
  rwa [whole] at reads

/-- The object that a record is written as says all of it, if its fields do. -/
theorem tells_toValue (distinct : (format.fields.map Field.key).Nodup) {record : α}
    (whole : (format.fields.map (Entry.ofField record)).foldl Entry.set format.blank = record) :
    format.Tells record (format.toValue record) :=
  ⟨format.fields, fun _ h => h, distinct, fun _ h _ => h, whole,
    by simp [toValue, Entry.member, Entry.ofField, Entry.key, Function.comp_def]⟩

/-- An object that says all of a record spells it. -/
theorem Tells.parse (distinct : (format.fields.map Field.key).Nodup) {record : α} {value : Value}
    (tells : format.Tells record value) (keeps : format.Keeps record) :
    format.parse value.write = .ok record :=
  readWhole_of_reads format.read (tells.reads distinct keeps (by omega))

end RecordFormat

end BattleAdvisor.Json
