import BattleAdvisor.Preferences
import BattleAdvisor.Proofs.Http.Body
import BattleAdvisor.Proofs.Json.SpelledRecord

/-!
# Records that are kept

What the remote service keeps, and preferences, are read from every text that tells them.
-/

namespace BattleAdvisor

open Json Spelling

/-! ## The formats -/

theorem UploadedFile.format_lawful : UploadedFile.format.Lawful where
  distinct := UploadedFile.format_distinct
  sound := by simp [UploadedFile.format, Field.sound_text, Field.sound_optionalText]
  get_set := by simp [UploadedFile.format, Field.text, Field.optionalText]
  get_set_of_ne := by simp [UploadedFile.format, Field.text, Field.optionalText]
  ext := by
    rintro ⟨⟩ ⟨⟩ same
    simpa [UploadedFile.format, Field.text, Field.optionalText] using same

theorem ContentCache.format_lawful : ContentCache.format.Lawful where
  distinct := ContentCache.format_distinct
  sound := by simp [ContentCache.format, Field.sound_text, Field.sound_optionalText]
  get_set := by simp [ContentCache.format, Field.text, Field.optionalText]
  get_set_of_ne := by simp [ContentCache.format, Field.text, Field.optionalText]
  ext := by
    rintro ⟨⟩ ⟨⟩ same
    simpa [ContentCache.format, Field.text, Field.optionalText] using same

theorem ModelCard.format_lawful : ModelCard.format.Lawful where
  distinct := ModelCard.format_distinct
  sound := by simp [ModelCard.format, Field.sound_text, Field.sound_optionalCount]
  get_set := by simp [ModelCard.format, Field.text, Field.optionalCount]
  get_set_of_ne := by simp [ModelCard.format, Field.text, Field.optionalCount]
  ext := by
    rintro ⟨⟩ ⟨⟩ same
    simpa [ModelCard.format, Field.text, Field.optionalCount] using same

theorem Preferences.format_lawful : Preferences.format.Lawful where
  distinct := by decide
  sound := by simp [Preferences.format, Field.sound_text]
  get_set := by simp [Preferences.format, Field.text]
  get_set_of_ne := by simp [Preferences.format, Field.text]
  ext := by
    rintro ⟨⟩ ⟨⟩ same
    simpa [Preferences.format, Field.text] using same

theorem Preferences.format_keeps (preferences : Preferences) :
    Preferences.format.Keeps preferences := by
  intro field h bound
  simp only [Preferences.format, List.mem_cons, List.not_mem_nil, or_false] at h
  rcases h with rfl | rfl | rfl | rfl | rfl | rfl <;> exact reads_text _

/-! ## What is read from which texts -/

namespace Json.RecordFormat

variable {α : Type} {format : RecordFormat α} {record : α}

/-- A record is read from the text that is written for it, from exactly those objects that tell it,
and from the arrays of its contents in the order of the fields. -/
structure Decodes (format : RecordFormat α) (record : α) : Prop where
  written : format.parse (format.write record) = .ok record
  told : ∀ text gap members, Spells text (.object gap members) →
    (format.parse text = .ok record ↔ format.IsToldBy record members)
  listed : ∀ text gap items, Spells text (.array gap items) →
    List.Forall₂ (SpellsContent record) items format.fields → format.parse text = .ok record

/-- No record is read from an object in which the key of a field occurs twice. -/
def RefusesRepeats (format : RecordFormat α) : Prop :=
  ∀ text gap members, Spells text (.object gap members) → ∀ field ∈ format.fields,
    2 ≤ (keys members).count field.key → ∃ error, format.parse text = .error error

/-- A record is read from all texts that tell it, if its contents are read as they are written. -/
theorem Lawful.decodes (lawful : format.Lawful) (keeps : format.Keeps record) :
    format.Decodes record where
  written := (tells_toValue lawful.distinct (lawful.foldl_set record)).parse lawful.distinct keeps
  told := fun _ _ _ spells => lawful.parse_object_eq_ok spells
  listed := fun _ _ _ spells each => lawful.parse_listed spells each

theorem Lawful.refusesRepeats (lawful : format.Lawful) : format.RefusesRepeats :=
  fun _ _ _ spells _ h repeated => lawful.parse_repeated spells h repeated

end Json.RecordFormat

/-- **Records are read from the texts that tell them.** This holds of uploaded files, of caches, of
models whose limits fit words, and of preferences. Objects may have their members in any order, with
any gaps, with any number of unknown members of any value, and without those that are as in the
blank record; but no known key may occur twice. -/
theorem records_decode (file : UploadedFile) (cache : ContentCache) (card : ModelCard)
    (preferences : Preferences) (fits : card.Fits) :
    (UploadedFile.format.Decodes file ∧ ContentCache.format.Decodes cache ∧
      ModelCard.format.Decodes card ∧ Preferences.format.Decodes preferences) ∧
    UploadedFile.format.RefusesRepeats ∧ ContentCache.format.RefusesRepeats ∧
      ModelCard.format.RefusesRepeats ∧ Preferences.format.RefusesRepeats := by
  refine ⟨⟨?_, ?_, ?_, ?_⟩, ?_, ?_, ?_, ?_⟩
  · exact UploadedFile.format_lawful.decodes (UploadedFile.format_keeps file)
  · exact ContentCache.format_lawful.decodes (ContentCache.format_keeps cache)
  · exact ModelCard.format_lawful.decodes (ModelCard.format_keeps fits)
  · exact Preferences.format_lawful.decodes (Preferences.format_keeps preferences)
  · exact UploadedFile.format_lawful.refusesRepeats
  · exact ContentCache.format_lawful.refusesRepeats
  · exact ModelCard.format_lawful.refusesRepeats
  · exact Preferences.format_lawful.refusesRepeats

/-- The model that preferences usually name, with limits. -/
def ModelCard.usual : ModelCard :=
  ⟨Preferences.usual.model, some 1048576, some 65536⟩

/-- Preferences that leave out everything are the usual ones. -/
theorem Preferences.isToldBy_nil : Preferences.format.IsToldBy Preferences.usual [] where
  named := by simp
  told := by simp
  once := by simp [keys]
  absent := by simp [Preferences.format, Field.text]

theorem usualRecords_decode : ModelCard.usual.Fits ∧
    ModelCard.format.parse (ModelCard.format.write ModelCard.usual) = .ok ModelCard.usual ∧
    Spells "\x7b\x7d" (.object .none []) ∧
    Preferences.format.parse "\x7b\x7d" = .ok Preferences.usual := by
  have fits : ModelCard.usual.Fits := by simp [ModelCard.Fits, ModelCard.usual, wordLimit]
  have spells : Spells "\x7b\x7d" (.object .none []) := ⟨.none, .none, rfl⟩
  obtain ⟨⟨-, -, card, preferences⟩, -⟩ := records_decode ⟨"files/1", none, "", none⟩
    ⟨"cachedContents/1", none, none, none⟩ ModelCard.usual Preferences.usual fits
  exact ⟨fits, card.written, spells,
    (preferences.told _ _ _ spells).mpr Preferences.isToldBy_nil⟩

end BattleAdvisor
