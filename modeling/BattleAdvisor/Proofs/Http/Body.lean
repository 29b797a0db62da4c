import BattleAdvisor.Http.Body
import BattleAdvisor.Proofs.Json.Record

/-!
# What responses carry

The records of the remote service survive being written and read, alone, on a page of a listing, or
inside the record that answers an upload. Of a reply only the text matters, and it does not depend
on floating-point numbers.
-/

namespace BattleAdvisor

open Json

/-! ## Records of the service -/

theorem UploadedFile.format_distinct : (UploadedFile.format.fields.map Field.key).Nodup := by
  decide

theorem ContentCache.format_distinct : (ContentCache.format.fields.map Field.key).Nodup := by
  decide

theorem ModelCard.format_distinct : (ModelCard.format.fields.map Field.key).Nodup := by
  decide

theorem UploadedFile.format_keeps (file : UploadedFile) : UploadedFile.format.Keeps file := by
  intro field h bound
  simp only [UploadedFile.format, List.mem_cons, List.not_mem_nil, or_false] at h
  rcases h with rfl | rfl | rfl | rfl
  · exact reads_text file.name
  · exact reads_optionalText file.displayName?
  · exact reads_text file.uri
  · exact reads_optionalText file.mimeType?

theorem ContentCache.format_keeps (cache : ContentCache) : ContentCache.format.Keeps cache := by
  intro field h bound
  simp only [ContentCache.format, List.mem_cons, List.not_mem_nil, or_false] at h
  rcases h with rfl | rfl | rfl | rfl
  · exact reads_text cache.name
  · exact reads_optionalText cache.displayName?
  · exact reads_optionalText cache.model?
  · exact reads_optionalText cache.expireTime?

/-- The limits of a model fit words. -/
def ModelCard.Fits (card : ModelCard) : Prop :=
  (∀ n ∈ card.inputTokenLimit?, n < wordLimit) ∧ ∀ n ∈ card.outputTokenLimit?, n < wordLimit

theorem ModelCard.format_keeps {card : ModelCard} (fits : card.Fits) :
    ModelCard.format.Keeps card := by
  intro field h bound
  simp only [ModelCard.format, List.mem_cons, List.not_mem_nil, or_false] at h
  rcases h with rfl | rfl | rfl
  · exact reads_text card.name
  · exact reads_optionalCount fits.1
  · exact reads_optionalCount fits.2

theorem UploadedFile.tells_toValue (file : UploadedFile) :
    UploadedFile.format.Tells file (UploadedFile.format.toValue file) :=
  RecordFormat.tells_toValue UploadedFile.format_distinct rfl

theorem ContentCache.tells_toValue (cache : ContentCache) :
    ContentCache.format.Tells cache (ContentCache.format.toValue cache) :=
  RecordFormat.tells_toValue ContentCache.format_distinct rfl

theorem ModelCard.tells_toValue (card : ModelCard) :
    ModelCard.format.Tells card (ModelCard.format.toValue card) :=
  RecordFormat.tells_toValue ModelCard.format_distinct rfl

namespace Http.Body

/-! ## Pages -/

variable {α : Type} {item : RecordFormat α}

/-- An object that tells the items of a page next to some other members. It may leave out items if
there are none. -/
def TellsPage (key : String) (item : RecordFormat α) (items : List α)
    (others : List (String × Value)) (value : Value) : Prop :=
  ∃ values members, List.Forall₂ item.Tells items values ∧ value = .object members ∧
    (members = (key, .array values) :: others ∨ members = others ++ [(key, .array values)] ∨
      items = [] ∧ members = others)

theorem forall₂_tells (tells : ∀ record, item.Tells record (item.toValue record))
    (items : List α) : List.Forall₂ item.Tells items (items.map item.toValue) :=
  List.forall₂_map_right_iff.mpr (List.forall₂_same.mpr fun record _ => tells record)

/-- The members of a page next to its items: the token, which may be left out if there is none. -/
inductive TellsToken : Option String → List (String × Value) → Prop
  | absent : TellsToken none []
  | told (token? : Option String) :
      TellsToken token? [("nextPageToken", writeOptional .string token?)]

/-- The field of a page that holds its items. -/
def itemsField (key : String) (item : RecordFormat α) : Json.Field (Page α) where
  key := key
  presence := .optional
  Content := List α
  read := fun bound => readList bound (item.read bound)
  write := fun items => .array (items.map item.toValue)
  get := (·.items)
  set := fun items page => { page with items := items }

/-- The field of a page that holds its token. -/
def tokenField : Json.Field (Page α) :=
  .optionalText "nextPageToken" .reached (·.nextToken?)
    fun token page => { page with nextToken? := token }

theorem Page.format_fields (name key : String) (item : RecordFormat α) :
    (Page.format name key item).fields = [itemsField key item, tokenField] := rfl

/-- The members of a page come from entries for its items and its token. -/
theorem TellsPage.exists_entries {key : String} {items : List α} {others : List (String × Value)}
    {value : Value} (tells : TellsPage key item items others value)
    (differs : key ≠ "nextPageToken") {token? : Option String}
    (token : TellsToken token? others) :
    ∃ values, ∃ entries : List (Entry (Page α)), List.Forall₂ item.Tells items values ∧
      value = .object (entries.map Entry.member) ∧ (entries.map Entry.key).Nodup ∧
      (∀ entry ∈ entries, entry = ⟨itemsField key item, items, .array values⟩ ∨
        entry = ⟨tokenField, token?, writeOptional .string token?⟩) ∧
      entries.foldl Entry.set ⟨[], none⟩ = ⟨items, token?⟩ := by
  obtain ⟨values, members, each, rfl, order⟩ := tells
  let listed : Entry (Page α) := ⟨itemsField key item, items, .array values⟩
  let told : Entry (Page α) := ⟨tokenField, token?, writeOptional .string token?⟩
  have distinct : [key, "nextPageToken"].Nodup := by simpa using differs
  have distinct' : ["nextPageToken", key].Nodup := by simpa using Ne.symm differs
  cases token with
  | absent =>
    obtain rfl | rfl | ⟨rfl, rfl⟩ := order
    · exact ⟨values, [listed], each, rfl, by simp, by simp [listed], rfl⟩
    · exact ⟨values, [listed], each, rfl, by simp, by simp [listed], rfl⟩
    · exact ⟨values, [], each, rfl, List.nodup_nil, by simp, rfl⟩
  | told =>
    obtain rfl | rfl | ⟨rfl, rfl⟩ := order
    · exact ⟨values, [listed, told], each, rfl, distinct, by simp [listed, told], rfl⟩
    · exact ⟨values, [told, listed], each, rfl, distinct', by simp [listed, told], rfl⟩
    · exact ⟨values, [told], each, rfl, by simp, by simp [told], rfl⟩

/-- Items are read from values that tell them. -/
theorem forall₂_reads {items : List α} {values : List Value} {bound : Nat}
    (each : List.Forall₂ item.Tells items values) (distinct : (item.fields.map Field.key).Nodup)
    (keeps : ∀ i ∈ items, item.Keeps i) (fits : ∀ value ∈ values, value.chars.length ≤ bound) :
    List.Forall₂ (Reads (item.read bound)) values items := by
  induction each with
  | nil => exact .nil
  | cons first _ ih =>
    exact .cons (first.reads distinct (keeps _ List.mem_cons_self) (fits _ List.mem_cons_self))
      (ih (fun i h => keeps i (List.mem_cons_of_mem _ h))
        fun value h => fits value (List.mem_cons_of_mem _ h))

/-- A page is read from an object that tells it. -/
theorem TellsPage.parse {name key : String} {items : List α} {others : List (String × Value)}
    {value : Value} (tells : TellsPage key item items others value)
    (differs : key ≠ "nextPageToken") (distinct : (item.fields.map Field.key).Nodup)
    (keeps : ∀ i ∈ items, item.Keeps i) {token? : Option String}
    (token : TellsToken token? others) :
    (Page.format name key item).parse value.write = .ok ⟨items, token?⟩ := by
  obtain ⟨values, entries, each, rfl, once, known, whole⟩ :=
    tells.exists_entries differs token
  refine readWhole_of_reads (Page.format name key item).read ?_
  generalize size : (Value.object (entries.map Entry.member)).chars.length + 1 = bound
  have enough : (Value.object (entries.map Entry.member)).chars.length ≤ bound := by omega
  obtain ⟨short, fits⟩ := fits_members enough
  have keys : ((Page.format name key item).fields.map Field.key).Nodup := by
    show [key, "nextPageToken"].Nodup
    simpa using differs
  rw [← whole]
  refine RecordFormat.reads_entries keys ?_ ?_ once ?_ (by simpa using short)
  · intro entry h
    rw [Page.format_fields]
    rcases known entry h with rfl | rfl
    · exact List.mem_cons_self
    · exact List.mem_cons_of_mem _ List.mem_cons_self
  · intro entry h
    have fits := fits _ (List.mem_map_of_mem h)
    rcases known entry h with rfl | rfl
    · obtain ⟨few, fits⟩ := fits_items fits
      exact reads_list (forall₂_reads each distinct keeps fits) few
    · exact reads_optionalText token?
  · intro field h required
    rw [Page.format_fields] at h
    simp only [List.mem_cons, List.not_mem_nil, or_false] at h
    rcases h with rfl | rfl <;> simp [itemsField, tokenField, Field.optionalText] at required

/-! ## Uploads -/

/-- The record around an uploaded file is read from an object that tells the file. -/
theorem uploaded_parse {file : UploadedFile} {value : Value}
    (tells : UploadedFile.format.Tells file value) :
    uploaded.parse (Value.object [("file", value)]).write = .ok file := by
  refine readWhole_of_reads uploaded.read ?_
  generalize size : (Value.object [("file", value)]).chars.length + 1 = bound
  have enough : (Value.object [("file", value)]).chars.length ≤ bound := by omega
  obtain ⟨short, fits⟩ := fits_members enough
  let entry : Entry UploadedFile :=
    { field := {
        key := "file"
        presence := .required
        Content := UploadedFile
        read := UploadedFile.format.read
        write := UploadedFile.format.toValue
        get := id
        set := fun file _ => file }
      content := file
      value := value }
  have reads := tells.reads UploadedFile.format_distinct (UploadedFile.format_keeps file)
    (fits _ List.mem_cons_self)
  have once : (uploaded.fields.map Field.key).Nodup := by decide
  have known : ∀ e ∈ [entry], e.field ∈ uploaded.fields := by simp [entry, uploaded]
  exact RecordFormat.reads_entries once known (by simpa [entry] using reads) (by simp)
    (by simp [entry, uploaded, Entry.key]) short

/-! ## Replies -/

theorem member?_withoutFloats (key : String) (value : Value) :
    value.withoutFloats.member? key = (value.member? key).map Value.withoutFloats := by
  cases value with
  | object members =>
    simp only [Value.withoutFloats, Value.membersWithoutFloats_eq_map, Value.member?]
    induction members with
    | nil => rfl
    | cons member rest ih =>
      rw [List.map_cons, List.lookup_cons, List.lookup_cons]
      split
      · rfl
      · exact ih
  | number n => cases n <;> rfl
  | null | bool | string | array => rfl

theorem items?_withoutFloats (value : Value) :
    value.withoutFloats.items? = value.items?.map (·.map Value.withoutFloats) := by
  cases value with
  | array items =>
    simp [Value.withoutFloats, Value.itemsWithoutFloats_eq_map, Value.items?]
  | number n => cases n <;> rfl
  | null | bool | string | object => rfl

theorem text?_withoutFloats (value : Value) : value.withoutFloats.text? = value.text? := by
  cases value with
  | number n => cases n <;> rfl
  | null | bool | string | array | object => rfl

theorem partText?_withoutFloats (part : Value) :
    partText? part.withoutFloats = partText? part := by
  unfold partText?
  rw [member?_withoutFloats]
  cases part.member? "text" with
  | none => rfl
  | some text => exact text?_withoutFloats text

theorem replyParts?_withoutFloats (reply : Value) :
    replyParts? reply.withoutFloats = (replyParts? reply).map (·.map Value.withoutFloats) := by
  simp only [replyParts?, Option.bind_eq_bind, member?_withoutFloats, Option.bind_map,
    Function.comp_def, items?_withoutFloats, List.head?_map, Option.map_bind]

/-- The text of a reply does not depend on floating-point numbers. -/
theorem replyText?_withoutFloats (reply : Value) :
    replyText? reply.withoutFloats = replyText? reply := by
  unfold replyText?
  rw [replyParts?_withoutFloats]
  cases replyParts? reply with
  | none => rfl
  | some parts => simp [List.filterMap_map, partText?_withoutFloats]

end Http.Body

end BattleAdvisor
