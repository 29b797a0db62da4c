import BattleAdvisor.Proofs.Json.Respelling
import BattleAdvisor.Proofs.Text.Utf8

/-!
# The canonical spelling of a value

A value that was read is written without gaps and with ascending keys, and what is written is read
as the same value again. Floating-point numbers are the exception that has to be assumed away:
`Number.ReadsBack` says of a number that it is read from its own digits.

Main results: `Value.Regular.exists_canonical`, a spelling of what is written, and
`Value.Regular.parse_write`, its value. `Value.Regular` is what a value that was read satisfies
(`regular_of_means`).
-/

namespace BattleAdvisor.Json

/-! ## Numbers that were read -/

theorem readDigits_lt {significand count : Nat} (small : significand < wordLimit)
    (text : List Char) : (readDigits significand count text).1 < wordLimit := by
  induction text generalizing significand count with
  | nil => exact small
  | cons c rest ih =>
    rw [readDigits]
    split
    next fits => exact ih (by simp only [Bool.and_eq_true, decide_eq_true_eq] at fits; exact fits.2)
    next => exact small

/-- A reader that never returns a whole number. -/
def NeverWhole (reader : Reader Number) : Prop :=
  ∀ text n rest, reader text ≠ .ok (.integer n, rest)

theorem neverWhole_finishFloat (positive : Bool) (x : Scaled) :
    NeverWhole (finishFloat positive x) := by
  intro text n rest
  rw [finishFloat]
  split <;> simp

theorem neverWhole_readExponentDigits (positive negative : Bool) (x : Scaled) (exponent : Nat) :
    NeverWhole (readExponentDigits positive negative x exponent) := by
  intro text
  induction text generalizing exponent with
  | nil => exact neverWhole_finishFloat _ _ []
  | cons c text ih =>
    intro n rest
    simp only [readExponentDigits]
    split
    · split
      · exact ih _ n rest
      · split <;> simp
    · exact neverWhole_finishFloat _ _ _ n rest

theorem neverWhole_readExponent (positive : Bool) (x : Scaled) :
    NeverWhole (readExponent positive x) := by
  intro text n rest
  simp only [readExponent]
  split
  · simp
  · split
    · exact neverWhole_readExponentDigits _ _ _ _ _ n rest
    · simp

theorem neverWhole_readTail (positive : Bool) (x : Scaled) : NeverWhole (readTail positive x) := by
  intro text n rest
  rw [readTail]
  split
  · exact neverWhole_readExponent _ _ _ n rest
  · exact neverWhole_finishFloat _ _ _ n rest

theorem neverWhole_readFraction (positive : Bool) (x : Scaled) :
    NeverWhole (readFraction positive x) := by
  intro text n rest
  simp only [readFraction]
  split
  · exact neverWhole_readTail _ _ _ n rest
  split
  · simp
  · exact neverWhole_readTail _ _ _ n rest

/-- The range of whole numbers. -/
def Whole (n : Int) : Prop :=
  -2 ^ 63 ≤ n ∧ n < 2 ^ 64

theorem whole_of_readAfterWhole {positive : Bool} {significand : Nat}
    (small : significand < wordLimit) {text rest : List Char} {n : Int}
    (h : readAfterWhole positive significand text = .ok (.integer n, rest)) : Whole n := by
  simp only [readAfterWhole] at h
  split at h
  · split at h
    · exact absurd h (neverWhole_readFraction _ _ _ n rest)
    · exact absurd h (neverWhole_readTail _ _ _ n rest)
  split at h
  · exact absurd h (neverWhole_readFraction _ _ _ n rest)
  split at h
  · exact absurd h (neverWhole_readExponent _ _ _ n rest)
  · simp only [Except.ok.injEq, Prod.mk.injEq, wholeNumber] at h
    obtain ⟨same, -⟩ := h
    unfold wordLimit at small
    split at same
    · cases same
      exact ⟨by omega, by omega⟩
    split at same
    · cases same
      exact ⟨by omega, by omega⟩
    · cases same

/-- Whole numbers that are read are in their range. -/
theorem whole_of_readNumber {positive : Bool} {text rest : List Char} {n : Int}
    (h : readNumber positive text = .ok (.integer n, rest)) : Whole n := by
  cases text with
  | nil => simp [readNumber] at h
  | cons c text =>
    simp only [readNumber] at h
    split at h
    · split at h
      · simp at h
      · exact whole_of_readAfterWhole (by decide) h
    split at h
    next digit =>
      have small : digitValue c < wordLimit := by
        have : c.toNat ≤ 0x39 := by
          simp only [Char.isDigit, Bool.and_eq_true, decide_eq_true_eq] at digit
          exact digit.2
        unfold digitValue wordLimit
        omega
      exact whole_of_readAfterWhole (readDigits_lt small text) h
    · simp at h

theorem Numeral.whole_of_value? {numeral : Numeral} {n : Int}
    (h : numeral.value? = some (.integer n)) : Whole n := by
  rw [value?] at h
  split at h
  next taken =>
    cases h
    exact whole_of_readNumber taken
  next => cases h

/-- The number is read from its own text. -/
def Number.ReadsBack (x : Number) : Prop :=
  Value.parse (Value.number x).write = .ok (.number x)

theorem Whole.readsBack {n : Int} (h : Whole n) : (Number.integer n).ReadsBack :=
  readWhole_of_reads (fun bound => readValue bound nestingLimit)
    (.of_around (fun inner => reads_integer _ inner h.1 h.2) nestingLimit)

/-! ## The spelling of a number that is written -/

theorem noGap_toDigits {n : Nat} {c : Char} (h : c ∈ Nat.toDigits 10 n) : isGap c = false :=
  isGap_of_isDigit (Nat.isDigit_of_mem_toDigits (by decide) (by decide) h)

theorem noGap_plainText {digits : List Char} (noGap : ∀ c ∈ digits, isGap c = false)
    (exponent : Int) : ∀ c ∈ plainText digits exponent, isGap c = false := by
  have zero : isGap '0' = false := rfl
  have point : isGap '.' = false := rfl
  rw [plainText]
  split
  · simpa [or_imp, forall_and, zero, point] using noGap
  split
  · simp only [List.forall_mem_append, List.forall_mem_cons]
    exact ⟨fun c h => noGap c (List.mem_of_mem_take h), point,
      fun c h => noGap c (List.mem_of_mem_drop h)⟩
  · simpa [or_imp, forall_and, zero, point] using noGap

theorem noGap_scientificText {digits : List Char} (noGap : ∀ c ∈ digits, isGap c = false)
    (leading : Int) : ∀ c ∈ scientificText digits leading, isGap c = false := by
  rw [scientificText]
  simp only [List.forall_mem_append]
  refine ⟨⟨⟨fun c h => noGap c (List.mem_of_mem_take h), ?_⟩, ?_⟩, fun c h => noGap_toDigits h⟩
  · split
    · simp
    · exact List.forall_mem_cons.mpr ⟨rfl, fun c h => noGap c (List.mem_of_mem_drop h)⟩
  · split <;> simp [isGap]

/-- A number is written without gaps. -/
theorem Number.noGap (x : Number) : ∀ c ∈ x.chars, isGap c = false := by
  have sign (negative : Prop) [Decidable negative] :
      ∀ c ∈ (if negative then ['-'] else []), isGap c = false := by
    split <;> simp [isGap]
  cases x with
  | integer n =>
    rw [Number.chars, integerText]
    exact List.forall_mem_append.mpr ⟨sign _, fun c h => noGap_toDigits h⟩
  | float x =>
    have sign' : ∀ c ∈ (if x.toBits = x.toBits &&& 0x7FFFFFFFFFFFFFFF then [] else ['-']),
        isGap c = false := by
      split <;> simp [isGap]
    simp only [Number.chars, floatText]
    split
    · simp [isGap]
    split
    · exact List.forall_mem_append.mpr ⟨sign', by simp [isGap]⟩
    · refine List.forall_mem_append.mpr ⟨sign', ?_⟩
      simp only [decimalText]
      split
      · exact noGap_plainText (fun c h => noGap_toDigits h) _
      · exact noGap_scientificText (fun c h => noGap_toDigits h) _

theorem Gap.eq_nil {gap : Gap} (h : ∀ c ∈ gap.chars, isGap c = false) : gap.chars = [] := by
  refine List.eq_nil_iff_forall_not_mem.mpr fun c among => ?_
  have blank := gap.blank c among
  rw [h c among] at blank
  cases blank

/-- A number that is read from its own text has a spelling that is this text. -/
theorem Number.ReadsBack.exists_numeral {x : Number} (h : x.ReadsBack) :
    ∃ n : Numeral, n.chars = x.chars ∧ n.value? = some x := by
  obtain ⟨spelling, ⟨before, after, whole⟩, spelled, -⟩ := Value.parse_eq_ok.mp h
  rw [Value.write, String.toList_ofList, Value.chars] at whole
  have noGap := x.noGap
  rw [whole, List.forall_mem_append, List.forall_mem_append] at noGap
  rw [Gap.eq_nil noGap.1, Gap.eq_nil noGap.2.2, List.nil_append, List.append_nil] at whole
  cases spelling with
  | number n =>
    rw [Spelling.value?, Option.map_eq_some_iff] at spelled
    obtain ⟨y, number, same⟩ := spelled
    cases same
    exact ⟨n, whole.symm, number⟩
  | null | bool => cases spelled
  | string | array | object =>
    obtain ⟨_, _, other⟩ := Option.map_eq_some_iff.mp spelled
    cases other

/-- A string has a spelling that is the text in which it is written. -/
theorem exists_pieces_of_stringText (s : String) :
    ∃ pieces, Piece.quoted pieces = stringText s ∧ Piece.text? pieces = some s := by
  obtain ⟨pieces, whole, spelled⟩ := exists_pieces_of_readString (readString_stringText s [])
  refine ⟨pieces, ?_, spelled⟩
  rw [Piece.quoted, ← whole]
  rfl

/-! ## Values that were read -/

namespace Value

mutual

/-- The floating-point numbers in a value at every depth. -/
def floats : Value → List Float
  | .number (.float x) => [x]
  | .array items => itemsFloats items
  | .object members => membersFloats members
  | _ => []

/-- The floating-point numbers in items. -/
def itemsFloats : List Value → List Float
  | [] => []
  | item :: rest => item.floats ++ itemsFloats rest

/-- The floating-point numbers in members. -/
def membersFloats : List (String × Value) → List Float
  | [] => []
  | (_, value) :: rest => value.floats ++ membersFloats rest

end

theorem mem_itemsFloats {items : List Value} {x : Float} :
    x ∈ itemsFloats items ↔ ∃ item ∈ items, x ∈ item.floats := by
  induction items with
  | nil => simp [itemsFloats]
  | cons item items ih => simp [itemsFloats, ih]

theorem mem_membersFloats {members : Members} {x : Float} :
    x ∈ membersFloats members ↔ ∃ member ∈ members, x ∈ member.2.floats := by
  induction members with
  | nil => simp [membersFloats]
  | cons member members ih => simp [membersFloats, ih]

/-- A value that opens at most this number of arrays and objects at once, with ascending keys and
with numbers that are read from their own text. -/
inductive Regular : (depth : Nat) → Value → Prop
  | null (depth : Nat) : Regular depth .null
  | bool (depth : Nat) (b : Bool) : Regular depth (.bool b)
  | number (depth : Nat) {x : Number} (readsBack : x.ReadsBack) : Regular depth (.number x)
  | string (depth : Nat) (s : String) : Regular depth (.string s)
  | array {depth : Nat} {items : List Value} (each : ∀ item ∈ items, Regular depth item) :
      Regular (depth + 1) (.array items)
  | object {depth : Nat} {members : Members} (ascending : members.Ascending)
      (each : ∀ member ∈ members, Regular depth member.2) :
      Regular (depth + 1) (.object members)

end Value

theorem exists_of_mem_right {α β : Type} {R : α → β → Prop} {as : List α} {bs : List β}
    (h : List.Forall₂ R as bs) {b : β} (among : b ∈ bs) : ∃ a ∈ as, R a b := by
  induction h with
  | nil => cases among
  | cons first _ ih =>
    rcases List.mem_cons.mp among with rfl | later
    · exact ⟨_, List.mem_cons_self, first⟩
    · obtain ⟨a, found, related⟩ := ih later
      exact ⟨a, List.mem_cons_of_mem _ found, related⟩

theorem Members.mem_of_mem_gather {members : Members} {member : String × Value}
    (h : member ∈ members.gather) : member ∈ members := by
  induction members using List.reverseRecOn with
  | nil => cases h
  | append_singleton members last ih =>
    rw [gather_concat] at h
    rcases mem_put h with new | old
    · exact List.mem_append_right _ (new ▸ List.mem_cons_self)
    · exact List.mem_append_left _ (ih old)

theorem Members.gather_of_ascending {members : Members} (h : members.Ascending) :
    members.gather = members := by
  induction members using List.reverseRecOn with
  | nil => rfl
  | append_singleton members last ih =>
    obtain ⟨before, -, greatest⟩ := List.pairwise_append.mp h
    rw [gather_concat, ih before]
    exact put_of_greatest fun member among => greatest member among last List.mem_cons_self

open Spelling

/-- What is spelled is regular, if its floating-point numbers are read from their own text. -/
theorem regular_of_means {spelling : Spelling} {depth : Nat} {value : Value}
    (means : spelling.Means depth value)
    (readsBack : ∀ x ∈ value.floats, (Number.float x).ReadsBack) : value.Regular depth := by
  induction spelling generalizing depth value with
  | null =>
    cases means.1
    exact .null depth
  | bool b =>
    cases means.1
    exact .bool depth b
  | number n =>
    obtain ⟨x, number, rfl⟩ := Option.map_eq_some_iff.mp means.1
    cases x with
    | integer n => exact .number depth (Numeral.whole_of_value? number).readsBack
    | float x => exact .number depth (readsBack x (by simp [Value.floats]))
  | string pieces =>
    obtain ⟨s, -, rfl⟩ := Option.map_eq_some_iff.mp means.1
    exact .string depth s
  | array gap items ih =>
    obtain ⟨spelled, shallow⟩ := means
    obtain ⟨values, all, rfl⟩ := Option.map_eq_some_iff.mp spelled
    obtain ⟨depth, rfl⟩ : ∃ n, depth = n + 1 :=
      ⟨depth - 1, by rw [Spelling.depth] at shallow; omega⟩
    rw [Spelling.depth, Nat.add_le_add_iff_right, itemsDepth_le] at shallow
    refine .array fun value among => ?_
    obtain ⟨item, found, spelled⟩ := exists_of_mem_right (itemsValue?_eq_some.mp all) among
    refine ih item found ⟨spelled, shallow item found⟩ fun x inside => readsBack x ?_
    rw [Value.floats]
    exact Value.mem_itemsFloats.mpr ⟨value, among, inside⟩
  | object gap members ih =>
    obtain ⟨spelled, shallow⟩ := means
    obtain ⟨pairs, all, rfl⟩ := Option.map_eq_some_iff.mp spelled
    obtain ⟨depth, rfl⟩ : ∃ n, depth = n + 1 :=
      ⟨depth - 1, by rw [Spelling.depth] at shallow; omega⟩
    rw [Spelling.depth, Nat.add_le_add_iff_right, membersDepth_le] at shallow
    refine .object (Members.ascending_gather pairs) fun pair among => ?_
    obtain ⟨member, found, -, spelled⟩ :=
      exists_of_mem_right (membersValue?_eq_some.mp all) (Members.mem_of_mem_gather among)
    refine ih member found ⟨spelled, shallow member found⟩ fun x inside => readsBack x ?_
    rw [Value.floats]
    exact Value.mem_membersFloats.mpr ⟨pair, among, inside⟩

/-! ## The spelling of what is written -/

/-- Without gaps around it. -/
def Spaced.tight {α : Type} (core : α) : Spaced α :=
  ⟨.none, core, .none⟩

/-- There are no gaps, and in each object, at every depth, the bytes of the keys ascend. -/
inductive Spelling.Canonical : Spelling → Prop
  | null : Canonical .null
  | bool (b : Bool) : Canonical (.bool b)
  | number (n : Numeral) : Canonical (.number n)
  | string (pieces : List Piece) : Canonical (.string pieces)
  | array {items : List (Spaced Spelling)} (compact : ∀ item ∈ items, item = .tight item.core)
      (each : ∀ item ∈ items, Canonical item.core) : Canonical (.array .none items)
  | object {members : List Member}
      (compact : ∀ member ∈ members, member = (.tight member.1.core, .tight member.2.core))
      (ascending : (keys members).Pairwise fun key key' => Utf8.encode key < Utf8.encode key')
      (each : ∀ member ∈ members, Canonical member.2.core) : Canonical (.object .none members)

/-- The spelling is what is written for the value. -/
structure Spelling.IsWritten (depth : Nat) (spelling : Spelling) (value : Value) : Prop where
  chars_eq : spelling.chars = value.chars
  means : spelling.Means depth value
  canonical : spelling.Canonical

/-- An item without gaps around it that is what is written. -/
def WritesItem (depth : Nat) (item : Value) (part : Spaced Spelling) : Prop :=
  part = .tight part.core ∧ IsWritten depth part.core item

/-- A member without gaps that is what is written. -/
structure WritesMember (depth : Nat) (pair : String × Value) (part : Member) : Prop where
  compact : part = (.tight part.1.core, .tight part.2.core)
  quoted : Piece.quoted part.1.core = stringText pair.1
  named : Piece.text? part.1.core = some pair.1
  written : IsWritten depth part.2.core pair.2

/-- An item without gaps around it that has the text of the value. -/
def ShowsItem (item : Value) (part : Spaced Spelling) : Prop :=
  part = .tight part.core ∧ part.core.chars = item.chars

/-- A member without gaps that has the text of the pair. -/
structure ShowsMember (pair : String × Value) (part : Member) : Prop where
  compact : part = (.tight part.1.core, .tight part.2.core)
  quoted : Piece.quoted part.1.core = stringText pair.1
  shown : part.2.core.chars = pair.2.chars

theorem itemsChars_written {items : List Value} {parts : List (Spaced Spelling)}
    (each : List.Forall₂ ShowsItem items parts) :
    itemsChars parts = Value.itemsText items := by
  induction each with
  | nil => rfl
  | cons first _ ih =>
    rw [first.1, Spaced.tight, itemsChars, ih, first.2, Value.itemsText]
    rfl

theorem membersChars_written {members : Members} {parts : List Member}
    (each : List.Forall₂ ShowsMember members parts) :
    membersChars parts = Value.membersText members := by
  induction each with
  | nil => rfl
  | cons first _ ih =>
    rw [first.compact, Spaced.tight, Spaced.tight, membersChars, ih, first.quoted, first.shown,
      Value.membersText]
    simp [Gap.none]

theorem arrayChars_written {items : List Value} {parts : List (Spaced Spelling)}
    (each : List.Forall₂ ShowsItem items parts) :
    (Spelling.array .none parts).chars = (Value.array items).chars := by
  cases each with
  | nil => rfl
  | cons first others =>
    rw [first.1, Spaced.tight, chars, first.2, itemsChars_written others, Value.chars]
    rfl

theorem objectChars_written {members : Members} {parts : List Member}
    (each : List.Forall₂ ShowsMember members parts) :
    (Spelling.object .none parts).chars = (Value.object members).chars := by
  cases each with
  | nil => rfl
  | cons first others =>
    rw [first.compact, Spaced.tight, Spaced.tight, chars, first.quoted, first.shown,
      membersChars_written others, Value.chars]
    simp [Gap.none]

theorem isWritten_array {depth : Nat} {items : List Value} {parts : List (Spaced Spelling)}
    (each : List.Forall₂ (WritesItem depth) items parts) :
    IsWritten (depth + 1) (.array .none parts) (.array items) := by
  have sides : ∀ part ∈ parts, ∃ item, WritesItem depth item part := fun part among =>
    (exists_of_mem_right each among).imp fun _ h => h.2
  refine ⟨arrayChars_written (each.imp fun _ _ h => ⟨h.1, h.2.chars_eq⟩),
    means_array (List.Forall₂.flip (each.imp fun _ _ h => h.2.means)), ?_⟩
  · refine .array (fun part among => ?_) fun part among => ?_
    · obtain ⟨item, compact, -⟩ := sides part among
      exact compact
    · obtain ⟨item, -, written⟩ := sides part among
      exact written.canonical

theorem isWritten_object {depth : Nat} {members : Members} {parts : List Member}
    (ascending : members.Ascending) (each : List.Forall₂ (WritesMember depth) members parts) :
    IsWritten (depth + 1) (.object .none parts) (.object members) := by
  have sides : ∀ part ∈ parts, ∃ pair, WritesMember depth pair part := fun part among =>
    (exists_of_mem_right each among).imp fun _ h => h.2
  have spelled : List.Forall₂ (fun member pair => Piece.text? member.1.core = some pair.1 ∧
      Means depth member.2.core pair.2) parts members :=
    List.Forall₂.flip (each.imp fun _ _ h => ⟨h.named, h.written.means⟩)
  refine ⟨objectChars_written (each.imp fun _ _ h => ⟨h.compact, h.quoted, h.written.chars_eq⟩),
    ?_, ?_⟩
  · have means : Means (depth + 1) (.object .none parts) (.object members.gather) :=
      means_object spelled
    rwa [Members.gather_of_ascending ascending] at means
  · refine .object (fun part among => ?_) ?_ fun part among => ?_
    · obtain ⟨pair, written⟩ := sides part among
      exact written.compact
    · rw [keys_eq (spelled.imp fun _ _ h => ⟨h.1, h.2.1⟩), List.pairwise_map]
      exact ascending.imp Utf8.encode_lt
    · obtain ⟨pair, written⟩ := sides part among
      exact written.written.canonical

/-- What is written for a regular value has a canonical spelling. -/
theorem Value.Regular.exists_canonical {depth : Nat} {value : Value} (h : value.Regular depth) :
    ∃ spelling, IsWritten depth spelling value := by
  induction h with
  | null depth => exact ⟨.null, rfl, ⟨rfl, Nat.zero_le _⟩, .null⟩
  | bool depth b =>
    refine ⟨.bool b, ?_, ⟨rfl, Nat.zero_le _⟩, .bool b⟩
    cases b <;> rfl
  | number depth readsBack =>
    obtain ⟨n, text, number⟩ := readsBack.exists_numeral
    refine ⟨.number n, text, ⟨?_, Nat.zero_le _⟩, .number n⟩
    rw [value?, number, Option.map_some]
  | string depth s =>
    obtain ⟨pieces, text, spelled⟩ := exists_pieces_of_stringText s
    refine ⟨.string pieces, text, ⟨?_, Nat.zero_le _⟩, .string pieces⟩
    rw [value?, spelled, Option.map_some]
  | @array depth items _ ih =>
    obtain ⟨parts, each⟩ : ∃ parts, List.Forall₂ (WritesItem depth) items parts := by
      refine exists_forall₂ fun item among => ?_
      obtain ⟨spelling, written⟩ := ih item among
      exact ⟨.tight spelling, rfl, written⟩
    exact ⟨_, isWritten_array each⟩
  | @object depth members ascending _ ih =>
    obtain ⟨parts, each⟩ : ∃ parts, List.Forall₂ (WritesMember depth) members parts := by
      refine exists_forall₂ fun member among => ?_
      obtain ⟨spelling, written⟩ := ih member among
      obtain ⟨pieces, text, named⟩ := exists_pieces_of_stringText member.1
      exact ⟨(.tight pieces, .tight spelling), rfl, text, named, written⟩
    exact ⟨_, isWritten_object ascending each⟩

/-- What is written for a regular value is read as the value. -/
theorem Value.Regular.parse_write {value : Value} (h : value.Regular nestingLimit) :
    Value.parse value.write = .ok value := by
  obtain ⟨spelling, written⟩ := h.exists_canonical
  refine Value.parse_eq_ok.mpr ⟨spelling, ⟨.none, .none, ?_⟩, written.means⟩
  rw [Value.write, String.toList_ofList, ← written.chars_eq]
  simp [Gap.none]

end BattleAdvisor.Json
