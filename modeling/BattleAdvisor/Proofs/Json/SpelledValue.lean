import BattleAdvisor.Proofs.Json.SpelledToken
import BattleAdvisor.Proofs.Json.Value
import Mathlib.Data.List.TakeWhile

/-!
# Values that the grammar allows

**Theorem (`Value.parse_eq_ok`).** A text is read as a value exactly if it spells the value and does
not open too many arrays and objects at once.

From the grammar to the reader the proof is an induction on the spelling. `Takes reader text b` says
that the reader takes the text as `b`, whatever follows; `readItems_chars` and `readMembers_chars`
hold for the readers of values and of records alike. From the reader to the grammar it is an
induction on the number of arrays and objects that may still be opened.
-/

namespace BattleAdvisor.Json

/-! ## Gaps -/

@[simp]
theorem skipGap_gap (gap : Gap) (text : List Char) :
    skipGap (gap.chars ++ text) = skipGap text :=
  List.dropWhile_append_of_pos gap.blank

@[simp]
theorem skipGap_chars (gap : Gap) : skipGap gap.chars = [] := by
  simpa [skipGap] using skipGap_gap gap []

theorem readColon_chars (gap : Gap) (text : List Char) :
    readColon (gap.chars ++ ':' :: text) = .ok ((), text) := by
  simp [readColon, skipGap_cons (show isGap ':' = false from rfl)]

/-- A text begins with a gap, behind which it does not go on with one. -/
theorem exists_gap (text : List Char) : ∃ gap : Gap, text = gap.chars ++ skipGap text := by
  refine ⟨⟨text.takeWhile isGap, fun c h => List.mem_takeWhile_imp h⟩, ?_⟩
  exact List.takeWhile_append_dropWhile.symm

theorem exists_gap_of_skipGap {text others : List Char} (h : skipGap text = others) :
    ∃ gap : Gap, text = gap.chars ++ others :=
  h ▸ exists_gap text

/-- A gap ends a number. -/
theorem Gap.endsNumber (gap : Gap) {rest : List Char} (ends : EndsNumber rest) :
    EndsNumber (gap.chars ++ rest) := by
  obtain ⟨chars, blank⟩ := gap
  cases chars with
  | nil => exact ends
  | cons c chars =>
    rintro d ⟨⟩
    have gap := blank c List.mem_cons_self
    simp only [isGap, Bool.or_eq_true, decide_eq_true_eq] at gap
    rcases gap with ((rfl | rfl) | rfl) | rfl <;> decide

/-! ## Parts of a spelling -/

theorem isGap_of_isDigit {c : Char} (h : c.isDigit = true) : isGap c = false := by
  obtain ⟨_, _, same, gap, -⟩ := begins_of_isDigit h []
  exact (List.cons.inj same).1 ▸ gap

theorem Numeral.exists_digit (n : Numeral) :
    ∃ c rest, n.unsigned = c :: rest ∧ c.isDigit = true := by
  obtain ⟨c, digits, whole⟩ := List.exists_cons_of_ne_nil n.whole.nonempty
  refine ⟨c, digits ++ (fractionChars n.fraction? ++ exponentChars n.exponent?), ?_, ?_⟩
  · rw [Numeral.unsigned, whole, List.cons_append]
  · exact n.whole.digits c (whole ▸ List.mem_cons_self)

namespace Spelling

theorem begins (spelling : Spelling) : Begins spelling.chars := by
  match spelling with
  | .null => exact ⟨'n', _, rfl, rfl, by decide⟩
  | .bool true => exact ⟨'t', _, rfl, rfl, by decide⟩
  | .bool false => exact ⟨'f', _, rfl, rfl, by decide⟩
  | .number n =>
    obtain ⟨c, rest, whole, digit⟩ := n.exists_digit
    rw [chars, Numeral.chars]
    split
    · exact begins_minus _
    · rw [whole]
      exact begins_of_isDigit digit rest
  | .string _ => exact ⟨'"', _, rfl, rfl, by decide⟩
  | .array _ [] | .array _ (_ :: _) => exact ⟨'[', _, rfl, rfl, by decide⟩
  | .object _ [] | .object _ (_ :: _) => exact ⟨'\x7b', _, rfl, rfl, by decide⟩

theorem itemsValue?_eq_some {items : List (Spaced Spelling)} {values : List Value} :
    itemsValue? items = some values ↔
      List.Forall₂ (fun item value => item.core.value? = some value) items values := by
  induction items generalizing values with
  | nil => simp [itemsValue?, eq_comm]
  | cons item items ih =>
    obtain ⟨before, item, after⟩ := item
    rw [itemsValue?]
    constructor
    · intro h
      split at h
      next value others first rest =>
        cases h
        exact .cons first (ih.mp rest)
      next => cases h
    · rintro (_ | ⟨first, rest⟩)
      simp only at first
      rw [first, ih.mpr rest]

theorem membersValue?_eq_some {members : List Member} {all : Members} :
    membersValue? members = some all ↔
      List.Forall₂ (fun member pair => Piece.text? member.1.core = some pair.1 ∧
        member.2.core.value? = some pair.2) members all := by
  induction members generalizing all with
  | nil => simp [membersValue?, eq_comm]
  | cons member members ih =>
    obtain ⟨⟨front, key, back⟩, ⟨before, value, after⟩⟩ := member
    rw [membersValue?]
    constructor
    · intro h
      split at h
      next key value others first second rest =>
        cases h
        exact .cons ⟨first, second⟩ (ih.mp rest)
      next => cases h
    · rintro (_ | ⟨⟨first, second⟩, rest⟩)
      simp only at first second
      rw [first, second, ih.mpr rest]

theorem itemsDepth_le {items : List (Spaced Spelling)} {n : Nat} :
    itemsDepth items ≤ n ↔ ∀ item ∈ items, item.core.depth ≤ n := by
  induction items with
  | nil => simp [itemsDepth]
  | cons item items ih => rw [itemsDepth, Nat.max_le, ih, List.forall_mem_cons]

theorem membersDepth_le {members : List Member} {n : Nat} :
    membersDepth members ≤ n ↔ ∀ member ∈ members, member.2.core.depth ≤ n := by
  induction members with
  | nil => simp [membersDepth]
  | cons member members ih => rw [membersDepth, Nat.max_le, ih, List.forall_mem_cons]

theorem itemsValue?_isSome {items : List (Spaced Spelling)} :
    (itemsValue? items).isSome ↔ ∀ item ∈ items, item.core.value?.isSome := by
  induction items with
  | nil => simp [itemsValue?]
  | cons item items ih =>
    rw [List.forall_mem_cons, ← ih, itemsValue?]
    cases item.core.value? <;> cases itemsValue? items <;> simp

theorem membersValue?_isSome {members : List Member} :
    (membersValue? members).isSome ↔ ∀ member ∈ members,
      (Piece.text? member.1.core).isSome ∧ member.2.core.value?.isSome := by
  induction members with
  | nil => simp [membersValue?]
  | cons member members ih =>
    rw [List.forall_mem_cons, ← ih, membersValue?]
    cases Piece.text? member.1.core <;> cases member.2.core.value? <;>
      cases membersValue? members <;> simp

theorem mem_itemsStrings {items : List (Spaced Spelling)} {pieces : List Piece} :
    pieces ∈ itemsStrings items ↔ ∃ item ∈ items, pieces ∈ item.core.strings := by
  induction items with
  | nil => simp [itemsStrings]
  | cons item items ih => simp [itemsStrings, ih]

theorem mem_membersStrings {members : List Member} {pieces : List Piece} :
    pieces ∈ membersStrings members ↔
      ∃ member ∈ members, pieces = member.1.core ∨ pieces ∈ member.2.core.strings := by
  induction members with
  | nil => simp [membersStrings]
  | cons member members ih => simp [membersStrings, ih, or_assoc]

theorem mem_itemsNumerals {items : List (Spaced Spelling)} {n : Numeral} :
    n ∈ itemsNumerals items ↔ ∃ item ∈ items, n ∈ item.core.numerals := by
  induction items with
  | nil => simp [itemsNumerals]
  | cons item items ih => simp [itemsNumerals, ih]

theorem mem_membersNumerals {members : List Member} {n : Numeral} :
    n ∈ membersNumerals members ↔ ∃ member ∈ members, n ∈ member.2.core.numerals := by
  induction members with
  | nil => simp [membersNumerals]
  | cons member members ih => simp [membersNumerals, ih]

/-- There is a value if each surrogate has its partner and no number is too large. -/
theorem value?_isSome (spelling : Spelling) :
    spelling.value?.isSome ↔ (∀ pieces ∈ spelling.strings, decode? pieces ≠ none) ∧
      ∀ n ∈ spelling.numerals, n.value? ≠ none := by
  induction spelling with
  | null | bool => simp [value?, strings, numerals]
  | number n => simp [value?, strings, numerals, Option.isSome_iff_ne_none]
  | string pieces => simp [value?, strings, numerals, Piece.text?, Option.isSome_iff_ne_none]
  | array gap items ih =>
    rw [value?, Option.isSome_map, itemsValue?_isSome, strings, numerals]
    simp only [mem_itemsStrings, mem_itemsNumerals]
    constructor
    · intro each
      refine ⟨?_, ?_⟩
      · rintro pieces ⟨item, among, inside⟩
        exact ((ih item among).mp (each item among)).1 pieces inside
      · rintro n ⟨item, among, inside⟩
        exact ((ih item among).mp (each item among)).2 n inside
    · rintro ⟨paired, inRange⟩ item among
      exact (ih item among).mpr ⟨fun pieces inside => paired pieces ⟨item, among, inside⟩,
        fun n inside => inRange n ⟨item, among, inside⟩⟩
  | object gap members ih =>
    rw [value?, Option.isSome_map, membersValue?_isSome, strings, numerals]
    simp only [mem_membersStrings, mem_membersNumerals, Piece.text?, Option.isSome_map,
      Option.isSome_iff_ne_none]
    simp only [Option.isSome_iff_ne_none] at ih
    constructor
    · intro each
      refine ⟨?_, ?_⟩
      · rintro pieces ⟨member, among, rfl | inside⟩
        · exact (each member among).1
        · exact ((ih member among).mp (each member among).2).1 pieces inside
      · rintro n ⟨member, among, inside⟩
        exact ((ih member among).mp (each member among).2).2 n inside
    · rintro ⟨paired, inRange⟩ member among
      exact ⟨paired member.1.core ⟨member, among, .inl rfl⟩, (ih member among).mpr
        ⟨fun pieces inside => paired pieces ⟨member, among, .inr inside⟩,
          fun n inside => inRange n ⟨member, among, inside⟩⟩⟩

/-- What can be read has a value. -/
theorem readable_iff (spelling : Spelling) :
    spelling.Readable ↔ spelling.depth ≤ nestingLimit ∧ spelling.value?.isSome := by
  rw [value?_isSome]
  exact ⟨fun h => ⟨h.shallow, h.paired, h.inRange⟩, fun h => ⟨h.1, h.2.1, h.2.2⟩⟩

theorem length_lt_itemsChars (items : List (Spaced Spelling)) :
    items.length < (itemsChars items).length := by
  induction items with
  | nil => simp [itemsChars]
  | cons item items ih =>
    simp only [itemsChars, List.length_cons, List.length_append]
    omega

theorem length_lt_membersChars (members : List Member) :
    members.length < (membersChars members).length := by
  induction members with
  | nil => simp [membersChars]
  | cons member members ih =>
    simp only [membersChars, List.length_cons, List.length_append]
    omega

theorem length_item_lt {item : Spaced Spelling} {items : List (Spaced Spelling)}
    (h : item ∈ items) : item.core.chars.length < (itemsChars items).length := by
  induction items with
  | nil => cases h
  | cons first items ih =>
    simp only [itemsChars, List.length_cons, List.length_append]
    rcases List.mem_cons.mp h with rfl | h
    · omega
    · have := ih h
      omega

theorem length_value_lt {member : Member} {members : List Member} (h : member ∈ members) :
    member.2.core.chars.length < (membersChars members).length := by
  induction members with
  | nil => cases h
  | cons first members ih =>
    obtain ⟨⟨front, key, back⟩, ⟨before, value, after⟩⟩ := first
    simp only [membersChars, List.length_cons, List.length_append]
    rcases List.mem_cons.mp h with rfl | h
    · simp only
      omega
    · have := ih h
      omega

theorem array_chars (gap : Gap) (items : List (Spaced Spelling)) :
    (Spelling.array gap items).chars = '[' :: (Spelling.array gap items).chars.tail := by
  cases items <;> simp [Spelling.chars]

theorem object_chars (gap : Gap) (members : List Member) :
    (Spelling.object gap members).chars =
      '\x7b' :: (Spelling.object gap members).chars.tail := by
  cases members <;> simp [Spelling.chars]

theorem length_itemsChars_le (gap : Gap) (items : List (Spaced Spelling)) :
    (itemsChars items).length ≤ (Spelling.array gap items).chars.length := by
  cases items <;> simp [itemsChars, chars]

theorem length_membersChars_le (gap : Gap) (members : List Member) :
    (membersChars members).length ≤ (Spelling.object gap members).chars.length := by
  cases members <;> simp [membersChars, chars]

/-- What bounds the text of an array bounds its length and the texts of its items. -/
theorem fits_items {gap : Gap} {items : List (Spaced Spelling)} {bound : Nat}
    (fits : (Spelling.array gap items).chars.length ≤ bound) :
    items.length < bound ∧ ∀ item ∈ items, item.core.chars.length ≤ bound := by
  have whole := (length_itemsChars_le gap items).trans fits
  exact ⟨(length_lt_itemsChars items).trans_le whole,
    fun item h => (length_item_lt h).le.trans whole⟩

/-- What bounds the text of an object bounds its length and the texts of its values. -/
theorem fits_members {gap : Gap} {members : List Member} {bound : Nat}
    (fits : (Spelling.object gap members).chars.length ≤ bound) :
    members.length < bound ∧ ∀ member ∈ members, member.2.core.chars.length ≤ bound := by
  have whole := (length_membersChars_le gap members).trans fits
  exact ⟨(length_lt_membersChars members).trans_le whole,
    fun member h => (length_value_lt h).le.trans whole⟩

end Spelling

/-! ## From the grammar to the reader -/

/-- The reader takes the text as this, in front of what cannot go on with a number. -/
def Takes {β : Type} (reader : Reader β) (text : List Char) (b : β) : Prop :=
  ∀ rest, EndsNumber rest → reader (text ++ rest) = .ok (b, rest)

open Spelling

theorem endsNumber_itemsChars (items : List (Spaced Spelling)) (rest : List Char) :
    EndsNumber (itemsChars items ++ rest) := by
  cases items <;> exact endsNumber_cons (by decide)

theorem endsNumber_membersChars (members : List Member) (rest : List Char) :
    EndsNumber (membersChars members ++ rest) := by
  cases members <;> exact endsNumber_cons (by decide)

theorem readItemsFrom_chars {β : Type} {item : Reader β} {items : List (Spaced Spelling)}
    {bs : List β} (takes : List.Forall₂ (fun part b => Takes item part.core.chars b) items bs)
    {bound : Nat} (fits : items.length < bound) (done : List β) (after : Gap)
    (rest : List Char) :
    readItemsFrom item bound done (after.chars ++ (itemsChars items ++ rest)) =
      .ok (done.reverse ++ bs, rest) := by
  induction takes generalizing bound done after with
  | nil =>
    obtain ⟨bound, rfl⟩ : ∃ n, bound = n + 1 := ⟨bound - 1, by simp at fits; omega⟩
    simp [itemsChars, readItemsFrom, skipGap_cons (show isGap ']' = false from rfl)]
  | @cons part b items bs first _ ih =>
    obtain ⟨bound, rfl⟩ : ∃ n, bound = n + 1 := ⟨bound - 1, by simp at fits; omega⟩
    obtain ⟨before, core, behind⟩ := part
    obtain ⟨c, text, start, gap, close⟩ :=
      core.begins.append (behind.chars ++ (itemsChars items ++ rest))
    have taken := first _ (behind.endsNumber (endsNumber_itemsChars items rest))
    rw [start] at taken
    have others := ih (by simpa using fits) (b :: done) behind
    simp only [itemsChars, List.cons_append, List.append_assoc, readItemsFrom, skipGap_gap,
      skipGap_cons (show isGap ',' = false from rfl), start, skipGap_cons gap, close, taken]
    rw [if_neg (by decide), if_pos trivial, if_neg not_false, others]
    simp

/-- An array is taken if each of its items is. -/
theorem readItems_chars {β : Type} {item : Reader β} {items : List (Spaced Spelling)}
    {bs : List β} (takes : List.Forall₂ (fun part b => Takes item part.core.chars b) items bs)
    (gap : Gap) {bound : Nat} (fits : items.length < bound) (rest : List Char) :
    readItems bound item ((Spelling.array gap items).chars.tail ++ rest) = .ok (bs, rest) := by
  cases takes with
  | nil =>
    simp [Spelling.chars, readItems, skipGap_cons (show isGap ']' = false from rfl)]
  | @cons part b items bs first others =>
    obtain ⟨before, core, behind⟩ := part
    obtain ⟨c, text, start, gap, close⟩ :=
      core.begins.append (behind.chars ++ (itemsChars items ++ rest))
    have taken := first _ (behind.endsNumber (endsNumber_itemsChars items rest))
    rw [start] at taken
    simp only [Spelling.chars, List.tail_cons, List.append_assoc, readItems, skipGap_gap, start,
      skipGap_cons gap, if_neg close, taken]
    exact readItemsFrom_chars others (by simp at fits; omega) [b] behind rest

/-- From a state, taking members one after another ends in another state. -/
inductive TakesMembers {σ : Type} (member : σ → String → Reader σ) : σ → List Member → σ → Prop
  | nil (state : σ) : TakesMembers member state [] state
  | cons {state next last : σ} {key : String} {first : Member} {members : List Member}
      (named : Piece.text? first.1.core = some key)
      (taken : Takes (member state key)
        (first.1.after.chars ++ ':' :: (first.2.before.chars ++ first.2.core.chars)) next)
      (others : TakesMembers member next members last) :
      TakesMembers member state (first :: members) last

/-- A member is taken behind the quote of its key. -/
theorem readMember_chars {σ : Type} {member : σ → String → Reader σ} {state next : σ}
    {key : String} {first : Member} (named : Piece.text? first.1.core = some key)
    (taken : Takes (member state key)
      (first.1.after.chars ++ ':' :: (first.2.before.chars ++ first.2.core.chars)) next)
    {rest : List Char} (ends : EndsNumber rest) :
    readMember member state (first.1.core.flatMap Piece.chars ++ '"' :: (first.1.after.chars ++
      ':' :: (first.2.before.chars ++ (first.2.core.chars ++ rest)))) = .ok (next, rest) := by
  have taken := taken rest ends
  simp only [List.append_assoc, List.cons_append] at taken
  simp only [readMember, readString_pieces named, taken]

theorem readMembersFrom_chars {σ : Type} {member : σ → String → Reader σ} {state last : σ}
    {members : List Member} (takes : TakesMembers member state members last) {bound : Nat}
    (fits : members.length < bound) (after : Gap) (rest : List Char) :
    readMembersFrom member bound state (after.chars ++ (membersChars members ++ rest)) =
      .ok (last, rest) := by
  induction takes generalizing bound after with
  | nil =>
    obtain ⟨bound, rfl⟩ : ∃ n, bound = n + 1 := ⟨bound - 1, by simp at fits; omega⟩
    simp [membersChars, readMembersFrom, skipGap_cons (show isGap '\x7d' = false from rfl)]
  | @cons state next last key first members named taken _ ih =>
    obtain ⟨bound, rfl⟩ : ∃ n, bound = n + 1 := ⟨bound - 1, by simp at fits; omega⟩
    have read := readMember_chars named taken
      (first.2.after.endsNumber (endsNumber_membersChars members rest))
    have others := ih (by simpa using fits) first.2.after
    simp only [membersChars, Piece.quoted, List.cons_append, List.append_assoc, List.nil_append,
      readMembersFrom, skipGap_gap, skipGap_cons (show isGap ',' = false from rfl),
      skipGap_cons (show isGap '"' = false from rfl), read]
    rw [if_neg (by decide), if_pos trivial, if_pos trivial, others]

/-- The first member is read like those behind a comma. -/
theorem readMembers_quote {σ : Type} (bound : Nat) (member : σ → String → Reader σ) (state : σ)
    (gap : Gap) (text : List Char) :
    readMembers bound member state (gap.chars ++ '"' :: text) =
      readMembersFrom member (bound + 1) state (',' :: (gap.chars ++ '"' :: text)) := by
  simp [readMembers, readMembersFrom, skipGap_cons (show isGap ',' = false from rfl),
    skipGap_cons (show isGap '"' = false from rfl)]

/-- An object is taken if each of its members is. -/
theorem readMembers_chars {σ : Type} {member : σ → String → Reader σ} {state last : σ}
    {members : List Member} (takes : TakesMembers member state members last) (gap : Gap)
    {bound : Nat} (fits : members.length < bound) (rest : List Char) :
    readMembers bound member state ((Spelling.object gap members).chars.tail ++ rest) =
      .ok (last, rest) := by
  cases members with
  | nil =>
    cases takes
    simp [Spelling.chars, readMembers, skipGap_cons (show isGap '\x7d' = false from rfl)]
  | cons first members =>
    have whole := readMembersFrom_chars takes (Nat.lt_succ_of_lt fits) Gap.none rest
    simpa [Spelling.chars, membersChars, Piece.quoted, Gap.none, readMembers_quote] using whole

/-! ## Values that are spelled -/

theorem readValueAround_gap (bound : Nat) (inner : Option (Reader Value)) (gap : Gap)
    (text : List Char) :
    readValueAround bound inner (gap.chars ++ text) = readValueAround bound inner text := by
  simp only [readValueAround, skipGap_gap]

theorem readValue_gap (bound depth : Nat) (gap : Gap) (text : List Char) :
    readValue bound depth (gap.chars ++ text) = readValue bound depth text := by
  cases depth <;> exact readValueAround_gap bound _ gap text

theorem Takes.of_around {bound : Nat} {text : List Char} {value : Value}
    (h : ∀ inner, Takes (readValueAround bound inner) text value) (depth : Nat) :
    Takes (readValue bound depth) text value := by
  cases depth with
  | zero => exact h none
  | succ depth => exact h (some (readValue bound depth))

theorem takes_pieces (bound : Nat) (inner : Option (Reader Value)) {pieces : List Piece}
    {s : String} (h : Piece.text? pieces = some s) :
    Takes (readValueAround bound inner) (Piece.quoted pieces) (.string s) := by
  intro rest _
  have taken := readString_pieces h rest
  simp [Piece.quoted, readValueAround, skipGap_cons (show isGap '"' = false from rfl), Reader.map,
    taken]

theorem takes_numeral (bound : Nat) (inner : Option (Reader Value)) {n : Numeral} {x : Number}
    (h : n.value? = some x) : Takes (readValueAround bound inner) n.chars (.number x) := by
  intro rest ends
  have taken := n.yields (Numeral.stops_of_ends ends n.fraction? n.exponent?)
  rw [h, Yields] at taken
  obtain ⟨c, others, whole, digit⟩ := n.exists_digit
  cases negative : n.negative with
  | true =>
    rw [negative, Bool.not_true] at taken
    simp only [Numeral.chars, negative, if_true, List.cons_append, List.nil_append,
      readValueAround_minus, Reader.map, taken]
  | false =>
    rw [negative, Bool.not_false, whole, List.cons_append] at taken
    simp only [Numeral.chars, negative, Bool.false_eq_true, if_false, whole, List.cons_append,
      List.nil_append, readValueAround_digit digit, Reader.map, taken]

/-- Members are taken one after another, and put among those before them. -/
theorem takesMembers_values {reader : Reader Value}
    (gapless : ∀ (gap : Gap) text, reader (gap.chars ++ text) = reader text)
    {members : List Member} {all : Members}
    (takes : List.Forall₂ (fun member pair => Piece.text? member.1.core = some pair.1 ∧
      Takes reader member.2.core.chars pair.2) members all) (done : Members) :
    TakesMembers (readValueOf reader) done members
      (all.foldl (fun done pair => Members.put pair.1 pair.2 done) done) := by
  induction takes generalizing done with
  | nil => exact .nil done
  | @cons member pair members all first _ ih =>
    obtain ⟨named, taken⟩ := first
    refine .cons named ?_ (ih (Members.put pair.1 pair.2 done))
    intro rest ends
    have taken := taken rest ends
    simp only [List.append_assoc, List.cons_append, readValueOf, readColon_chars, gapless, taken]

theorem forall₂_imp_of_mem {α β : Type} {R S : α → β → Prop} {as : List α} {bs : List β}
    (h : List.Forall₂ R as bs) (imp : ∀ a ∈ as, ∀ b, R a b → S a b) : List.Forall₂ S as bs :=
  ((List.forall₂_and_left as bs).mpr ⟨imp, h⟩).imp fun _ b h => h.1 b h.2

/-- What is spelled is taken as its value, unless it opens too many arrays and objects at once. -/
theorem Spelling.takes (spelling : Spelling) {value : Value} (h : spelling.value? = some value)
    {bound depth : Nat} (shallow : spelling.depth ≤ depth)
    (fits : spelling.chars.length ≤ bound) :
    Takes (readValue bound depth) spelling.chars value := by
  induction spelling generalizing value depth with
  | null =>
    cases h
    exact Reads.of_around (reads_null bound) depth
  | bool b =>
    cases h
    cases b with
    | true => exact Reads.of_around (fun inner => reads_bool bound inner true) depth
    | false => exact Reads.of_around (fun inner => reads_bool bound inner false) depth
  | number n =>
    obtain ⟨x, number, rfl⟩ := Option.map_eq_some_iff.mp h
    exact .of_around (fun inner => takes_numeral bound inner number) depth
  | string pieces =>
    obtain ⟨s, text, rfl⟩ := Option.map_eq_some_iff.mp h
    exact .of_around (fun inner => takes_pieces bound inner text) depth
  | array gap items ih =>
    obtain ⟨values, all, rfl⟩ := Option.map_eq_some_iff.mp h
    obtain ⟨depth, rfl⟩ : ∃ n, depth = n + 1 :=
      ⟨depth - 1, by rw [Spelling.depth] at shallow; omega⟩
    rw [Spelling.depth, Nat.add_le_add_iff_right, itemsDepth_le] at shallow
    obtain ⟨short, each⟩ := Spelling.fits_items fits
    have takes := forall₂_imp_of_mem (itemsValue?_eq_some.mp all) fun part among value h =>
      ih part among h (shallow part among) (each part among)
    intro rest _
    rw [array_chars, List.cons_append, readValue, readValueAround_bracket, Reader.map,
      readItems_chars takes gap short rest]
  | object gap members ih =>
    obtain ⟨all, pairs, rfl⟩ := Option.map_eq_some_iff.mp h
    obtain ⟨depth, rfl⟩ : ∃ n, depth = n + 1 :=
      ⟨depth - 1, by rw [Spelling.depth] at shallow; omega⟩
    rw [Spelling.depth, Nat.add_le_add_iff_right, membersDepth_le] at shallow
    obtain ⟨short, each⟩ := Spelling.fits_members fits
    have takes := forall₂_imp_of_mem (S := fun member pair =>
        Piece.text? member.1.core = some pair.1 ∧
          Takes (readValue bound depth) member.2.core.chars pair.2)
      (membersValue?_eq_some.mp pairs) fun member among pair h =>
        ⟨h.1, ih member among h.2 (shallow member among) (each member among)⟩
    intro rest _
    rw [object_chars, List.cons_append, readValue, readValueAround_brace, Reader.map,
      readMembers_chars (takesMembers_values (readValue_gap bound depth) takes []) gap short rest]
    rfl

/-! ## From the reader to the grammar -/

/-- What the reader accepts is a spelling, behind a gap, that has to do with what it returns. -/
def FindsSpelling {β : Type} (reader : Reader β) (means : Spelling → β → Prop) : Prop :=
  ∀ (text : List Char) (b : β) (rest : List Char), reader text = .ok (b, rest) →
    ∃ (before : Gap) (core : Spelling), text = before.chars ++ (core.chars ++ rest) ∧ means core b

/-- One gap behind another. -/
def Gap.append (first second : Gap) : Gap :=
  ⟨first.chars ++ second.chars, List.forall_mem_append.mpr ⟨first.blank, second.blank⟩⟩

/-- Behind an item the array ends, or a comma and another item follow. -/
theorem readItemsFrom_cases {β : Type} {item : Reader β} {bound : Nat} {done bs : List β}
    {text rest : List Char} (h : readItemsFrom item (bound + 1) done text = .ok (bs, rest)) :
    (∃ after : Gap, text = after.chars ++ ']' :: rest ∧ bs = done.reverse) ∨
    ∃ (after before : Gap) (start : List Char) (b : β) (behind : List Char),
      text = after.chars ++ ',' :: (before.chars ++ start) ∧ item start = .ok (b, behind) ∧
      readItemsFrom item bound (b :: done) behind = .ok (bs, rest) := by
  simp only [readItemsFrom] at h
  split at h
  next => simp at h
  next c others found =>
    obtain ⟨after, whole⟩ := exists_gap_of_skipGap found
    by_cases close : c = ']'
    · rw [if_pos close] at h
      cases h
      exact .inl ⟨after, close ▸ whole, rfl⟩
    · rw [if_neg close] at h
      by_cases comma : c = ','
      · rw [if_pos comma] at h
        split at h
        next => simp at h
        next d start found =>
          obtain ⟨before, whole'⟩ := exists_gap_of_skipGap found
          split at h
          next => simp at h
          next =>
            split at h
            next => cases h
            next b behind taken =>
              exact .inr ⟨after, before, _, b, behind, by rw [whole, comma, whole'], taken, h⟩
      · rw [if_neg comma] at h
        simp at h

theorem exists_items_of_readItemsFrom {β : Type} {item : Reader β} {means : Spelling → β → Prop}
    (finds : FindsSpelling item means) {bound : Nat} {done bs : List β} {text rest : List Char}
    (h : readItemsFrom item bound done text = .ok (bs, rest)) :
    ∃ (after : Gap) (items : List (Spaced Spelling)) (others : List β),
      text = after.chars ++ (itemsChars items ++ rest) ∧
      List.Forall₂ (fun part b => means part.core b) items others ∧
      bs = done.reverse ++ others := by
  induction bound generalizing done text with
  | zero => simp [readItemsFrom] at h
  | succ bound ih =>
    rcases readItemsFrom_cases h with ⟨after, rfl, rfl⟩ |
      ⟨after, before, start, b, behind, rfl, taken, later⟩
    · exact ⟨after, [], [], by rw [itemsChars]; rfl, .nil, (List.append_nil _).symm⟩
    · obtain ⟨gap, core, rfl, meant⟩ := finds _ _ _ taken
      obtain ⟨back, items, others, rfl, all, rfl⟩ := ih later
      refine ⟨after, ⟨before.append gap, core, back⟩ :: items, b :: others, ?_,
        .cons meant all, ?_⟩
      · simp [itemsChars, Gap.append]
      · simp

/-- Behind the bracket the array ends, or an item follows. -/
theorem readItems_cases {β : Type} {item : Reader β} {bound : Nat} {bs : List β}
    {text rest : List Char} (h : readItems bound item text = .ok (bs, rest)) :
    (∃ gap : Gap, text = gap.chars ++ ']' :: rest ∧ bs = []) ∨
    ∃ (before : Gap) (start : List Char) (b : β) (behind : List Char),
      text = before.chars ++ start ∧ item start = .ok (b, behind) ∧
      readItemsFrom item bound [b] behind = .ok (bs, rest) := by
  simp only [readItems] at h
  split at h
  next => simp at h
  next c others found =>
    obtain ⟨before, whole⟩ := exists_gap_of_skipGap found
    by_cases close : c = ']'
    · rw [if_pos close] at h
      cases h
      exact .inl ⟨before, close ▸ whole, rfl⟩
    · rw [if_neg close] at h
      split at h
      next => cases h
      next b behind taken => exact .inr ⟨before, _, b, behind, whole, taken, h⟩

theorem exists_items_of_readItems {β : Type} {item : Reader β} {means : Spelling → β → Prop}
    (finds : FindsSpelling item means) {bound : Nat} {bs : List β} {text rest : List Char}
    (h : readItems bound item text = .ok (bs, rest)) :
    ∃ (gap : Gap) (items : List (Spaced Spelling)),
      '[' :: text = (Spelling.array gap items).chars ++ rest ∧
      List.Forall₂ (fun part b => means part.core b) items bs := by
  rcases readItems_cases h with ⟨gap, rfl, rfl⟩ | ⟨before, start, b, behind, rfl, taken, later⟩
  · exact ⟨gap, [], by simp [Spelling.chars], .nil⟩
  · obtain ⟨gap, core, rfl, meant⟩ := finds _ _ _ taken
    obtain ⟨back, items, others, rfl, all, rfl⟩ := exists_items_of_readItemsFrom finds later
    refine ⟨.none, ⟨before.append gap, core, back⟩ :: items, ?_, .cons meant all⟩
    simp [Spelling.chars, Gap.append]

/-- What a member that was read looks like behind the quote of its key. -/
theorem exists_member_of_readMember {reader : Reader Value} {means : Spelling → Value → Prop}
    (finds : FindsSpelling reader means) {state next : Members} {text rest : List Char}
    (h : readMember (readValueOf reader) state text = .ok (next, rest)) :
    ∃ (key : List Piece) (back before : Gap) (core : Spelling) (name : String) (value : Value),
      text = key.flatMap Piece.chars ++ '"' :: (back.chars ++ ':' ::
        (before.chars ++ (core.chars ++ rest))) ∧
      Piece.text? key = some name ∧ means core value ∧ next = Members.put name value state := by
  simp only [readMember] at h
  split at h
  next => cases h
  next name behind named =>
    obtain ⟨key, rfl, spelled⟩ := exists_pieces_of_readString named
    simp only [readValueOf] at h
    split at h
    next => cases h
    next others colon =>
      rw [readColon] at colon
      split at colon
      next => simp at colon
      next c others' found =>
        obtain ⟨back, rfl⟩ := exists_gap_of_skipGap found
        split at colon
        next isColon =>
          cases colon
          split at h
          next => cases h
          next value behind taken =>
            cases h
            obtain ⟨before, core, rfl, meant⟩ := finds _ _ _ taken
            exact ⟨key, back, before, core, name, value, by rw [isColon], spelled, meant, rfl⟩
        next => simp at colon

/-- Behind a member the object ends, or a comma and another member follow. -/
theorem readMembersFrom_cases {σ : Type} {member : σ → String → Reader σ} {bound : Nat}
    {state last : σ} {text rest : List Char}
    (h : readMembersFrom member (bound + 1) state text = .ok (last, rest)) :
    (∃ after : Gap, text = after.chars ++ '\x7d' :: rest ∧ last = state) ∨
    ∃ (after before : Gap) (start : List Char) (next : σ) (behind : List Char),
      text = after.chars ++ ',' :: (before.chars ++ '"' :: start) ∧
      readMember member state start = .ok (next, behind) ∧
      readMembersFrom member bound next behind = .ok (last, rest) := by
  simp only [readMembersFrom] at h
  split at h
  next => simp at h
  next c others found =>
    obtain ⟨after, whole⟩ := exists_gap_of_skipGap found
    by_cases close : c = '\x7d'
    · rw [if_pos close] at h
      cases h
      exact .inl ⟨after, close ▸ whole, rfl⟩
    · rw [if_neg close] at h
      by_cases comma : c = ','
      · rw [if_pos comma] at h
        split at h
        next => simp at h
        next d start found =>
          obtain ⟨before, whole'⟩ := exists_gap_of_skipGap found
          by_cases quote : d = '"'
          · rw [if_pos quote] at h
            split at h
            next => cases h
            next next' behind taken =>
              exact .inr ⟨after, before, start, next', behind, by rw [whole, comma, whole', quote],
                taken, h⟩
          · rw [if_neg quote] at h
            simp at h
      · rw [if_neg comma] at h
        simp at h

/-- Behind the brace the object ends, or a member follows. -/
theorem readMembers_cases {σ : Type} {member : σ → String → Reader σ} {bound : Nat}
    {state last : σ} {text rest : List Char}
    (h : readMembers bound member state text = .ok (last, rest)) :
    (∃ gap : Gap, text = gap.chars ++ '\x7d' :: rest ∧ last = state) ∨
    ∃ (before : Gap) (start : List Char) (next : σ) (behind : List Char),
      text = before.chars ++ '"' :: start ∧ readMember member state start = .ok (next, behind) ∧
      readMembersFrom member bound next behind = .ok (last, rest) := by
  simp only [readMembers] at h
  split at h
  next => simp at h
  next c others found =>
    obtain ⟨before, whole⟩ := exists_gap_of_skipGap found
    by_cases close : c = '\x7d'
    · rw [if_pos close] at h
      cases h
      exact .inl ⟨before, close ▸ whole, rfl⟩
    · rw [if_neg close] at h
      by_cases quote : c = '"'
      · rw [if_pos quote] at h
        split at h
        next => cases h
        next next' behind taken =>
          exact .inr ⟨before, others, next', behind, by rw [whole, quote], taken, h⟩
      · rw [if_neg quote] at h
        simp at h

theorem exists_members_of_readMembersFrom {reader : Reader Value}
    {means : Spelling → Value → Prop} (finds : FindsSpelling reader means) {bound : Nat}
    {state last : Members} {text rest : List Char}
    (h : readMembersFrom (readValueOf reader) bound state text = .ok (last, rest)) :
    ∃ (after : Gap) (members : List Member) (all : Members),
      text = after.chars ++ (membersChars members ++ rest) ∧
      List.Forall₂ (fun member pair => Piece.text? member.1.core = some pair.1 ∧
        means member.2.core pair.2) members all ∧
      last = all.foldl (fun done pair => Members.put pair.1 pair.2 done) state := by
  induction bound generalizing state text with
  | zero => simp [readMembersFrom] at h
  | succ bound ih =>
    rcases readMembersFrom_cases h with ⟨after, rfl, rfl⟩ |
      ⟨after, front, start, next, behind, rfl, taken, later⟩
    · exact ⟨after, [], [], by rw [membersChars]; rfl, .nil, rfl⟩
    · obtain ⟨key, back, before, core, name, value, rfl, named, meant, rfl⟩ :=
        exists_member_of_readMember finds taken
      obtain ⟨last, members, all, rfl, others, rfl⟩ := ih later
      refine ⟨after, (⟨front, key, back⟩, ⟨before, core, last⟩) :: members,
        (name, value) :: all, ?_, .cons ⟨named, meant⟩ others, rfl⟩
      simp [membersChars, Piece.quoted]

theorem exists_members_of_readMembers {reader : Reader Value} {means : Spelling → Value → Prop}
    (finds : FindsSpelling reader means) {bound : Nat} {last : Members} {text rest : List Char}
    (h : readMembers bound (readValueOf reader) [] text = .ok (last, rest)) :
    ∃ (gap : Gap) (members : List Member) (all : Members),
      '\x7b' :: text = (Spelling.object gap members).chars ++ rest ∧
      List.Forall₂ (fun member pair => Piece.text? member.1.core = some pair.1 ∧
        means member.2.core pair.2) members all ∧
      last = all.gather := by
  rcases readMembers_cases h with ⟨gap, rfl, rfl⟩ | ⟨front, start, next, behind, rfl, taken, later⟩
  · exact ⟨gap, [], [], by simp [Spelling.chars], .nil, rfl⟩
  · obtain ⟨key, back, before, core, name, value, rfl, named, meant, rfl⟩ :=
      exists_member_of_readMember finds taken
    obtain ⟨last, members, all, rfl, others, rfl⟩ :=
      exists_members_of_readMembersFrom finds later
    refine ⟨.none, (⟨front, key, back⟩, ⟨before, core, last⟩) :: members,
      (name, value) :: all, ?_, .cons ⟨named, meant⟩ others, rfl⟩
    simp [Spelling.chars, Piece.quoted]

/-! ## Values that were read -/

theorem eq_append_of_readWord {word text rest : List Char} {u : Unit}
    (h : readWord word text = .ok (u, rest)) : text = word ++ rest := by
  induction word generalizing text with
  | nil =>
    cases h
    rfl
  | cons letter word ih =>
    cases text with
    | nil => simp [readWord] at h
    | cons c text =>
      rw [readWord] at h
      split at h
      next same => rw [same, ih h, List.cons_append]
      next => simp at h

theorem Reader.map_eq_ok {α β : Type} {f : α → β} {reader : Reader α} {text rest : List Char}
    {b : β} (h : reader.map f text = .ok (b, rest)) :
    ∃ a, reader text = .ok (a, rest) ∧ f a = b := by
  rw [Reader.map] at h
  split at h
  next => cases h
  next a rest' taken =>
    cases h
    exact ⟨a, taken, rfl⟩

/-- What is spelled has this value, and opens at most this number of arrays and objects at once. -/
def Spelling.Means (depth : Nat) (spelling : Spelling) (value : Value) : Prop :=
  spelling.value? = some value ∧ spelling.depth ≤ depth

theorem means_array {gap : Gap} {items : List (Spaced Spelling)} {values : List Value}
    {depth : Nat}
    (all : List.Forall₂ (fun part value => Means depth part.core value) items values) :
    Means (depth + 1) (.array gap items) (.array values) := by
  obtain ⟨shallow, spelled⟩ := (List.forall₂_and_left items values).mp
    (all.imp fun _ _ h => And.symm h)
  refine ⟨?_, ?_⟩
  · rw [value?, itemsValue?_eq_some.mpr spelled, Option.map_some]
  · rw [Spelling.depth]
    exact Nat.add_le_add_right (itemsDepth_le.mpr shallow) 1

theorem means_object {gap : Gap} {members : List Member} {all : Members} {depth : Nat}
    (each : List.Forall₂ (fun member pair => Piece.text? member.1.core = some pair.1 ∧
      Means depth member.2.core pair.2) members all) :
    Means (depth + 1) (.object gap members) (.object all.gather) := by
  have apart : List.Forall₂ (fun member pair => member.2.core.depth ≤ depth ∧
      Piece.text? member.1.core = some pair.1 ∧ member.2.core.value? = some pair.2) members all :=
    each.imp fun _ _ h => ⟨h.2.2, h.1, h.2.1⟩
  obtain ⟨shallow, spelled⟩ := (List.forall₂_and_left members all).mp apart
  refine ⟨?_, ?_⟩
  · rw [value?, membersValue?_eq_some.mpr spelled, Option.map_some]
  · rw [Spelling.depth]
    exact Nat.add_le_add_right (membersDepth_le.mpr shallow) 1

/-- The reader of values finds a spelling if the reader of the values inside does. -/
theorem findsSpelling_readValueAround {bound depth : Nat} {inner : Option (Reader Value)}
    (finds : ∀ value, inner = some value → ∃ n, depth = n + 1 ∧ FindsSpelling value (Means n)) :
    FindsSpelling (readValueAround bound inner) (Means depth) := by
  intro text value rest h
  simp only [readValueAround] at h
  split at h
  next => simp at h
  next c others found =>
    obtain ⟨before, rfl⟩ := exists_gap_of_skipGap found
    refine ⟨before, ?_⟩
    simp only [List.append_cancel_left_eq]
    split at h
    next isN =>
      obtain ⟨_, word, rfl⟩ := Reader.map_eq_ok h
      exact ⟨.null, by rw [isN, eq_append_of_readWord word]; rfl, rfl, Nat.zero_le _⟩
    split at h
    next isT =>
      obtain ⟨_, word, rfl⟩ := Reader.map_eq_ok h
      exact ⟨.bool true, by rw [isT, eq_append_of_readWord word]; rfl, rfl, Nat.zero_le _⟩
    split at h
    next isF =>
      obtain ⟨_, word, rfl⟩ := Reader.map_eq_ok h
      exact ⟨.bool false, by rw [isF, eq_append_of_readWord word]; rfl, rfl, Nat.zero_le _⟩
    split at h
    next isMinus =>
      obtain ⟨x, taken, rfl⟩ := Reader.map_eq_ok h
      obtain ⟨n, sign, number, whole⟩ := exists_numeral_of_readNumber taken
      refine ⟨.number n, ?_, by rw [value?, number, Option.map_some], Nat.zero_le _⟩
      rw [isMinus, whole, Spelling.chars, Numeral.chars, sign]
      rfl
    split at h
    next =>
      obtain ⟨x, taken, rfl⟩ := Reader.map_eq_ok h
      obtain ⟨n, sign, number, whole⟩ := exists_numeral_of_readNumber taken
      refine ⟨.number n, ?_, by rw [value?, number, Option.map_some], Nat.zero_le _⟩
      rw [whole, Spelling.chars, Numeral.chars, sign]
      rfl
    split at h
    next isQuote =>
      obtain ⟨s, taken, rfl⟩ := Reader.map_eq_ok h
      obtain ⟨pieces, whole, spelled⟩ := exists_pieces_of_readString taken
      refine ⟨.string pieces, ?_, by rw [value?, spelled, Option.map_some], Nat.zero_le _⟩
      simp [isQuote, whole, Spelling.chars, Piece.quoted]
    split at h
    next isBracket =>
      split at h
      next => simp at h
      next value =>
        obtain ⟨n, rfl, inside⟩ := finds value rfl
        obtain ⟨values, taken, rfl⟩ := Reader.map_eq_ok h
        obtain ⟨gap, items, whole, all⟩ := exists_items_of_readItems inside taken
        exact ⟨.array gap items, isBracket ▸ whole, means_array all⟩
    split at h
    next isBrace =>
      split at h
      next => simp at h
      next value =>
        obtain ⟨n, rfl, inside⟩ := finds value rfl
        obtain ⟨members, taken, rfl⟩ := Reader.map_eq_ok h
        obtain ⟨gap, members, all, whole, each, rfl⟩ := exists_members_of_readMembers inside taken
        exact ⟨.object gap members, isBrace ▸ whole, means_object each⟩
    simp at h

theorem findsSpelling_readValue (bound depth : Nat) :
    FindsSpelling (readValue bound depth) (Means depth) := by
  induction depth with
  | zero => exact findsSpelling_readValueAround (by simp)
  | succ depth ih =>
    exact findsSpelling_readValueAround fun value h => ⟨depth, rfl, Option.some.inj h ▸ ih⟩

/-! ## Whole texts -/

/-- A text is read exactly if a reader accepts all but a gap at its end. -/
theorem readWhole_eq_ok {α : Type} {reader : Nat → Reader α} {text : String} {a : α} :
    readWhole reader text = .ok a ↔
      ∃ after : Gap, reader (text.toList.length + 1) text.toList = .ok (a, after.chars) := by
  simp only [readWhole]
  cases taken : reader (text.toList.length + 1) text.toList with
  | error failure => simp [Except.mapError]
  | ok result =>
    obtain ⟨a', rest⟩ := result
    simp only [Except.ok.injEq, Prod.mk.injEq]
    constructor
    · intro h
      split at h
      next end' =>
        obtain ⟨after, whole⟩ := exists_gap_of_skipGap end'
        cases h
        exact ⟨after, rfl, by simpa using whole⟩
      next => cases h
    · rintro ⟨after, rfl, rfl⟩
      rw [skipGap_chars]
      rfl

theorem Spelling.Readable.exists_means {spelling : Spelling} (h : spelling.Readable) :
    ∃ value, spelling.Means nestingLimit value := by
  obtain ⟨shallow, found⟩ := (readable_iff spelling).mp h
  obtain ⟨value, spelled⟩ := Option.isSome_iff_exists.mp found
  exact ⟨value, spelled, shallow⟩

theorem Spelling.Means.readable {spelling : Spelling} {value : Value}
    (h : spelling.Means nestingLimit value) : spelling.Readable :=
  (readable_iff spelling).mpr ⟨h.2, Option.isSome_iff_exists.mpr ⟨value, h.1⟩⟩

theorem Spells.nonempty {text : String} {spelling : Spelling} (h : Spells text spelling) :
    text ≠ "" := by
  rintro rfl
  obtain ⟨before, after, whole⟩ := h
  obtain ⟨c, rest, start, -⟩ := spelling.begins
  simp [start] at whole

theorem Spells.length_le {text : String} {spelling : Spelling} (h : Spells text spelling) :
    spelling.chars.length ≤ text.toList.length := by
  obtain ⟨before, after, whole⟩ := h
  rw [whole]
  simp only [List.length_append]
  omega

/-- A text is read as a value exactly if it spells the value and does not open too many arrays and
objects at once. -/
theorem Value.parse_eq_ok {text : String} {value : Value} :
    Value.parse text = .ok value ↔
      ∃ spelling, Spells text spelling ∧ spelling.Means nestingLimit value := by
  rw [Value.parse, readWhole_eq_ok]
  constructor
  · rintro ⟨after, taken⟩
    obtain ⟨before, spelling, whole, means⟩ := findsSpelling_readValue _ _ _ _ _ taken
    exact ⟨spelling, ⟨before, after, whole⟩, means⟩
  · rintro ⟨spelling, spells, spelled, shallow⟩
    have fits := Nat.le_succ_of_le spells.length_le
    obtain ⟨before, after, whole⟩ := spells
    refine ⟨after, ?_⟩
    have ends : EndsNumber after.chars := by
      simpa using after.endsNumber .nil
    rw [whole, readValue_gap, ← whole]
    exact spelling.takes spelled shallow fits after.chars ends

end BattleAdvisor.Json
