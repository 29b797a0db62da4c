import BattleAdvisor.Json.Reader
import BattleAdvisor.Json.Writer
import BattleAdvisor.Proofs.Json.Token
import Mathlib.Data.List.Forall2

/-!
# Written values can be read

`Reads reader value b` says that a reader takes the text of a value as `b`. Arrays and objects are
read if their parts are: `reads_items` and `reads_members` hold for the readers of values and of
records alike.

**Theorem (`Value.parse_write`).** The text of a value that is not nested too deeply is read as the
value itself, up to its floating-point numbers.
-/

namespace BattleAdvisor.Json

/-! ## Where values begin -/

theorem skipGap_cons {c : Char} {rest : List Char} (h : isGap c = false) :
    skipGap (c :: rest) = c :: rest := by
  simp [skipGap, h]

/-- What a text begins with, so that it is neither a gap nor the end of an array. -/
def Begins (text : List Char) : Prop :=
  ∃ c rest, text = c :: rest ∧ isGap c = false ∧ c ≠ ']'

theorem Begins.append {text : List Char} (h : Begins text) (rest : List Char) :
    Begins (text ++ rest) := by
  obtain ⟨c, text, rfl, h⟩ := h
  exact ⟨c, text ++ rest, rfl, h⟩

theorem begins_of_isDigit {c : Char} (h : c.isDigit = true) (rest : List Char) :
    Begins (c :: rest) := by
  refine ⟨c, rest, rfl, ?_, ?_⟩
  · simp only [isGap, Bool.or_eq_false_iff, decide_eq_false_iff_not]
    refine ⟨⟨⟨?_, ?_⟩, ?_⟩, ?_⟩ <;> (rintro rfl; exact absurd h (by decide))
  · rintro rfl
    exact absurd h (by decide)

theorem begins_toDigits (n : Nat) : Begins (Nat.toDigits 10 n) := by
  obtain ⟨c, digits, text⟩ := List.exists_cons_of_ne_nil (@Nat.toDigits_ne_nil n 10)
  rw [text]
  exact begins_of_isDigit
    (Nat.isDigit_of_mem_toDigits (by decide) (by decide) (text ▸ List.mem_cons_self)) digits

theorem begins_minus (rest : List Char) : Begins ('-' :: rest) :=
  ⟨'-', rest, rfl, rfl, by decide⟩

theorem begins_integerText (n : Int) : Begins (integerText n) := by
  unfold integerText
  split
  · exact begins_minus _
  · exact begins_toDigits n.natAbs

theorem begins_decimalText (d : Decimal) : Begins (decimalText d) := by
  obtain ⟨c, digits, text, h⟩ := begins_toDigits d.digits
  unfold decimalText
  simp only [text]
  split
  · unfold plainText
    simp only
    split
    · exact ⟨c, _, rfl, h⟩
    · split
      next positive =>
        obtain ⟨n, same⟩ : ∃ n, (((c :: digits).length : Int) + d.exponent).toNat = n + 1 :=
          ⟨(((c :: digits).length : Int) + d.exponent).toNat - 1, by omega⟩
        rw [same]
        exact ⟨c, _, rfl, h⟩
      next => exact begins_of_isDigit (by decide) _
  · exact ⟨c, _, rfl, h⟩

theorem begins_floatText (x : Float) : Begins (floatText x) := by
  unfold floatText
  simp only
  split
  · exact ⟨'n', _, rfl, rfl, by decide⟩
  · split
    · split
      · exact begins_of_isDigit (by decide) _
      · exact begins_minus _
    · split
      · rw [List.nil_append]
        exact begins_decimalText _
      · exact begins_minus _

theorem begins_chars (value : Value) : Begins value.chars := by
  match value with
  | .null => exact ⟨'n', _, rfl, rfl, by decide⟩
  | .bool true => exact ⟨'t', _, rfl, rfl, by decide⟩
  | .bool false => exact ⟨'f', _, rfl, rfl, by decide⟩
  | .number (.integer n) => simpa [Value.chars, Number.chars] using begins_integerText n
  | .number (.float x) => simpa [Value.chars, Number.chars] using begins_floatText x
  | .string s => exact ⟨'"', _, rfl, rfl, by decide⟩
  | .array [] | .array (_ :: _) => exact ⟨'[', _, rfl, rfl, by decide⟩
  | .object [] | .object (_ :: _) => exact ⟨'\x7b', _, rfl, rfl, by decide⟩

/-! ## Arrays -/

/-- In front of what cannot go on with a number, the reader takes the text of a value as this. -/
def Reads {β : Type} (reader : Reader β) (value : Value) (b : β) : Prop :=
  ∀ rest, EndsNumber rest → reader (value.chars ++ rest) = .ok (b, rest)

theorem endsNumber_cons {c : Char} {rest : List Char}
    (h : c.isDigit = false ∧ c ≠ '.' ∧ c ≠ 'e' ∧ c ≠ 'E') : EndsNumber (c :: rest) := by
  rintro d ⟨⟩
  exact h

theorem endsNumber_itemsText (values : List Value) (rest : List Char) :
    EndsNumber (Value.itemsText values ++ rest) := by
  cases values <;> exact endsNumber_cons (by decide)

theorem endsNumber_membersText (members : List (String × Value)) (rest : List Char) :
    EndsNumber (Value.membersText members ++ rest) := by
  rcases members with - | ⟨⟨key, value⟩, members⟩ <;> exact endsNumber_cons (by decide)

theorem readItemsFrom_itemsText {β : Type} {item : Reader β} {values : List Value} {bs : List β}
    (reads : List.Forall₂ (Reads item) values bs) {bound : Nat} (fits : values.length < bound)
    (done : List β) (rest : List Char) :
    readItemsFrom item bound done (Value.itemsText values ++ rest) =
      .ok (done.reverse ++ bs, rest) := by
  induction reads generalizing bound done with
  | nil =>
    obtain ⟨bound, rfl⟩ : ∃ n, bound = n + 1 := ⟨bound - 1, by simp at fits; omega⟩
    simp [Value.itemsText, readItemsFrom, skipGap_cons (show isGap ']' = false from rfl)]
  | @cons value b values bs first others ih =>
    obtain ⟨bound, rfl⟩ : ∃ n, bound = n + 1 := ⟨bound - 1, by simp at fits; omega⟩
    obtain ⟨c, text, start, gap, close⟩ :=
      (begins_chars value).append (Value.itemsText values ++ rest)
    have taken := first _ (endsNumber_itemsText values rest)
    rw [start] at taken
    simp only [Value.itemsText, List.cons_append, List.append_assoc, readItemsFrom, start,
      skipGap_cons (show isGap ',' = false from rfl), skipGap_cons gap, close, taken]
    rw [if_neg (by decide), if_pos trivial, ih (by simpa using fits)]
    simp

/-- An array is read if each of its items is. -/
theorem reads_items {β : Type} {item : Reader β} {values : List Value} {bs : List β}
    (reads : List.Forall₂ (Reads item) values bs) {bound : Nat} (fits : values.length ≤ bound)
    (rest : List Char) :
    ∃ text, (Value.array values).chars = '[' :: text ∧
      readItems bound item (text ++ rest) = .ok (bs, rest) := by
  cases reads with
  | nil =>
    refine ⟨[']'], rfl, ?_⟩
    simp [readItems, skipGap_cons (show isGap ']' = false from rfl)]
  | @cons value b values bs first others =>
    refine ⟨value.chars ++ Value.itemsText values, rfl, ?_⟩
    obtain ⟨c, text, start, gap, close⟩ :=
      (begins_chars value).append (Value.itemsText values ++ rest)
    have taken := first _ (endsNumber_itemsText values rest)
    rw [start] at taken
    rw [List.append_assoc, start]
    simp only [readItems, skipGap_cons gap, if_neg close, taken]
    rw [readItemsFrom_itemsText others fits]
    rfl

/-! ## Objects -/

/-- From a state, reading members one after another ends in another state. -/
inductive ReadsMembers {σ : Type} (member : σ → String → Reader σ) :
    σ → List (String × Value) → σ → Prop
  | nil (state : σ) : ReadsMembers member state [] state
  | cons {state next last : σ} {key : String} {value : Value} {members : List (String × Value)}
      (first : ∀ rest, EndsNumber rest →
        member state key (':' :: (value.chars ++ rest)) = .ok (next, rest))
      (others : ReadsMembers member next members last) :
      ReadsMembers member state ((key, value) :: members) last

/-- A member is read behind the quote of its key. -/
theorem readMember_stringText {σ : Type} {member : σ → String → Reader σ} {state : σ}
    {key : String} {rest : List Char} :
    readMember member state (key.toList.flatMap escapedChar ++ '"' :: rest) =
      member state key rest := by
  simp only [readMember, readString_stringText]

theorem readMembersFrom_membersText {σ : Type} {member : σ → String → Reader σ} {state last : σ}
    {members : List (String × Value)} (reads : ReadsMembers member state members last)
    {bound : Nat} (fits : members.length < bound) (rest : List Char) :
    readMembersFrom member bound state (Value.membersText members ++ rest) = .ok (last, rest) := by
  induction reads generalizing bound with
  | nil =>
    obtain ⟨bound, rfl⟩ : ∃ n, bound = n + 1 := ⟨bound - 1, by simp at fits; omega⟩
    simp [Value.membersText, readMembersFrom, skipGap_cons (show isGap '\x7d' = false from rfl)]
  | @cons state next last key value members first others ih =>
    obtain ⟨bound, rfl⟩ : ∃ n, bound = n + 1 := ⟨bound - 1, by simp at fits; omega⟩
    have taken := first _ (endsNumber_membersText members rest)
    simp only [Value.membersText, stringText, List.cons_append, List.append_assoc,
      List.nil_append, readMembersFrom, skipGap_cons (show isGap ',' = false from rfl),
      skipGap_cons (show isGap '"' = false from rfl), readMember_stringText, taken]
    rw [if_neg (by decide), if_pos trivial, if_pos trivial, ih (by simpa using fits)]

/-- An object is read if each of its members is. -/
theorem reads_members {σ : Type} {member : σ → String → Reader σ} {state last : σ}
    {members : List (String × Value)} (reads : ReadsMembers member state members last)
    {bound : Nat} (fits : members.length ≤ bound) (rest : List Char) :
    ∃ text, (Value.object members).chars = '\x7b' :: text ∧
      readMembers bound member state (text ++ rest) = .ok (last, rest) := by
  cases reads with
  | nil =>
    refine ⟨['\x7d'], rfl, ?_⟩
    simp [readMembers, skipGap_cons (show isGap '\x7d' = false from rfl)]
  | @cons _ _ _ key value members first others =>
    refine ⟨stringText key ++ ':' :: value.chars ++ Value.membersText members, rfl, ?_⟩
    have taken := first _ (endsNumber_membersText members rest)
    simp only [stringText, List.cons_append, List.append_assoc, List.nil_append, readMembers,
      skipGap_cons (show isGap '"' = false from rfl), readMember_stringText, taken]
    rw [if_neg (by decide), if_pos trivial,
      readMembersFrom_membersText others fits]

/-! ## Lengths -/

theorem length_itemsText_le (items : List Value) :
    (Value.itemsText items).length ≤ (Value.array items).chars.length := by
  cases items <;> simp [Value.itemsText, Value.chars]

theorem length_membersText_le (members : List (String × Value)) :
    (Value.membersText members).length ≤ (Value.object members).chars.length := by
  rcases members with - | ⟨⟨key, value⟩, members⟩ <;> simp [Value.membersText, Value.chars]

theorem length_le_itemsText (items : List Value) :
    items.length ≤ (Value.itemsText items).length := by
  induction items with
  | nil => simp
  | cons item items ih => simp [Value.itemsText]; omega

theorem length_le_membersText (members : List (String × Value)) :
    members.length ≤ (Value.membersText members).length := by
  induction members with
  | nil => simp
  | cons member members ih => simp [Value.membersText]; omega

theorem length_item_le {item : Value} {items : List Value} (h : item ∈ items) :
    item.chars.length ≤ (Value.itemsText items).length := by
  induction items with
  | nil => simp at h
  | cons first items ih =>
    rcases List.mem_cons.mp h with rfl | h
    · simp [Value.itemsText]; omega
    · have := ih h
      simp [Value.itemsText]; omega

theorem length_member_le {member : String × Value} {members : List (String × Value)}
    (h : member ∈ members) : member.2.chars.length ≤ (Value.membersText members).length := by
  induction members with
  | nil => simp at h
  | cons first members ih =>
    rcases List.mem_cons.mp h with rfl | h
    · simp [Value.membersText]; omega
    · have := ih h
      simp [Value.membersText]; omega

/-- What bounds the text of an array bounds its length and the texts of its items. -/
theorem fits_items {items : List Value} {bound : Nat}
    (fits : (Value.array items).chars.length ≤ bound) :
    items.length ≤ bound ∧ ∀ item ∈ items, item.chars.length ≤ bound := by
  have whole := (length_itemsText_le items).trans fits
  exact ⟨(length_le_itemsText items).trans whole, fun item h => (length_item_le h).trans whole⟩

/-- What bounds the text of an object bounds its length and the texts of its members. -/
theorem fits_members {members : List (String × Value)} {bound : Nat}
    (fits : (Value.object members).chars.length ≤ bound) :
    members.length ≤ bound ∧ ∀ member ∈ members, member.2.chars.length ≤ bound := by
  have whole := (length_membersText_le members).trans fits
  exact ⟨(length_le_membersText members).trans whole,
    fun member h => (length_member_le h).trans whole⟩

/-! ## Values -/

mutual

/-- The value with all floating-point numbers made the same. -/
def Value.withoutFloats : Value → Value
  | .number (.float _) => .number (.float 0)
  | .array items => .array (Value.itemsWithoutFloats items)
  | .object members => .object (Value.membersWithoutFloats members)
  | value => value

/-- The items with all floating-point numbers made the same. -/
def Value.itemsWithoutFloats : List Value → List Value
  | [] => []
  | item :: rest => item.withoutFloats :: Value.itemsWithoutFloats rest

/-- The members with all floating-point numbers made the same. -/
def Value.membersWithoutFloats : List (String × Value) → List (String × Value)
  | [] => []
  | (key, value) :: rest => (key, value.withoutFloats) :: Value.membersWithoutFloats rest

end

theorem Value.itemsWithoutFloats_eq_map (items : List Value) :
    Value.itemsWithoutFloats items = items.map Value.withoutFloats := by
  induction items with
  | nil => rfl
  | cons item rest ih => rw [Value.itemsWithoutFloats, ih, List.map_cons]

theorem Value.membersWithoutFloats_eq_map (members : List (String × Value)) :
    Value.membersWithoutFloats members = members.map fun m => (m.1, m.2.withoutFloats) := by
  induction members with
  | nil => rfl
  | cons member rest ih => rw [Value.membersWithoutFloats, ih, List.map_cons]

/-- The text of a floating-point number is read as one, if not as the same. -/
def ReadsAsFloat (x : Float) : Prop :=
  ∃ y, ∀ bound inner, Reads (readValueAround bound inner) (.number (.float x)) (.number (.float y))

/-- A value as it can be read again: its whole numbers fit words, the keys of its objects ascend,
and it opens at most `depth` arrays and objects at once. -/
inductive Value.Readable : (depth : Nat) → Value → Prop
  | null (depth : Nat) : Readable depth .null
  | bool (depth : Nat) (b : Bool) : Readable depth (.bool b)
  | integer (depth : Nat) {n : Int} (least : -2 ^ 63 ≤ n) (greatest : n < 2 ^ 64) :
      Readable depth (.number (.integer n))
  | float (depth : Nat) {x : Float} (reads : ReadsAsFloat x) :
      Readable depth (.number (.float x))
  | string (depth : Nat) (s : String) : Readable depth (.string s)
  | array {depth : Nat} {items : List Value} (readable : ∀ item ∈ items, Readable depth item) :
      Readable (depth + 1) (.array items)
  | object {depth : Nat} {members : List (String × Value)}
      (ascending : members.Pairwise fun first second => first.1 < second.1)
      (readable : ∀ member ∈ members, Readable depth member.2) :
      Readable (depth + 1) (.object members)

theorem readWord_append (word rest : List Char) :
    readWord word (word ++ rest) = .ok ((), rest) := by
  induction word with
  | nil => rfl
  | cons c word ih => simpa [readWord] using ih

theorem reads_null (bound : Nat) (inner : Option (Reader Value)) :
    Reads (readValueAround bound inner) .null .null := by
  intro rest _
  have := readWord_append ['u', 'l', 'l'] rest
  simp only [List.cons_append, List.nil_append] at this
  simp [Value.chars, readValueAround, skipGap_cons (show isGap 'n' = false from rfl), Reader.map,
    this]

theorem reads_bool (bound : Nat) (inner : Option (Reader Value)) (b : Bool) :
    Reads (readValueAround bound inner) (.bool b) (.bool b) := by
  intro rest _
  cases b with
  | true =>
    have := readWord_append ['r', 'u', 'e'] rest
    simp only [List.cons_append, List.nil_append] at this
    simp [Value.chars, readValueAround, skipGap_cons (show isGap 't' = false from rfl), Reader.map,
      this]
  | false =>
    have := readWord_append ['a', 'l', 's', 'e'] rest
    simp only [List.cons_append, List.nil_append] at this
    simp [Value.chars, readValueAround, skipGap_cons (show isGap 'f' = false from rfl), Reader.map,
      this]

theorem reads_string (bound : Nat) (inner : Option (Reader Value)) (s : String) :
    Reads (readValueAround bound inner) (.string s) (.string s) := by
  intro rest _
  simp [Value.chars, stringText, readValueAround, skipGap_cons (show isGap '"' = false from rfl),
    Reader.map, readString_stringText]

/-- A digit begins a number and no other value. -/
theorem readValueAround_digit {bound : Nat} {inner : Option (Reader Value)} {c : Char}
    (h : c.isDigit = true) (rest : List Char) :
    readValueAround bound inner (c :: rest) = (readNumber true).map .number (c :: rest) := by
  have others : c ≠ 'n' ∧ c ≠ 't' ∧ c ≠ 'f' ∧ c ≠ '-' := by
    refine ⟨?_, ?_, ?_, ?_⟩ <;> (rintro rfl; exact absurd h (by decide))
  have gap : isGap c = false := by
    obtain ⟨_, _, same, gap, -⟩ := begins_of_isDigit h rest
    exact (List.cons.inj same).1 ▸ gap
  simp [readValueAround, skipGap_cons gap, others, h]

theorem readValueAround_minus {bound : Nat} {inner : Option (Reader Value)} (rest : List Char) :
    readValueAround bound inner ('-' :: rest) = (readNumber false).map .number rest := by
  simp [readValueAround, skipGap_cons (show isGap '-' = false from rfl)]

theorem reads_integer (bound : Nat) (inner : Option (Reader Value)) {n : Int}
    (least : -2 ^ 63 ≤ n) (greatest : n < 2 ^ 64) :
    Reads (readValueAround bound inner) (.number (.integer n)) (.number (.integer n)) := by
  intro rest ends
  have fits : n.natAbs < wordLimit := by
    unfold wordLimit
    omega
  simp only [Value.chars, Number.chars, integerText]
  split
  next negative =>
    have whole : wholeNumber false n.natAbs = .integer n := by
      rw [wholeNumber, if_neg (by decide), if_pos (by omega)]
      congr 1
      omega
    rw [List.singleton_append, List.cons_append, readValueAround_minus, Reader.map,
      readNumber_toDigits fits ends, whole]
  next positive =>
    have whole : wholeNumber true n.natAbs = .integer n := by
      rw [wholeNumber, if_pos rfl]
      congr 1
      omega
    have taken := readNumber_toDigits fits ends true
    obtain ⟨c, digits, text⟩ := List.exists_cons_of_ne_nil (@Nat.toDigits_ne_nil n.natAbs 10)
    have digit : c.isDigit = true :=
      Nat.isDigit_of_mem_toDigits (by decide) (by decide) (text ▸ List.mem_cons_self)
    rw [text, List.cons_append] at taken
    rw [List.nil_append, text, List.cons_append, readValueAround_digit digit, Reader.map, taken,
      whole]

theorem exists_forall₂ {α β : Type} {R : α → β → Prop} {as : List α}
    (h : ∀ a ∈ as, ∃ b, R a b) : ∃ bs, List.Forall₂ R as bs := by
  induction as with
  | nil => exact ⟨[], .nil⟩
  | cons a as ih =>
    obtain ⟨b, first⟩ := h a List.mem_cons_self
    obtain ⟨bs, others⟩ := ih fun a h' => h a (List.mem_cons_of_mem _ h')
    exact ⟨b :: bs, .cons first others⟩

/-- A member with the greatest key goes to the end. -/
theorem put_of_greatest {key : String} {value : Value} {members : Members}
    (greatest : ∀ member ∈ members, member.1 < key) :
    members.put key value = members ++ [(key, value)] := by
  induction members with
  | nil => rfl
  | cons member members ih =>
    have first := greatest member List.mem_cons_self
    obtain ⟨k, v⟩ := member
    have other : key ≠ k := by
      rintro rfl
      exact String.lt_irrefl _ first
    rw [Members.put, if_neg (String.lt_asymm first), if_neg other,
      ih fun member h => greatest member (List.mem_cons_of_mem _ h), List.cons_append]

/-- Members with ascending keys are read one behind the other. -/
theorem readsMembers_of_ascending {reader : Reader Value} (done : Members)
    {members others : Members}
    (ascending : (done ++ members).Pairwise fun first second => first.1 < second.1)
    (reads : List.Forall₂ (fun member other => other.1 = member.1 ∧ Reads reader member.2 other.2)
      members others) :
    ReadsMembers (readValueOf reader) done members (done ++ others) := by
  induction reads generalizing done with
  | nil =>
    rw [List.append_nil]
    exact .nil done
  | @cons member other members others first _ ih =>
    obtain ⟨key, value⟩ := member
    obtain ⟨otherKey, new⟩ := other
    obtain ⟨same, taken⟩ := first
    obtain rfl : key = otherKey := same.symm
    have greatest : ∀ member ∈ done, member.1 < key := fun member h =>
      (List.pairwise_append.mp ascending).2.2 member h (key, value) List.mem_cons_self
    have next : ((done ++ [(key, new)]) ++ members).Pairwise fun first second =>
        first.1 < second.1 := by
      rw [← List.pairwise_map (f := Prod.fst)] at ascending ⊢
      simpa using ascending
    have others := ih (done ++ [(key, new)]) next
    rw [List.append_assoc] at others
    refine .cons (fun rest ends => ?_) others
    simp only [readValueOf, readColon, skipGap_cons (show isGap ':' = false from rfl),
      if_pos, taken rest ends, put_of_greatest greatest]

theorem readValueAround_bracket {bound : Nat} {value : Reader Value} (rest : List Char) :
    readValueAround bound (some value) ('[' :: rest) = (readItems bound value).map .array rest := by
  simp [readValueAround, skipGap_cons (show isGap '[' = false from rfl)]

theorem readValueAround_brace {bound : Nat} {value : Reader Value} (rest : List Char) :
    readValueAround bound (some value) ('\x7b' :: rest) =
      (readMembers bound (readValueOf value) []).map .object rest := by
  simp [readValueAround, skipGap_cons (show isGap '\x7b' = false from rfl)]

theorem Reads.of_around {bound : Nat} {value other : Value}
    (h : ∀ inner, Reads (readValueAround bound inner) value other) (depth : Nat) :
    Reads (readValue bound depth) value other := by
  cases depth with
  | zero => exact h none
  | succ depth => exact h (some (readValue bound depth))

theorem map_eq_map_of_forall₂ {α β γ : Type} {f : α → γ} {g : β → γ} {as : List α} {bs : List β}
    (h : List.Forall₂ (fun a b => g b = f a) as bs) : bs.map g = as.map f := by
  induction h with
  | nil => rfl
  | cons first _ ih => rw [List.map_cons, List.map_cons, first, ih]

/-- The text of a readable value is read as the value, up to its floating-point numbers. -/
theorem Value.Readable.reads {depth : Nat} {value : Value} (h : value.Readable depth) (bound : Nat)
    (fits : value.chars.length ≤ bound) :
    ∃ other, Reads (readValue bound depth) value other ∧
      other.withoutFloats = value.withoutFloats := by
  induction h with
  | null depth => exact ⟨_, .of_around (reads_null bound) depth, rfl⟩
  | bool depth b => exact ⟨_, .of_around (fun inner => reads_bool bound inner b) depth, rfl⟩
  | integer depth least greatest =>
    exact ⟨_, .of_around (fun inner => reads_integer bound inner least greatest) depth, rfl⟩
  | float depth reads =>
    obtain ⟨y, reads⟩ := reads
    exact ⟨.number (.float y), .of_around (reads bound) depth, rfl⟩
  | string depth s => exact ⟨_, .of_around (fun inner => reads_string bound inner s) depth, rfl⟩
  | @array depth items readable ih =>
    obtain ⟨short, each⟩ := fits_items fits
    obtain ⟨others, all⟩ := exists_forall₂ fun item h => ih item h (each item h)
    refine ⟨.array others, fun rest _ => ?_, ?_⟩
    · obtain ⟨text, whole, taken⟩ := reads_items (all.imp fun _ _ h => h.1) short rest
      rw [whole, List.cons_append, readValue, readValueAround_bracket, Reader.map, taken]
    · rw [withoutFloats, withoutFloats, itemsWithoutFloats_eq_map, itemsWithoutFloats_eq_map,
        map_eq_map_of_forall₂ (all.imp fun _ _ h => h.2)]
  | @object depth members ascending readable ih =>
    obtain ⟨short, each⟩ := fits_members fits
    have read : ∀ member ∈ members, ∃ other : String × Value, other.1 = member.1 ∧
        Reads (readValue bound depth) member.2 other.2 ∧
        other.2.withoutFloats = member.2.withoutFloats := fun member h => by
      obtain ⟨other, rest⟩ := ih member h (each member h)
      exact ⟨(member.1, other), rfl, rest⟩
    obtain ⟨others, all⟩ := exists_forall₂ read
    refine ⟨.object others, fun rest _ => ?_, ?_⟩
    · have reads := readsMembers_of_ascending [] ascending
        (all.imp fun _ _ h => ⟨h.1, h.2.1⟩)
      obtain ⟨text, whole, taken⟩ := reads_members reads short rest
      rw [whole, List.cons_append, readValue, readValueAround_brace, Reader.map, taken,
        List.nil_append]
    · have same := map_eq_map_of_forall₂
        (f := fun m : String × Value => (m.1, m.2.withoutFloats))
        (g := fun m : String × Value => (m.1, m.2.withoutFloats))
        (all.imp fun _ _ h => by rw [h.1, h.2.2])
      rw [withoutFloats, withoutFloats, membersWithoutFloats_eq_map, membersWithoutFloats_eq_map,
        same]

/-! ## Whole texts -/

/-- A reader that takes the text of a value takes the whole text. -/
theorem readWhole_of_reads {β : Type} (reader : Nat → Reader β) {value : Value} {b : β}
    (reads : Reads (reader (value.chars.length + 1)) value b) :
    readWhole reader value.write = .ok b := by
  have taken := reads [] .nil
  rw [List.append_nil] at taken
  simp only [readWhole, Value.write, String.toList_ofList, taken, skipGap]
  rfl

/-- A value that can be spelled is read from its text, up to its floating-point numbers. -/
theorem Value.parse_write {value : Value} (h : value.Readable nestingLimit) :
    ∃ other, Value.parse value.write = .ok other ∧ other.withoutFloats = value.withoutFloats := by
  obtain ⟨other, reads, same⟩ := h.reads (value.chars.length + 1) (by omega)
  exact ⟨other, readWhole_of_reads (fun bound => readValue bound nestingLimit) reads, same⟩

end BattleAdvisor.Json
