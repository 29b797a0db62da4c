import BattleAdvisor.Proofs.Json.Record
import BattleAdvisor.Proofs.Json.Canonical

/-!
# Contents that the grammar allows

The reader of a content takes a spelling as a content exactly if it spells what is written for the
content, and it stops where the spelling ends (`Exact`). This holds of texts, of counts, and of
both where they are optional.
-/

namespace BattleAdvisor.Json

open Spelling

/-! ## Strings have one spelling -/

/-- What a piece is can be seen from the text. -/
theorem Piece.unique {piece other : Piece} {rest rest' : List Char}
    (h : piece.chars ++ rest = other.chars ++ rest') : piece = other ∧ rest = rest' := by
  have noHex {letter c : Char} (stands : unescape? letter = some c) : letter ≠ 'u' := by
    rintro rfl
    cases stands
  cases piece with
  | plain c allowed =>
    cases other with
    | plain d allowed' =>
      obtain ⟨rfl, rfl⟩ := List.cons.inj h
      exact ⟨rfl, rfl⟩
    | escape | code => exact absurd (List.cons.inj h).1 allowed.2.1
  | escape letter c stands =>
    cases other with
    | plain d allowed' => exact absurd (List.cons.inj h).1.symm allowed'.2.1
    | escape letter' d stands' =>
      obtain ⟨rfl, rfl⟩ := List.cons.inj (List.cons.inj h).2
      cases stands.symm.trans stands'
      exact ⟨rfl, rfl⟩
    | code => exact absurd (List.cons.inj (List.cons.inj h).2).1 (noHex stands)
  | code a b c d n stands =>
    cases other with
    | plain e allowed' => exact absurd (List.cons.inj h).1.symm allowed'.2.1
    | escape letter e stands' =>
      exact absurd (List.cons.inj (List.cons.inj h).2).1.symm (noHex stands')
    | code a' b' c' d' n' stands' =>
      simp only [chars, List.cons_append, List.nil_append, List.cons.injEq, true_and] at h
      obtain ⟨rfl, rfl, rfl, rfl, rfl⟩ := h
      cases stands.symm.trans stands'
      exact ⟨rfl, rfl⟩

theorem Piece.chars_ne_quote (piece : Piece) {rest rest' : List Char} :
    piece.chars ++ rest ≠ '"' :: rest' := by
  cases piece with
  | plain c allowed =>
    intro h
    exact allowed.1 (List.cons.inj h).1
  | escape | code =>
    intro h
    exact absurd (List.cons.inj h).1 (by decide)

theorem Piece.all_unique {pieces others : List Piece} {rest rest' : List Char}
    (h : pieces.flatMap Piece.chars ++ '"' :: rest = others.flatMap Piece.chars ++ '"' :: rest') :
    pieces = others ∧ rest = rest' := by
  induction pieces generalizing others with
  | nil =>
    cases others with
    | nil => exact ⟨rfl, (List.cons.inj h).2⟩
    | cons other others =>
      rw [List.flatMap_cons, List.append_assoc] at h
      exact absurd h.symm other.chars_ne_quote
  | cons piece pieces ih =>
    cases others with
    | nil =>
      rw [List.flatMap_cons, List.append_assoc] at h
      exact absurd h piece.chars_ne_quote
    | cons other others =>
      rw [List.flatMap_cons, List.flatMap_cons, List.append_assoc, List.append_assoc] at h
      obtain ⟨rfl, later⟩ := Piece.unique h
      obtain ⟨rfl, rfl⟩ := ih later
      exact ⟨rfl, rfl⟩

/-- The reader of strings takes pieces as what they spell, and refuses those that spell nothing. -/
theorem readString_eq_ok {pieces : List Piece} {rest rest' : List Char} {s : String} :
    readString (pieces.flatMap Piece.chars ++ '"' :: rest) = .ok (s, rest') ↔
      Piece.text? pieces = some s ∧ rest' = rest := by
  constructor
  · intro h
    obtain ⟨others, whole, spelled⟩ := exists_pieces_of_readString h
    obtain ⟨rfl, rfl⟩ := Piece.all_unique whole
    exact ⟨spelled, rfl⟩
  · rintro ⟨spelled, rfl⟩
    exact readString_pieces spelled _

/-! ## Contents -/

/-- The reader takes a spelling as a content exactly if it spells what is written for the content,
and it stops where the spelling ends. -/
def Exact {β : Type} (reader : Reader β) (write : β → Value) : Prop :=
  ∀ (spelling : Spelling) (rest : List Char), EndsNumber rest → ∀ b rest',
    reader (spelling.chars ++ rest) = .ok (b, rest') ↔
      spelling.value? = some (write b) ∧ rest' = rest

/-- What a reader makes of a text does not depend on a gap in front of it. -/
def Gapless {β : Type} (reader : Reader β) : Prop :=
  ∀ (gap : Gap) text, reader (gap.chars ++ text) = reader text

theorem failMistyped_ne_ok {β : Type} {wanted : String} {text rest : List Char} {b : β} :
    failMistyped wanted text ≠ .ok (b, rest) := by
  intro h
  rw [failMistyped.eq_def] at h
  split at h
  · simp at h
  · simp only at h
    split at h
    · cases h
    · simp at h

/-- What kind of value is spelled can be seen from the first character. -/
theorem Spelling.first (spelling : Spelling) :
    ∃ c tail, spelling.chars = c :: tail ∧ isGap c = false ∧ (spelling ≠ .null → c ≠ 'n') ∧
      ((∀ pieces, spelling ≠ .string pieces) → c ≠ '"') ∧
      ((∀ n, spelling ≠ .number n) → c ≠ '-' ∧ c.isDigit = false) := by
  match spelling with
  | .null => exact ⟨'n', _, rfl, rfl, fun h => absurd rfl h, fun _ => by decide, fun _ => by decide⟩
  | .bool true =>
    exact ⟨'t', _, rfl, rfl, fun _ => by decide, fun _ => by decide, fun _ => by decide⟩
  | .bool false =>
    exact ⟨'f', _, rfl, rfl, fun _ => by decide, fun _ => by decide, fun _ => by decide⟩
  | .number n =>
    obtain ⟨d, digits, whole, digit⟩ := n.exists_digit
    rw [chars, Numeral.chars]
    split
    · exact ⟨'-', _, rfl, rfl, fun _ => by decide, fun _ => by decide, fun h => absurd rfl (h n)⟩
    · exact ⟨d, digits, whole, isGap_of_isDigit digit, fun _ => ne_of_isDigit digit rfl,
        fun _ => ne_of_isDigit digit rfl, fun h => absurd rfl (h n)⟩
  | .string pieces =>
    exact ⟨'"', _, rfl, rfl, fun _ => by decide, fun h => absurd rfl (h pieces), fun _ => by decide⟩
  | .array _ [] | .array _ (_ :: _) =>
    exact ⟨'[', _, rfl, rfl, fun _ => by decide, fun _ => by decide, fun _ => by decide⟩
  | .object _ [] | .object _ (_ :: _) =>
    exact ⟨'\x7b', _, rfl, rfl, fun _ => by decide, fun _ => by decide, fun _ => by decide⟩

theorem gapless_readText : Gapless readText := by
  intro gap text
  rw [readText, readText, skipGap_gap]

theorem gapless_readOptional {β : Type} (content : Reader β) :
    Gapless (readOptional content) := by
  intro gap text
  rw [readOptional, readOptional, skipGap_gap]

theorem Spelling.eq_null_of_value? {spelling : Spelling} (h : spelling.value? = some .null) :
    spelling = .null := by
  cases spelling with
  | null => rfl
  | bool => cases h
  | number | string | array | object =>
    obtain ⟨_, _, other⟩ := Option.map_eq_some_iff.mp h
    cases other

theorem Spelling.eq_string_of_value? {spelling : Spelling} {s : String}
    (h : spelling.value? = some (.string s)) : ∃ pieces, spelling = .string pieces := by
  cases spelling with
  | string pieces => exact ⟨pieces, rfl⟩
  | null | bool => cases h
  | number | array | object =>
    obtain ⟨_, _, other⟩ := Option.map_eq_some_iff.mp h
    cases other

theorem Spelling.eq_number_of_value? {spelling : Spelling} {x : Number}
    (h : spelling.value? = some (.number x)) :
    ∃ n : Numeral, spelling = .number n ∧ n.value? = some x := by
  cases spelling with
  | number n =>
    obtain ⟨y, number, same⟩ := Option.map_eq_some_iff.mp h
    cases same
    exact ⟨n, rfl, number⟩
  | null | bool => cases h
  | string | array | object =>
    obtain ⟨_, _, other⟩ := Option.map_eq_some_iff.mp h
    cases other

/-- A string is read from its spellings. -/
theorem exact_readText : Exact readText .string := by
  intro spelling rest ends s rest'
  by_cases string : ∃ pieces, spelling = .string pieces
  · obtain ⟨pieces, rfl⟩ := string
    have read : readText ((Spelling.string pieces).chars ++ rest) =
        readString (pieces.flatMap Piece.chars ++ '"' :: rest) := by
      simp [chars, Piece.quoted, readText, skipGap_cons (show isGap '"' = false from rfl)]
    rw [read, readString_eq_ok, value?, Option.map_eq_some_iff]
    simp
  · obtain ⟨c, tail, start, gap, -, quote, -⟩ := spelling.first
    have quote := quote (not_exists.mp string)
    refine iff_of_false ?_ fun h => string (eq_string_of_value? h.1)
    rw [start, List.cons_append, readText, skipGap_cons gap]
    split
    next same => exact absurd (List.cons.inj same).1 quote
    next => exact failMistyped_ne_ok

/-- What is read as a count is what the number behind the sign is taken for. -/
theorem readCount_numeral (n : Numeral) {rest : List Char}
    {result : Except Failure (Number × List Char)}
    (h : readNumber (!n.negative) (n.unsigned ++ rest) = result) :
    readCount (n.chars ++ rest) = result.bind fun taken => asCount taken.1 taken.2 := by
  obtain ⟨d, digits, whole, digit⟩ := n.exists_digit
  have unsigned : d ≠ '-' := ne_of_isDigit digit rfl
  cases negative : n.negative with
  | true =>
    rw [negative, Bool.not_true] at h
    cases result <;>
      simp [Numeral.chars, negative, readCount, skipGap_cons (show isGap '-' = false from rfl), h,
        Except.bind]
  | false =>
    rw [negative, Bool.not_false, whole, List.cons_append] at h
    cases result <;>
      simp [Numeral.chars, negative, whole, readCount, skipGap_cons (isGap_of_isDigit digit),
        digit, unsigned, h, Except.bind]

/-- A count is read from the spellings of the number. -/
theorem exact_readCount : Exact readCount writeCount := by
  intro spelling rest ends count rest'
  by_cases number : ∃ n, spelling = .number n
  · obtain ⟨n, rfl⟩ := number
    have taken := n.yields (Numeral.stops_of_ends ends n.fraction? n.exponent?)
    rw [chars, value?]
    cases value : n.value? with
    | none =>
      rw [value] at taken
      obtain ⟨failure, failed⟩ := taken
      simp [readCount_numeral n failed, Except.bind]
    | some x =>
      rw [value] at taken
      rw [readCount_numeral n (show readNumber (!n.negative) (n.unsigned ++ rest) = _ from taken),
        Except.bind]
      cases x with
      | float x => simp [asCount, writeCount]
      | integer i =>
        by_cases negative : i < 0
        · have : i ≠ count := by omega
          simp [asCount, negative, writeCount, this]
        · have same : i.toNat = count ↔ i = count := by omega
          simp only [asCount, if_neg negative, Except.ok.injEq, Prod.mk.injEq, writeCount,
            Option.map_some, Option.some.injEq, Value.number.injEq, Number.integer.injEq, same,
            eq_comm (a := rest)]
  · obtain ⟨c, tail, start, gap, -, -, unsigned⟩ := spelling.first
    obtain ⟨minus, digit⟩ := unsigned (not_exists.mp number)
    refine iff_of_false ?_ fun h => ?_
    · rw [start, List.cons_append, readCount, skipGap_cons gap]
      simp only [minus, digit, Bool.false_eq_true, or_self, if_false]
      exact failMistyped_ne_ok
    · obtain ⟨n, same, -⟩ := eq_number_of_value? h.1
      exact number ⟨n, same⟩

/-- An optional content is read from `null` and from the spellings of the content. -/
theorem Exact.optional {β : Type} {content : Reader β} {write : β → Value}
    (exact : Exact content write) (notNull : ∀ b, write b ≠ .null) :
    Exact (readOptional content) (writeOptional write) := by
  intro spelling rest ends b? rest'
  by_cases null : spelling = .null
  · subst null
    have word := readWord_append ['u', 'l', 'l'] rest
    simp only [List.cons_append, List.nil_append] at word
    have read : readOptional content (Spelling.null.chars ++ rest) = .ok (none, rest) := by
      simp [chars, readOptional, skipGap_cons (show isGap 'n' = false from rfl), Reader.map, word]
    rw [read, value?]
    cases b? with
    | none => simp [writeOptional, eq_comm]
    | some b => simp [writeOptional, (notNull b).symm]
  · obtain ⟨c, tail, start, gap, letter, -⟩ := spelling.first
    have letter := letter null
    have read : readOptional content (spelling.chars ++ rest) =
        content.map some (spelling.chars ++ rest) := by
      rw [start, List.cons_append, readOptional, skipGap_cons gap]
      split
      next same => exact absurd (List.cons.inj same).1 letter
      next => rfl
    rw [read]
    constructor
    · intro h
      obtain ⟨b, taken, rfl⟩ := Reader.map_eq_ok h
      exact (exact spelling rest ends b rest').mp taken
    · rintro ⟨spelled, rfl⟩
      cases b? with
      | none => exact absurd (eq_null_of_value? spelled) null
      | some b => rw [Reader.map, (exact spelling rest' ends b rest').mpr ⟨spelled, rfl⟩]

end BattleAdvisor.Json
