import BattleAdvisor.Json.Skip
import BattleAdvisor.Proofs.Json.SpelledValue

/-!
# Passing over what the grammar allows

**Theorem (`Spelling.skip_chars`).** Every value of the grammar is passed over, up to its end: also
one that cannot be read, because it opens too many arrays and objects, holds half a surrogate pair,
or has a number that is too large.

The machine that passes over a value keeps the open brackets on a stack. `Skips text k` says that it
takes at most `k + 1` steps to get from the front of the text to behind it, whatever is open around
it.
-/

namespace BattleAdvisor.Json

/-! ## Strings -/

theorem skipString_piece (piece : Piece) (rest : List Char) :
    skipString (piece.chars ++ rest) = skipString rest := by
  cases piece with
  | plain c allowed =>
    obtain ⟨quote, backslash, printable⟩ := allowed
    rw [Piece.chars, List.singleton_append, skipString.eq_def (c :: rest)]
    simp only [if_neg quote, if_neg backslash, if_neg (Nat.not_lt.mpr printable)]
  | escape letter c stands =>
    have hex : letter ≠ 'u' := by
      rintro rfl
      cases stands
    rw [Piece.chars, List.cons_append, List.singleton_append,
      skipString.eq_def ('\\' :: letter :: rest)]
    simp [hex, stands]
  | code a b c d n stands =>
    simp only [Piece.chars, List.cons_append, List.nil_append]
    rw [skipString.eq_def ('\\' :: 'u' :: a :: b :: c :: d :: rest)]
    simp [stands]

/-- A string is passed over, also if a surrogate in it has no partner. -/
theorem skipString_pieces (pieces : List Piece) (rest : List Char) :
    skipString (pieces.flatMap Piece.chars ++ '"' :: rest) = .ok ((), rest) := by
  induction pieces with
  | nil =>
    rw [List.flatMap_nil, List.nil_append, skipString.eq_def]
    rfl
  | cons piece pieces ih =>
    rw [List.flatMap_cons, List.append_assoc, skipString_piece, ih]

/-! ## Numbers -/

theorem skipExponent_chars (exponent : Exponent) {rest : List Char} (ends : NoDigit rest) :
    skipExponent (exponent.sign ++ exponent.digits.chars ++ rest) = .ok ((), rest) := by
  obtain ⟨-, -, sign, isSign, ⟨digits, nonempty, all⟩⟩ := exponent
  obtain ⟨c, digits, rfl⟩ := List.exists_cons_of_ne_nil nonempty
  have digit := all c List.mem_cons_self
  have unsigned : c ≠ '+' ∧ c ≠ '-' := ⟨ne_of_isDigit digit rfl, ne_of_isDigit digit rfl⟩
  have behind := skipDigits_append (fun d h => all d (List.mem_cons_of_mem _ h)) ends 0
  rcases isSign with rfl | rfl | rfl <;> simp [skipExponent, unsigned, digit, behind]

theorem skipTail_chars {exponent? : Option Exponent} {rest : List Char}
    (stops : Exponent.Stops exponent? rest) :
    skipTail (exponentChars exponent? ++ rest) = .ok ((), rest) := by
  cases exponent? with
  | none =>
    rw [skipTail, exponentChars, List.nil_append, startsWithExponent_of_ne (stops.2 rfl)]
    rfl
  | some exponent =>
    rw [skipTail, exponentChars, List.cons_append, startsWithExponent_mark, if_pos rfl,
      List.drop_one, List.tail_cons, skipExponent_chars exponent stops.1]

theorem skipAfterWhole_chars {fraction? : Option Digits} {exponent? : Option Exponent}
    {rest : List Char} (stops : Numeral.Stops fraction? exponent? rest) :
    skipAfterWhole (fractionChars fraction? ++ (exponentChars exponent? ++ rest)) =
      .ok ((), rest) := by
  cases fraction? with
  | none =>
    rw [fractionChars, List.nil_append, skipAfterWhole.eq_def]
    split
    next others same => exact absurd same (noPoint_exponentChars stops others)
    next => exact skipTail_chars stops.1
  | some digits =>
    rw [fractionChars, List.cons_append, skipAfterWhole,
      startsWithDigit_append digits.digits digits.nonempty, if_pos rfl,
      skipDigits_append digits.digits (noDigit_exponentChars stops.1)]
    exact skipTail_chars stops.1

/-- A number is passed over, also if it is too large. -/
theorem skipNumber_unsigned (n : Numeral) {rest : List Char}
    (stops : Numeral.Stops n.fraction? n.exponent? rest) :
    skipNumber (n.unsigned ++ rest) = .ok ((), rest) := by
  have ends := noDigit_fractionChars stops
  have behind := skipAfterWhole_chars stops
  obtain ⟨negative, ⟨whole, nonempty, all⟩, noLeadingZero, fraction?, exponent?⟩ := n
  obtain ⟨c, digits, rfl⟩ := List.exists_cons_of_ne_nil nonempty
  simp only [Numeral.unsigned, List.cons_append, List.append_assoc, skipNumber]
  by_cases zero : c = '0'
  · obtain rfl : digits = [] := (List.cons.inj (noLeadingZero (congrArg some zero))).2
    rw [if_pos zero, List.nil_append, ends.startsWithDigit, if_neg Bool.false_ne_true, behind]
  · have others : ∀ d ∈ digits, d.isDigit = true := fun d h => all d (List.mem_cons_of_mem _ h)
    rw [if_neg zero, if_pos (all c List.mem_cons_self), skipDigits_append others ends, behind]

/-! ## Values -/

/-- From the front of the text to behind it the machine takes `k + 1` steps. -/
def Skips (text : List Char) (k : Nat) : Prop :=
  ∀ steps opened rest, EndsNumber rest →
    skipValue (k + steps + 1) opened (text ++ rest) = skipRest steps opened rest

/-- From behind a value inside a bracket to behind the bracket the machine takes `k` steps. -/
def Closes (bracket : Bracket) (text : List Char) (k : Nat) : Prop :=
  ∀ steps opened rest, skipRest (k + steps) (bracket :: opened) (text ++ rest) =
    skipRest steps opened rest

theorem skipValue_gap (steps : Nat) (opened : List Bracket) (gap : Gap) (text : List Char) :
    skipValue (steps + 1) opened (gap.chars ++ text) = skipValue (steps + 1) opened text := by
  simp only [skipValue, skipGap_gap]

theorem skips_null : Skips ['n', 'u', 'l', 'l'] 0 := by
  intro steps opened rest _
  have word := readWord_append ['u', 'l', 'l'] rest
  simp only [List.cons_append, List.nil_append] at word
  simp [skipValue, skipGap_cons (show isGap 'n' = false from rfl), word]

theorem skips_bool (b : Bool) : Skips (Spelling.bool b).chars 0 := by
  intro steps opened rest _
  cases b with
  | true =>
    have word := readWord_append ['r', 'u', 'e'] rest
    simp only [List.cons_append, List.nil_append] at word
    simp [Spelling.chars, skipValue, skipGap_cons (show isGap 't' = false from rfl), word]
  | false =>
    have word := readWord_append ['a', 'l', 's', 'e'] rest
    simp only [List.cons_append, List.nil_append] at word
    simp [Spelling.chars, skipValue, skipGap_cons (show isGap 'f' = false from rfl), word]

theorem skips_string (pieces : List Piece) : Skips (Piece.quoted pieces) 0 := by
  intro steps opened rest _
  have taken := skipString_pieces pieces rest
  simp [Piece.quoted, skipValue, skipGap_cons (show isGap '"' = false from rfl), taken]

theorem skips_number (n : Numeral) : Skips n.chars 0 := by
  intro steps opened rest ends
  have taken := skipNumber_unsigned n (Numeral.stops_of_ends ends n.fraction? n.exponent?)
  cases negative : n.negative with
  | true =>
    simp [Numeral.chars, negative, skipValue, skipGap_cons (show isGap '-' = false from rfl), taken]
  | false =>
    obtain ⟨c, others, whole, digit⟩ := n.exists_digit
    have different {d : Char} (other : d.isDigit = false) : c ≠ d := ne_of_isDigit digit other
    have opens : c ≠ '[' ∧ c ≠ '\x7b' := ⟨different rfl, different rfl⟩
    have word : c ≠ 'n' ∧ c ≠ 't' ∧ c ≠ 'f' := ⟨different rfl, different rfl, different rfl⟩
    have sign : c ≠ '-' := different rfl
    rw [whole, List.cons_append] at taken
    simp [Numeral.chars, negative, whole, skipValue, skipGap_cons (isGap_of_isDigit digit), opens,
      word, sign, digit, taken]

open Spelling

/-- Items are passed over one after the other, up to the end of their array. -/
theorem exists_closes_items {items : List (Spaced Spelling)}
    (each : ∀ item ∈ items, ∃ k < item.core.chars.length, Skips item.core.chars k) (after : Gap) :
    ∃ k ≤ (itemsChars items).length, Closes .array (after.chars ++ itemsChars items) k := by
  induction items generalizing after with
  | nil =>
    refine ⟨1, by simp [itemsChars], fun steps opened rest => ?_⟩
    rw [Nat.add_comm 1 steps]
    simp [itemsChars, skipRest, skipGap_cons (show isGap ']' = false from rfl), Bracket.close]
  | cons item items ih =>
    obtain ⟨before, core, behind⟩ := item
    obtain ⟨k, short, skips⟩ := each _ List.mem_cons_self
    obtain ⟨m, short', closes⟩ := ih (fun item h => each item (List.mem_cons_of_mem _ h)) behind
    simp only at short skips
    refine ⟨k + 2 + m, ?_, fun steps opened rest => ?_⟩
    · simp only [itemsChars, List.length_cons, List.length_append]
      omega
    · have ends := behind.endsNumber (endsNumber_itemsChars items rest)
      have first := skips (m + steps) (.array :: opened) _ ends
      have later := closes steps opened rest
      simp only [List.append_assoc] at later
      rw [show k + 2 + m + steps = k + (m + steps) + 1 + 1 by omega]
      simp only [itemsChars, List.cons_append, List.append_assoc, skipRest, skipGap_gap,
        skipGap_cons (show isGap ',' = false from rfl), if_pos, Bracket.skipKey, skipValue_gap,
        first, later]

/-- Members are passed over one after the other, up to the end of their object. -/
theorem exists_closes_members {members : List Member}
    (each : ∀ member ∈ members,
      ∃ k < member.2.core.chars.length, Skips member.2.core.chars k) (after : Gap) :
    ∃ k ≤ (membersChars members).length,
      Closes .object (after.chars ++ membersChars members) k := by
  induction members generalizing after with
  | nil =>
    refine ⟨1, by simp [membersChars], fun steps opened rest => ?_⟩
    rw [Nat.add_comm 1 steps]
    simp [membersChars, skipRest, skipGap_cons (show isGap '\x7d' = false from rfl), Bracket.close]
  | cons member members ih =>
    obtain ⟨⟨front, key, back⟩, ⟨before, core, behind⟩⟩ := member
    obtain ⟨k, short, skips⟩ := each _ List.mem_cons_self
    obtain ⟨m, short', closes⟩ := ih (fun member h => each member (List.mem_cons_of_mem _ h)) behind
    simp only at short skips
    refine ⟨k + 2 + m, ?_, fun steps opened rest => ?_⟩
    · simp only [membersChars, List.length_cons, List.length_append]
      omega
    · have ends := behind.endsNumber (endsNumber_membersChars members rest)
      have first := skips (m + steps) (.object :: opened) _ ends
      have later := closes steps opened rest
      simp only [List.append_assoc] at later
      rw [show k + 2 + m + steps = k + (m + steps) + 1 + 1 by omega]
      simp only [membersChars, Piece.quoted, List.cons_append, List.append_assoc, List.nil_append,
        skipRest, skipGap_gap, skipGap_cons (show isGap ',' = false from rfl), if_pos,
        Bracket.skipKey, skipQuotedKey, skipGap_cons (show isGap '"' = false from rfl), skipKey,
        skipString_pieces, readColon_chars, skipValue_gap, first, later]

theorem exists_skips_array (gap : Gap) {items : List (Spaced Spelling)}
    (each : ∀ item ∈ items, ∃ k < item.core.chars.length, Skips item.core.chars k) :
    ∃ k < (Spelling.array gap items).chars.length, Skips (Spelling.array gap items).chars k := by
  cases items with
  | nil =>
    refine ⟨0, by simp [chars], fun steps opened rest _ => ?_⟩
    simp [chars, skipValue, skipGap_cons (show isGap '[' = false from rfl),
      skipGap_cons (show isGap ']' = false from rfl), Bracket.close]
  | cons item items =>
    obtain ⟨before, core, behind⟩ := item
    obtain ⟨k, short, skips⟩ := each _ List.mem_cons_self
    obtain ⟨m, short', closes⟩ :=
      exists_closes_items (fun item h => each item (List.mem_cons_of_mem _ h)) behind
    simp only at short skips
    refine ⟨k + 1 + m, ?_, fun steps opened rest _ => ?_⟩
    · simp only [chars, List.length_cons, List.length_append]
      omega
    · have first := skips (m + steps) (.array :: opened) _
        (behind.endsNumber (endsNumber_itemsChars items rest))
      have later := closes steps opened rest
      simp only [List.append_assoc] at later
      obtain ⟨c, text, start, gap, close⟩ :=
        core.begins.append (behind.chars ++ (itemsChars items ++ rest))
      rw [start] at first
      rw [show k + 1 + m + steps + 1 = k + (m + steps) + 1 + 1 by omega]
      simp only [chars, List.cons_append, List.append_assoc]
      rw [skipValue.eq_def]
      simp only [skipGap_cons (show isGap '[' = false from rfl), skipGap_gap, start,
        skipGap_cons gap, true_or, if_true, Bracket.close, if_neg close, Bracket.skipKey, first,
        later]

theorem exists_skips_object (gap : Gap) {members : List Member}
    (each : ∀ member ∈ members,
      ∃ k < member.2.core.chars.length, Skips member.2.core.chars k) :
    ∃ k < (Spelling.object gap members).chars.length,
      Skips (Spelling.object gap members).chars k := by
  cases members with
  | nil =>
    refine ⟨0, by simp [chars], fun steps opened rest _ => ?_⟩
    simp [chars, skipValue, skipGap_cons (show isGap '\x7b' = false from rfl),
      skipGap_cons (show isGap '\x7d' = false from rfl), Bracket.close]
  | cons member members =>
    obtain ⟨⟨front, key, back⟩, ⟨before, core, behind⟩⟩ := member
    obtain ⟨k, short, skips⟩ := each _ List.mem_cons_self
    obtain ⟨m, short', closes⟩ :=
      exists_closes_members (fun member h => each member (List.mem_cons_of_mem _ h)) behind
    simp only at short skips
    refine ⟨k + 1 + m, ?_, fun steps opened rest _ => ?_⟩
    · simp only [chars, List.length_cons, List.length_append]
      omega
    · have first := skips (m + steps) (.object :: opened) _
        (behind.endsNumber (endsNumber_membersChars members rest))
      have later := closes steps opened rest
      simp only [List.append_assoc] at later
      have object : ('\x7b' = '[') = False := by simp
      have quote : ('"' = '\x7d') = False := by simp
      rw [show k + 1 + m + steps + 1 = k + (m + steps) + 1 + 1 by omega]
      simp only [chars, Piece.quoted, List.cons_append, List.append_assoc, List.nil_append]
      rw [skipValue.eq_def]
      simp only [skipGap_cons (show isGap '\x7b' = false from rfl), skipGap_gap,
        skipGap_cons (show isGap '"' = false from rfl), or_true, if_true, object, if_false,
        Bracket.close, quote, Bracket.skipKey, skipQuotedKey, skipKey, skipString_pieces,
        readColon_chars, skipValue_gap, first, later]

/-- Every value is passed over, in fewer steps than its text has characters. -/
theorem Spelling.exists_skips (spelling : Spelling) :
    ∃ k < spelling.chars.length, Skips spelling.chars k := by
  induction spelling with
  | null => exact ⟨0, by simp [chars], skips_null⟩
  | bool b => exact ⟨0, by cases b <;> simp [chars], skips_bool b⟩
  | number n =>
    refine ⟨0, ?_, skips_number n⟩
    obtain ⟨c, rest, whole, -⟩ := n.exists_digit
    simp [chars, Numeral.chars, whole]
  | string pieces => exact ⟨0, by simp [chars, Piece.quoted], skips_string pieces⟩
  | array gap items ih => exact exists_skips_array gap ih
  | object gap members ih => exact exists_skips_object gap ih

/-- **Every value of the grammar is passed over.** -/
theorem Spelling.skip_chars (spelling : Spelling) (before : Gap) {bound : Nat}
    (fits : spelling.chars.length ≤ bound) {rest : List Char} (ends : EndsNumber rest) :
    skip bound (before.chars ++ (spelling.chars ++ rest)) = .ok ((), rest) := by
  obtain ⟨k, short, skips⟩ := spelling.exists_skips
  obtain ⟨steps, rfl⟩ : ∃ steps, bound = k + steps := ⟨bound - k, by omega⟩
  rw [skip, skipValue_gap, skips steps [] rest ends, skipRest]

end BattleAdvisor.Json
