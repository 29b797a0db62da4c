import BattleAdvisor.Proofs.Json.Spelling
import BattleAdvisor.Proofs.Json.Token

/-!
# Tokens that the grammar allows

The readers of strings and numbers accept exactly what the grammar allows, up to surrogates without
a partner and numbers that are too large:

* `readString_pieces`, `exists_pieces_of_readString`: strings.
* `Numeral.settles`, `exists_numeral_of_readNumber`: numbers. What the reader makes of a number does
  not depend on what follows it, as long as that cannot go on with the number.
-/

namespace BattleAdvisor.Json

open BattleAdvisor.Text

/-! ## Failures -/

section

variable {α : Type} {cause : Cause} {text : List Char} {x : α × List Char}

@[simp] theorem failBefore_ne_ok : failBefore cause text ≠ .ok x := by
  simp [failBefore]

@[simp] theorem failInside_ne_ok {bytes : Nat} : failInside bytes cause text ≠ .ok x := by
  simp [failInside]

@[simp] theorem failAt_ne_ok : failAt cause text ≠ .ok x :=
  failInside_ne_ok

@[simp] theorem failHex_ne_ok : failHex text ≠ .ok x := by
  rw [failHex]
  split <;> simp

end

/-! ## Strings -/

theorem readStringFrom_plain {c : Char} (allowed : c ≠ '"' ∧ c ≠ '\\' ∧ 0x20 ≤ c.toNat)
    (done rest : List Char) :
    readStringFrom done (c :: rest) = readStringFrom (c :: done) rest := by
  obtain ⟨quote, backslash, low⟩ := allowed
  rw [readStringFrom_eq]
  simp [quote, backslash, show ¬ c.toNat < 0x20 by omega]

theorem readStringFrom_hex {a b c d : Char} {n : Nat} (stands : hexCode? a b c d = some n)
    (notTrailing : ¬ isTrailing n = true) (notLeading : ¬ isLeading n = true)
    (done rest : List Char) :
    readStringFrom done ('\\' :: 'u' :: a :: b :: c :: d :: rest) =
      readStringFrom (Char.ofNat n :: done) rest := by
  rw [readStringFrom_eq]
  simp [stands, notTrailing, notLeading]

theorem readStringFrom_pair {a b c d e f g h : Char} {n m : Nat}
    (stands : hexCode? a b c d = some n) (leading : isLeading n = true)
    (notTrailing : ¬ isTrailing n = true) (stands' : hexCode? e f g h = some m)
    (trailing : isTrailing m = true) (done rest : List Char) :
    readStringFrom done
        ('\\' :: 'u' :: a :: b :: c :: d :: '\\' :: 'u' :: e :: f :: g :: h :: rest) =
      readStringFrom (joinPair n m :: done) rest := by
  rw [readStringFrom_eq]
  simp [stands, leading, notTrailing, stands', trailing]

theorem decode?_hex {a b c d : Char} {n : Nat} (stands : hexCode? a b c d = some n)
    (notTrailing : ¬ isTrailing n = true) (notLeading : ¬ isLeading n = true)
    (pieces : List Piece) :
    decode? (.code a b c d n stands :: pieces) = (decode? pieces).map (Char.ofNat n :: ·) := by
  rw [decode?.eq_def]
  simp [notTrailing, notLeading]

theorem decode?_pair {a b c d e f g h : Char} {n m : Nat} (stands : hexCode? a b c d = some n)
    (leading : isLeading n = true) (notTrailing : ¬ isTrailing n = true)
    (stands' : hexCode? e f g h = some m) (trailing : isTrailing m = true)
    (pieces : List Piece) :
    decode? (.code a b c d n stands :: .code e f g h m stands' :: pieces) =
      (decode? pieces).map (joinPair n m :: ·) := by
  rw [decode?.eq_def]
  simp [leading, notTrailing, trailing]

theorem readStringFrom_pieces {pieces : List Piece} {chars : List Char}
    (h : decode? pieces = some chars) (done rest : List Char) :
    readStringFrom done (pieces.flatMap Piece.chars ++ '"' :: rest) =
      .ok (String.ofList (done.reverse ++ chars), rest) := by
  fun_induction decode? pieces generalizing done chars with
  | case1 =>
    cases h
    rw [List.flatMap_nil, List.nil_append, readStringFrom_eq]
    simp
  | case2 c allowed pieces ih =>
    obtain ⟨others, decoded, rfl⟩ := Option.map_eq_some_iff.mp h
    rw [List.flatMap_cons, Piece.chars, List.singleton_append, List.cons_append,
      readStringFrom_plain allowed, ih decoded]
    simp
  | case3 letter c stands pieces ih =>
    obtain ⟨others, decoded, rfl⟩ := Option.map_eq_some_iff.mp h
    have taken := ih decoded (c :: done)
    rw [List.flatMap_cons, Piece.chars, List.append_assoc, List.cons_append, List.cons_append,
      List.nil_append, readStringFrom_escape stands, taken]
    simp
  | case4 => cases h
  | case5 a b c d n stands notTrailing leading e f g i m stands' pieces trailing ih =>
    obtain ⟨others, decoded, rfl⟩ := Option.map_eq_some_iff.mp h
    have taken := ih decoded (joinPair n m :: done)
    simp only [List.flatMap_cons, Piece.chars, List.cons_append, List.nil_append]
    rw [readStringFrom_pair stands leading notTrailing stands' trailing, taken]
    simp
  | case6 => cases h
  | case7 => cases h
  | case8 a b c d n stands pieces notTrailing notLeading ih =>
    obtain ⟨others, decoded, rfl⟩ := Option.map_eq_some_iff.mp h
    have taken := ih decoded (Char.ofNat n :: done)
    simp only [List.flatMap_cons, Piece.chars, List.cons_append, List.nil_append]
    rw [readStringFrom_hex stands notTrailing notLeading, taken]
    simp

/-- What pieces spell is read as their string. -/
theorem readString_pieces {pieces : List Piece} {s : String} (h : Piece.text? pieces = some s)
    (rest : List Char) :
    readString (pieces.flatMap Piece.chars ++ '"' :: rest) = .ok (s, rest) := by
  obtain ⟨chars, decoded, rfl⟩ := Option.map_eq_some_iff.mp h
  rw [readString, readStringFrom_pieces decoded, List.reverse_nil, List.nil_append]

theorem exists_pieces_of_readStringFrom {done text rest : List Char} {s : String}
    (h : readStringFrom done text = .ok (s, rest)) :
    ∃ pieces chars, text = pieces.flatMap Piece.chars ++ '"' :: rest ∧
      decode? pieces = some chars ∧ s = String.ofList (done.reverse ++ chars) := by
  fun_induction readStringFrom done text with
  | case2 =>
    cases h
    exact ⟨[], [], rfl, rfl, by simp⟩
  | case9 done a b c d n stands notTrailing leading e f g i rest' m stands' trailing _ ih =>
    obtain ⟨pieces, chars, rfl, decoded, rfl⟩ := ih h
    refine ⟨.code a b c d n stands :: .code e f g i m stands' :: pieces, joinPair n m :: chars,
      rfl, ?_, ?_⟩
    · rw [decode?_pair stands leading notTrailing stands' trailing, decoded, Option.map_some]
    · simp
  | case14 done a b c d rest' n stands notTrailing notLeading _ ih =>
    obtain ⟨pieces, chars, rfl, decoded, rfl⟩ := ih h
    refine ⟨.code a b c d n stands :: pieces, Char.ofNat n :: chars, rfl, ?_, ?_⟩
    · rw [decode?_hex stands notTrailing notLeading, decoded, Option.map_some]
    · simp
  | case16 done letter rest' _ c stands _ ih =>
    obtain ⟨pieces, chars, rfl, decoded, rfl⟩ := ih h
    refine ⟨.escape letter c stands :: pieces, c :: chars, rfl, ?_, ?_⟩
    · rw [decode?, decoded, Option.map_some]
    · simp
  | case19 done c rest' quote backslash low ih =>
    obtain ⟨pieces, chars, rfl, decoded, rfl⟩ := ih h
    refine ⟨.plain c ⟨quote, backslash, by omega⟩ :: pieces, c :: chars, rfl, ?_, ?_⟩
    · rw [decode?, decoded, Option.map_some]
    · simp
  | _ => simp at h

/-- What is read as a string is spelled by pieces. -/
theorem exists_pieces_of_readString {text rest : List Char} {s : String}
    (h : readString text = .ok (s, rest)) :
    ∃ pieces, text = pieces.flatMap Piece.chars ++ '"' :: rest ∧ Piece.text? pieces = some s := by
  obtain ⟨pieces, chars, whole, decoded, rfl⟩ := exists_pieces_of_readStringFrom h
  refine ⟨pieces, whole, ?_⟩
  rw [Piece.text?, decoded, Option.map_some, List.reverse_nil, List.nil_append]

/-! ## Digits -/

theorem ne_of_isDigit {c d : Char} (digit : c.isDigit = true) (other : d.isDigit = false) :
    c ≠ d := by
  rintro rfl
  rw [digit] at other
  cases other

/-- The text does not go on with a digit. -/
def NoDigit (rest : List Char) : Prop :=
  ∀ c ∈ rest.head?, c.isDigit = false

theorem NoDigit.startsWithDigit {rest : List Char} (h : NoDigit rest) :
    startsWithDigit rest = false := by
  cases rest with
  | nil => rfl
  | cons c rest => exact h c rfl

theorem startsWithDigit_append {digits : List Char} (all : ∀ c ∈ digits, c.isDigit = true)
    (nonempty : digits ≠ []) (rest : List Char) : startsWithDigit (digits ++ rest) = true := by
  obtain ⟨c, digits, rfl⟩ := List.exists_cons_of_ne_nil nonempty
  exact all c List.mem_cons_self

theorem skipDigits_append {digits rest : List Char} (all : ∀ c ∈ digits, c.isDigit = true)
    (ends : NoDigit rest) (count : Nat) :
    skipDigits count (digits ++ rest) = (count + digits.length, rest) := by
  induction digits generalizing count with
  | nil =>
    cases rest with
    | nil => rfl
    | cons c rest => simp [skipDigits, ends c rfl]
  | cons c digits ih =>
    have later := ih (fun d h => all d (List.mem_cons_of_mem _ h)) (count + 1)
    rw [List.cons_append, skipDigits, if_pos (all c List.mem_cons_self), later, List.length_cons]
    congr 1
    omega

/-- Of digits, those that fit are read, and which ones these are does not depend on what follows
the digits. -/
theorem exists_readDigits {digits : List Char} (all : ∀ c ∈ digits, c.isDigit = true)
    (significand count : Nat) :
    ∃ value read left, read + left.length = count + digits.length ∧
      (∀ c ∈ left, c.isDigit = true) ∧
      ∀ rest, NoDigit rest →
        readDigits significand count (digits ++ rest) = (value, read, left ++ rest) := by
  induction digits generalizing significand count with
  | nil =>
    refine ⟨significand, count, [], rfl, by simp, ?_⟩
    intro rest ends
    cases rest with
    | nil => rfl
    | cons c rest => simp [readDigits, ends c rfl]
  | cons c digits ih =>
    have digit := all c List.mem_cons_self
    by_cases fits : significand * 10 + digitValue c < wordLimit
    · obtain ⟨value, read, left, counts, others, taken⟩ :=
        ih (fun d h => all d (List.mem_cons_of_mem _ h)) (significand * 10 + digitValue c)
          (count + 1)
      refine ⟨value, read, left, ?_, others, ?_⟩
      · rw [counts, List.length_cons]
        omega
      · intro rest ends
        rw [List.cons_append, readDigits, if_pos (by simp [digit, fits]), taken rest ends]
    · refine ⟨significand, count, c :: digits, rfl, all, ?_⟩
      intro rest _
      rw [List.cons_append, readDigits, if_neg (by simp [fits])]

/-! ## Numbers -/

/-- A number was read in front of the rest, or it was found too large. -/
def Yields (result : Except Failure (Number × List Char)) (x? : Option Number)
    (rest : List Char) : Prop :=
  match x? with
  | some x => result = .ok (x, rest)
  | none => ∃ unread, result = .error ⟨.numberTooLarge, unread⟩

/-- What a reader makes of a text does not depend on what follows, if this stops the reader. -/
def Settles (reader : Reader Number) (text : List Char) (stops : List Char → Prop) : Prop :=
  ∃ x?, ∀ rest, stops rest → Yields (reader (text ++ rest)) x? rest

theorem Settles.of_eq {reader reader' : Reader Number} {text text' : List Char}
    {stops stops' : List Char → Prop} (h : Settles reader' text' stops')
    (weaker : ∀ rest, stops rest → stops' rest)
    (same : ∀ rest, stops rest → reader (text ++ rest) = reader' (text' ++ rest)) :
    Settles reader text stops := by
  obtain ⟨x?, yields⟩ := h
  refine ⟨x?, ?_⟩
  intro rest ends
  rw [same rest ends]
  exact yields rest (weaker rest ends)

theorem settles_finishFloat (positive : Bool) (x : Scaled) :
    Settles (finishFloat positive x) [] fun _ => True := by
  cases value : x.toFloat? with
  | some y =>
    refine ⟨some (.float (withSign positive y)), fun rest _ => ?_⟩
    simp [Yields, finishFloat, value]
  | none =>
    refine ⟨none, fun rest _ => ⟨byteCount rest, ?_⟩⟩
    simp [finishFloat, value, failBefore]

theorem settles_readExponentDigits (positive negative : Bool) (x : Scaled) {digits : List Char}
    (all : ∀ c ∈ digits, c.isDigit = true) (exponent : Nat) :
    Settles (readExponentDigits positive negative x exponent) digits NoDigit := by
  induction digits generalizing exponent with
  | nil =>
    refine (settles_finishFloat positive (x.raise negative exponent)).of_eq (fun _ _ => trivial) ?_
    intro rest ends
    cases rest with
    | nil => rfl
    | cons c rest => simp [readExponentDigits, ends c rfl]
  | cons c digits ih =>
    have digit := all c List.mem_cons_self
    have others : ∀ d ∈ digits, d.isDigit = true := fun d h => all d (List.mem_cons_of_mem _ h)
    by_cases small : exponent * 10 + digitValue c < 0x80000000
    · refine (ih others (exponent * 10 + digitValue c)).of_eq (fun _ ends => ends) ?_
      intro rest _
      simp [readExponentDigits, digit, small]
    · by_cases large : x.significand ≠ 0 ∧ negative = false
      · refine ⟨none, fun rest _ => ⟨byteCount (digits ++ rest), ?_⟩⟩
        simp [readExponentDigits, digit, small, large, failBefore]
      · refine ⟨some (.float (withSign positive 0.0)), fun rest ends => ?_⟩
        rw [List.cons_append, readExponentDigits]
        simp only [digit, if_pos, small, if_false, large, Yields,
          skipDigits_append others ends]

theorem settles_readExponent (positive : Bool) (x : Scaled) (exponent : Exponent) :
    Settles (readExponent positive x) (exponent.sign ++ exponent.digits.chars) NoDigit := by
  obtain ⟨-, -, sign, isSign, ⟨digits, nonempty, all⟩⟩ := exponent
  obtain ⟨c, digits, rfl⟩ := List.exists_cons_of_ne_nil nonempty
  have digit := all c List.mem_cons_self
  have unsigned : c ≠ '+' ∧ c ≠ '-' := ⟨ne_of_isDigit digit rfl, ne_of_isDigit digit rfl⟩
  have others : ∀ d ∈ digits, d.isDigit = true := fun d h => all d (List.mem_cons_of_mem _ h)
  have later (negative : Bool) :=
    settles_readExponentDigits positive negative x others (digitValue c)
  rcases isSign with rfl | rfl | rfl
  · refine (later false).of_eq (fun _ ends => ends) fun rest _ => ?_
    simp [readExponent, unsigned, digit]
  · refine (later false).of_eq (fun _ ends => ends) fun rest _ => ?_
    simp [readExponent, digit]
  · refine (later true).of_eq (fun _ ends => ends) fun rest _ => ?_
    simp [readExponent, digit]

/-- What may follow an exponent, or a number without one. -/
def Exponent.Stops (exponent? : Option Exponent) (rest : List Char) : Prop :=
  NoDigit rest ∧ (exponent? = none → ∀ c ∈ rest.head?, c ≠ 'e' ∧ c ≠ 'E')

theorem startsWithExponent_of_ne {rest : List Char} (h : ∀ c ∈ rest.head?, c ≠ 'e' ∧ c ≠ 'E') :
    startsWithExponent rest = false := by
  cases rest with
  | nil => rfl
  | cons c rest => simp [startsWithExponent, h c rfl]

theorem startsWithExponent_mark (exponent : Exponent) (rest : List Char) :
    startsWithExponent (exponent.mark :: rest) = true := by
  rcases exponent.isMark with h | h <;> simp [startsWithExponent, h]

/-- Neither an exponent nor what may follow it goes on with a digit. -/
theorem noDigit_exponentChars {exponent? : Option Exponent} {rest : List Char}
    (stops : Exponent.Stops exponent? rest) : NoDigit (exponentChars exponent? ++ rest) := by
  cases exponent? with
  | none => exact stops.1
  | some exponent =>
    rintro c ⟨⟩
    rcases exponent.isMark with h | h <;> rw [h] <;> decide

theorem settles_readTail (positive : Bool) (x : Scaled) (exponent? : Option Exponent) :
    Settles (readTail positive x) (exponentChars exponent?) (Exponent.Stops exponent?) := by
  cases exponent? with
  | none =>
    refine (settles_finishFloat positive x).of_eq (fun _ _ => trivial) fun rest stops => ?_
    rw [readTail, exponentChars, List.nil_append, startsWithExponent_of_ne (stops.2 rfl)]
    rfl
  | some exponent =>
    refine (settles_readExponent positive x exponent).of_eq (fun _ stops => stops.1)
      fun rest _ => ?_
    rw [readTail, exponentChars, List.cons_append, startsWithExponent_mark]
    rfl

theorem settles_readFraction (positive : Bool) (x : Scaled) (digits : Digits)
    (exponent? : Option Exponent) :
    Settles (readFraction positive x) (digits.chars ++ exponentChars exponent?)
      (Exponent.Stops exponent?) := by
  obtain ⟨value, read, left, counts, others, taken⟩ :=
    exists_readDigits digits.digits x.significand 0
  refine (settles_readTail positive ⟨value, x.exponent - read⟩ exponent?).of_eq
    (fun _ stops => stops) fun rest stops => ?_
  have ends := noDigit_exponentChars stops
  rw [readFraction, List.append_assoc, taken _ ends]
  by_cases all : left = []
  · have some : read ≠ 0 := by
      have := List.length_pos_of_ne_nil digits.nonempty
      rw [all, List.length_nil] at counts
      omega
    simp only [all, List.nil_append, ends.startsWithDigit, some, if_false]
    rfl
  · simp only [startsWithDigit_append others all, if_true, skipDigits_append others ends]

/-- What may follow a number. -/
def Numeral.Stops (fraction? : Option Digits) (exponent? : Option Exponent) (rest : List Char) :
    Prop :=
  Exponent.Stops exponent? rest ∧
    (fraction? = none → exponent? = none → ∀ c ∈ rest.head?, c ≠ '.')

/-- Neither a fraction nor what may follow it goes on with a digit. -/
theorem noDigit_fractionChars {fraction? : Option Digits} {exponent? : Option Exponent}
    {rest : List Char} (stops : Numeral.Stops fraction? exponent? rest) :
    NoDigit (fractionChars fraction? ++ (exponentChars exponent? ++ rest)) := by
  cases fraction? with
  | none => exact noDigit_exponentChars stops.1
  | some digits =>
    rintro c ⟨⟩
    decide

/-- What follows a number without a fraction does not go on with a point. -/
theorem noPoint_exponentChars {exponent? : Option Exponent} {rest : List Char}
    (stops : Numeral.Stops none exponent? rest) :
    ∀ others, exponentChars exponent? ++ rest ≠ '.' :: others := by
  intro others
  cases exponent? with
  | none =>
    intro same
    rw [exponentChars, List.nil_append] at same
    exact stops.2 rfl rfl '.' (by rw [same]; rfl) rfl
  | some exponent =>
    intro same
    have point : exponent.mark = '.' := (List.cons.inj same).1
    rcases exponent.isMark with h | h <;> rw [h] at point <;> cases point

section

variable {positive : Bool} {significand : Nat} {left rest : List Char}

theorem readAfterWhole_point :
    readAfterWhole positive significand ('.' :: rest) =
      readFraction positive ⟨significand, 0⟩ rest := by
  simp [readAfterWhole, startsWithDigit]

theorem readAfterWhole_tail (ends : NoDigit rest) (point : ∀ others, rest ≠ '.' :: others) :
    readAfterWhole positive significand rest =
      if startsWithExponent rest then readExponent positive ⟨significand, 0⟩ (rest.drop 1)
      else .ok (wholeNumber positive significand, rest) := by
  rw [readAfterWhole.eq_def, ends.startsWithDigit, if_neg Bool.false_ne_true]
  split
  next others => exact absurd rfl (point others)
  next => rfl

/-- The digits that did not fit count into the exponent. -/
theorem readAfterWhole_left_point (all : ∀ c ∈ left, c.isDigit = true) (nonempty : left ≠ []) :
    readAfterWhole positive significand (left ++ '.' :: rest) =
      readFraction positive ⟨significand, left.length⟩ rest := by
  have ends : NoDigit ('.' :: rest) := by
    rintro c ⟨⟩
    decide
  rw [readAfterWhole.eq_def, startsWithDigit_append all nonempty, if_pos rfl,
    skipDigits_append all ends]
  simp

theorem readAfterWhole_left_tail (all : ∀ c ∈ left, c.isDigit = true) (nonempty : left ≠ [])
    (ends : NoDigit rest) (point : ∀ others, rest ≠ '.' :: others) :
    readAfterWhole positive significand (left ++ rest) =
      readTail positive ⟨significand, left.length⟩ rest := by
  rw [readAfterWhole.eq_def, startsWithDigit_append all nonempty, if_pos rfl,
    skipDigits_append all ends, Nat.zero_add]
  simp only

end

theorem settles_readAfterWhole (positive : Bool) (significand : Nat) {left : List Char}
    (all : ∀ c ∈ left, c.isDigit = true) (fraction? : Option Digits)
    (exponent? : Option Exponent) :
    Settles (readAfterWhole positive significand)
      (left ++ (fractionChars fraction? ++ exponentChars exponent?))
      (Numeral.Stops fraction? exponent?) := by
  cases fraction? with
  | some digits =>
    by_cases nothing : left = []
    · refine (settles_readFraction positive ⟨significand, 0⟩ digits exponent?).of_eq
        (fun _ stops => stops.1) fun rest _ => ?_
      simp only [nothing, fractionChars, List.nil_append, List.cons_append, readAfterWhole_point]
    · refine (settles_readFraction positive ⟨significand, left.length⟩ digits exponent?).of_eq
        (fun _ stops => stops.1) fun rest _ => ?_
      simp only [fractionChars, List.append_assoc, List.cons_append,
        readAfterWhole_left_point all nothing]
  | none =>
    by_cases nothing : left = []
    · have whole : ∀ rest, Numeral.Stops none exponent? rest →
          readAfterWhole positive significand
            (left ++ (fractionChars none ++ exponentChars exponent?) ++ rest) =
          if startsWithExponent (exponentChars exponent? ++ rest) then
            readExponent positive ⟨significand, 0⟩ ((exponentChars exponent? ++ rest).drop 1)
          else .ok (wholeNumber positive significand, exponentChars exponent? ++ rest) := by
        intro rest stops
        rw [nothing, fractionChars, List.nil_append, List.nil_append,
          readAfterWhole_tail (noDigit_exponentChars stops.1) (noPoint_exponentChars stops)]
      cases exponent? with
      | none =>
        refine ⟨some (wholeNumber positive significand), fun rest stops => ?_⟩
        rw [whole rest stops, exponentChars, List.nil_append,
          startsWithExponent_of_ne (stops.1.2 rfl)]
        rfl
      | some exponent =>
        refine (settles_readExponent positive ⟨significand, 0⟩ exponent).of_eq
          (fun _ stops => stops.1.1) fun rest stops => ?_
        rw [whole rest stops, exponentChars, List.cons_append, startsWithExponent_mark]
        rfl
    · refine (settles_readTail positive ⟨significand, left.length⟩ exponent?).of_eq
        (fun _ stops => stops.1) fun rest stops => ?_
      rw [fractionChars, List.nil_append, List.append_assoc,
        readAfterWhole_left_tail all nothing (noDigit_exponentChars stops.1)
          (noPoint_exponentChars stops)]

namespace Numeral

theorem settles (n : Numeral) (positive : Bool) :
    Settles (readNumber positive) n.unsigned (Stops n.fraction? n.exponent?) := by
  obtain ⟨-, ⟨digits, nonempty, all⟩, noLeadingZero, fraction?, exponent?⟩ := n
  obtain ⟨c, digits, rfl⟩ := List.exists_cons_of_ne_nil nonempty
  have others : ∀ d ∈ digits, d.isDigit = true := fun d h => all d (List.mem_cons_of_mem _ h)
  by_cases zero : c = '0'
  · subst zero
    have alone : digits = [] := (List.cons.inj (noLeadingZero rfl)).2
    refine (settles_readAfterWhole positive 0 others fraction? exponent?).of_eq
      (fun _ stops => stops) fun rest stops => ?_
    have ends := noDigit_fractionChars stops
    simp only [unsigned, alone, List.cons_append, List.nil_append, List.append_assoc, readNumber,
      if_pos, ends.startsWithDigit]
    rfl
  · obtain ⟨value, read, left, -, more, taken⟩ := exists_readDigits others (digitValue c) 1
    refine (settles_readAfterWhole positive value more fraction? exponent?).of_eq
      (fun _ stops => stops) fun rest stops => ?_
    have ends := noDigit_fractionChars stops
    simp only [unsigned, List.cons_append, List.append_assoc, readNumber, if_neg zero,
      all c List.mem_cons_self, if_pos, taken _ ends]

theorem stops_nil (fraction? : Option Digits) (exponent? : Option Exponent) :
    Stops fraction? exponent? [] := by
  simp [Stops, Exponent.Stops, NoDigit]

theorem stops_of_ends {rest : List Char} (ends : EndsNumber rest) (fraction? : Option Digits)
    (exponent? : Option Exponent) : Stops fraction? exponent? rest :=
  ⟨⟨fun c h => (ends c h).1, fun _ c h => (ends c h).2.2⟩, fun _ _ c h => (ends c h).2.1⟩

/-- In front of what stops it, the reader of numbers finds the number's value, or that it is too
large. -/
theorem yields (n : Numeral) {rest : List Char} (stops : Stops n.fraction? n.exponent? rest) :
    Yields (readNumber (!n.negative) (n.unsigned ++ rest)) n.value? rest := by
  obtain ⟨x?, all⟩ := n.settles (!n.negative)
  have alone := all [] (stops_nil _ _)
  have same : n.value? = x? := by
    rw [List.append_nil] at alone
    cases x? with
    | some x =>
      rw [Yields] at alone
      rw [value?, alone]
    | none =>
      obtain ⟨unread, alone⟩ := alone
      rw [value?, alone]
  rw [same]
  exact all rest stops

end Numeral

/-! ## What is read as a number -/

theorem exists_digits_of_readDigits {significand count : Nat} {text : List Char} :
    ∃ digits, (∀ c ∈ digits, c.isDigit = true) ∧
      (readDigits significand count text).2.1 = count + digits.length ∧
      text = digits ++ (readDigits significand count text).2.2 := by
  induction text generalizing significand count with
  | nil => exact ⟨[], by simp, rfl, rfl⟩
  | cons c rest ih =>
    rw [readDigits]
    split
    next h =>
      obtain ⟨digits, all, counts, whole⟩ :=
        @ih (significand * 10 + digitValue c) (count + 1)
      refine ⟨c :: digits, List.forall_mem_cons.mpr ⟨?_, all⟩, ?_, ?_⟩
      · exact (Bool.and_eq_true_iff.mp h).1
      · rw [counts, List.length_cons]
        omega
      · rw [List.cons_append, ← whole]
    next => exact ⟨[], by simp, rfl, rfl⟩

theorem exists_digits_of_skipDigits {count : Nat} {text : List Char} :
    ∃ digits, (∀ c ∈ digits, c.isDigit = true) ∧ NoDigit (skipDigits count text).2 ∧
      text = digits ++ (skipDigits count text).2 := by
  induction text generalizing count with
  | nil => exact ⟨[], by simp, by simp [NoDigit, skipDigits], rfl⟩
  | cons c rest ih =>
    rw [skipDigits]
    split
    next digit =>
      obtain ⟨digits, all, ends, whole⟩ := @ih (count + 1)
      refine ⟨c :: digits, List.forall_mem_cons.mpr ⟨digit, all⟩, ends, ?_⟩
      rw [List.cons_append, ← whole]
    next digit =>
      refine ⟨[], by simp, ?_, rfl⟩
      rintro d ⟨⟩
      exact Bool.eq_false_iff.mpr digit

theorem noDigit_of_startsWithDigit {rest : List Char} (h : ¬ startsWithDigit rest = true) :
    NoDigit rest := by
  rintro c head
  cases rest with
  | nil => cases head
  | cons d rest =>
    cases head
    exact Bool.eq_false_iff.mpr h

theorem eq_of_finishFloat {positive : Bool} {x : Scaled} {text rest : List Char} {y : Number}
    (h : finishFloat positive x text = .ok (y, rest)) : rest = text := by
  rw [finishFloat] at h
  split at h
  · cases h
    rfl
  · simp at h

theorem exists_digits_of_readExponentDigits {positive negative : Bool} {x : Scaled}
    {exponent : Nat} {text rest : List Char} {y : Number}
    (h : readExponentDigits positive negative x exponent text = .ok (y, rest)) :
    ∃ digits, (∀ c ∈ digits, c.isDigit = true) ∧ text = digits ++ rest ∧ NoDigit rest := by
  induction text generalizing exponent with
  | nil =>
    rw [eq_of_finishFloat h]
    exact ⟨[], by simp, rfl, by simp [NoDigit]⟩
  | cons c text ih =>
    rw [readExponentDigits] at h
    by_cases digit : c.isDigit = true
    · rw [if_pos digit] at h
      simp only at h
      split at h
      · obtain ⟨digits, all, rfl, ends⟩ := ih h
        exact ⟨c :: digits, List.forall_mem_cons.mpr ⟨digit, all⟩, rfl, ends⟩
      · split at h
        · simp at h
        · cases h
          obtain ⟨digits, all, ends, whole⟩ := @exists_digits_of_skipDigits 0 text
          refine ⟨c :: digits, List.forall_mem_cons.mpr ⟨digit, all⟩, ?_, ends⟩
          rw [List.cons_append, ← whole]
    · rw [if_neg digit] at h
      rw [eq_of_finishFloat h]
      refine ⟨[], by simp, rfl, ?_⟩
      rintro d ⟨⟩
      exact Bool.eq_false_iff.mpr digit

/-- A first digit and the digits behind it. -/
def Digits.cons (c : Char) (digits : List Char) (first : c.isDigit = true)
    (all : ∀ d ∈ digits, d.isDigit = true) : Digits :=
  ⟨c :: digits, List.cons_ne_nil _ _, List.forall_mem_cons.mpr ⟨first, all⟩⟩

theorem exists_exponent_of_readExponent {positive : Bool} {x : Scaled} {text rest : List Char}
    {y : Number} (h : readExponent positive x text = .ok (y, rest)) :
    ∃ sign, ∃ digits : Digits, (sign = [] ∨ sign = ['+'] ∨ sign = ['-']) ∧
      text = sign ++ (digits.chars ++ rest) ∧ NoDigit rest := by
  rw [readExponent.eq_def] at h
  split at h
  next negative text' signed =>
    obtain ⟨digits, rfl, ends⟩ :
        ∃ digits : Digits, text' = digits.chars ++ rest ∧ NoDigit rest := by
      split at h
      next => simp at h
      next c others =>
        split at h
        next digit =>
          obtain ⟨digits, all, rfl, ends⟩ := exists_digits_of_readExponentDigits h
          exact ⟨.cons c digits digit all, rfl, ends⟩
        next => simp at h
    split at signed
    · cases signed
      exact ⟨['+'], digits, .inr (.inl rfl), rfl, ends⟩
    · cases signed
      exact ⟨['-'], digits, .inr (.inr rfl), rfl, ends⟩
    · cases signed
      exact ⟨[], digits, .inl rfl, rfl, ends⟩

theorem exists_mark_of_startsWithExponent {text : List Char} (h : startsWithExponent text = true) :
    ∃ mark others, text = mark :: others ∧ (mark = 'e' ∨ mark = 'E') := by
  cases text with
  | nil => cases h
  | cons c others =>
    refine ⟨c, others, rfl, ?_⟩
    simpa [startsWithExponent] using h

theorem exists_exponent_of_marked {positive : Bool} {x : Scaled} {text rest : List Char}
    {y : Number} (marked : startsWithExponent text = true)
    (h : readExponent positive x (text.drop 1) = .ok (y, rest)) :
    ∃ exponent, text = exponentChars (some exponent) ++ rest ∧
      Exponent.Stops (some exponent) rest := by
  obtain ⟨mark, others, rfl, isMark⟩ := exists_mark_of_startsWithExponent marked
  obtain ⟨sign, digits, isSign, whole, ends⟩ := exists_exponent_of_readExponent h
  refine ⟨⟨mark, isMark, sign, isSign, digits⟩, ?_, ends, by simp⟩
  rw [exponentChars, List.cons_append, List.append_assoc, ← whole]
  rfl

theorem ne_mark_of_not_startsWithExponent {text : List Char}
    (h : ¬ startsWithExponent text = true) : ∀ c ∈ text.head?, c ≠ 'e' ∧ c ≠ 'E' := by
  intro c head
  cases text with
  | nil => cases head
  | cons d others =>
    cases head
    simpa [startsWithExponent] using h

theorem exists_exponent_of_readTail {positive : Bool} {x : Scaled} {text rest : List Char}
    {y : Number} (noDigit : NoDigit text) (h : readTail positive x text = .ok (y, rest)) :
    ∃ exponent?, text = exponentChars exponent? ++ rest ∧ Exponent.Stops exponent? rest := by
  rw [readTail] at h
  split at h
  next marked =>
    obtain ⟨exponent, whole, stops⟩ := exists_exponent_of_marked marked h
    exact ⟨some exponent, whole, stops⟩
  next unmarked =>
    rw [eq_of_finishFloat h]
    exact ⟨none, rfl, noDigit, fun _ => ne_mark_of_not_startsWithExponent unmarked⟩

theorem exists_fraction_of_readFraction {positive : Bool} {x : Scaled} {text rest : List Char}
    {y : Number} (h : readFraction positive x text = .ok (y, rest)) :
    ∃ digits : Digits, ∃ exponent?,
      text = digits.chars ++ (exponentChars exponent? ++ rest) ∧
      Exponent.Stops exponent? rest := by
  obtain ⟨digits, all, counts, whole⟩ := @exists_digits_of_readDigits x.significand 0 text
  rw [readFraction] at h
  simp only at h
  split at h
  next goesOn =>
    obtain ⟨more, all', noDigit, whole'⟩ :=
      @exists_digits_of_skipDigits 0 (readDigits x.significand 0 text).2.2
    obtain ⟨exponent?, tail, stops⟩ := exists_exponent_of_readTail noDigit h
    have nonempty : digits ++ more ≠ [] := by
      intro none
      obtain ⟨-, rfl⟩ := List.append_eq_nil_iff.mp none
      rw [List.nil_append] at whole'
      rw [← whole'] at noDigit
      rw [noDigit.startsWithDigit] at goesOn
      cases goesOn
    refine ⟨⟨digits ++ more, nonempty, List.forall_mem_append.mpr ⟨all, all'⟩⟩, exponent?, ?_,
      stops⟩
    rw [← tail, List.append_assoc, ← whole', ← whole]
  next stopped =>
    split at h
    · split at h <;> simp at h
    next some =>
      obtain ⟨exponent?, tail, stops⟩ :=
        exists_exponent_of_readTail (noDigit_of_startsWithDigit stopped) h
      have nonempty : digits ≠ [] := by
        rintro rfl
        exact some counts
      refine ⟨⟨digits, nonempty, all⟩, exponent?, ?_, stops⟩
      rw [← tail, ← whole]

theorem ne_point_of_ne_cons {text : List Char} (h : ∀ others, text = '.' :: others → False) :
    ∀ c ∈ text.head?, c ≠ '.' := by
  intro c head
  cases text with
  | nil => cases head
  | cons d others =>
    cases head
    rintro rfl
    exact h others rfl

theorem exists_parts_of_readAfterWhole {positive : Bool} {significand : Nat}
    {text rest : List Char} {y : Number}
    (h : readAfterWhole positive significand text = .ok (y, rest)) :
    ∃ left fraction? exponent?, (∀ c ∈ left, c.isDigit = true) ∧
      text = left ++ (fractionChars fraction? ++ (exponentChars exponent? ++ rest)) ∧
      Numeral.Stops fraction? exponent? rest := by
  rw [readAfterWhole.eq_def] at h
  split at h
  next =>
    obtain ⟨left, all, noDigit, whole⟩ := @exists_digits_of_skipDigits 0 text
    simp only at h
    split at h
    next others point =>
      obtain ⟨digits, exponent?, rfl, stops⟩ := exists_fraction_of_readFraction h
      refine ⟨left, some digits, exponent?, all, ?_, stops, by simp⟩
      rw [fractionChars, List.cons_append, ← point, ← whole]
    next noPoint =>
      obtain ⟨exponent?, tail, stops⟩ := exists_exponent_of_readTail noDigit h
      refine ⟨left, none, exponent?, all, ?_, stops, ?_⟩
      · rw [fractionChars, List.nil_append, ← tail, ← whole]
      · rintro - rfl
        rw [exponentChars, List.nil_append] at tail
        exact ne_point_of_ne_cons (tail ▸ noPoint)
  next stopped =>
    have noDigit := noDigit_of_startsWithDigit stopped
    split at h
    next others =>
      obtain ⟨digits, exponent?, rfl, stops⟩ := exists_fraction_of_readFraction h
      exact ⟨[], some digits, exponent?, by simp, rfl, stops, by simp⟩
    next noPoint =>
      split at h
      next marked =>
        obtain ⟨exponent, whole, stops⟩ := exists_exponent_of_marked marked h
        exact ⟨[], none, some exponent, by simp, whole, stops, by simp⟩
      next unmarked =>
        cases h
        exact ⟨[], none, none, by simp, rfl,
          ⟨noDigit, fun _ => ne_mark_of_not_startsWithExponent unmarked⟩,
          fun _ _ => ne_point_of_ne_cons noPoint⟩

/-- What is read as a number is one of the grammar, and has the number as its value. -/
theorem exists_numeral_of_readNumber {positive : Bool} {text rest : List Char} {y : Number}
    (h : readNumber positive text = .ok (y, rest)) :
    ∃ n : Numeral, n.negative = !positive ∧ n.value? = some y ∧ text = n.unsigned ++ rest := by
  have form : ∃ n : Numeral, n.negative = !positive ∧ text = n.unsigned ++ rest ∧
      Numeral.Stops n.fraction? n.exponent? rest := by
    cases text with
    | nil => simp [readNumber] at h
    | cons c text =>
      rw [readNumber] at h
      split at h
      next zero =>
        subst zero
        split at h
        · simp at h
        next stopped =>
          obtain ⟨left, fraction?, exponent?, all, rfl, stops⟩ := exists_parts_of_readAfterWhole h
          have nothing : left = [] := by
            by_contra nonempty
            exact stopped (startsWithDigit_append all nonempty _)
          refine ⟨⟨!positive, .cons '0' [] (by decide) (by simp), fun _ => rfl, fraction?,
            exponent?⟩, rfl, ?_, stops⟩
          simp [nothing, Numeral.unsigned, Digits.cons]
      next nonzero =>
        split at h
        next digit =>
          obtain ⟨digits, all, -, whole⟩ := @exists_digits_of_readDigits (digitValue c) 1 text
          obtain ⟨left, fraction?, exponent?, all', tail, stops⟩ := exists_parts_of_readAfterWhole h
          have every := List.forall_mem_append.mpr ⟨all, all'⟩
          refine ⟨⟨!positive, .cons c (digits ++ left) digit every, fun zero => ?_,
            fraction?, exponent?⟩, rfl, ?_, stops⟩
          · exact absurd (Option.some.inj zero) nonzero
          · rw [whole, tail]
            simp [Numeral.unsigned, Digits.cons]
        next => simp at h
  obtain ⟨n, sign, rfl, stops⟩ := form
  have yields := n.yields stops
  rw [sign, Bool.not_not, h] at yields
  refine ⟨n, sign, ?_, rfl⟩
  cases value : n.value? with
  | some x =>
    rw [value] at yields
    cases yields
    rfl
  | none =>
    rw [value] at yields
    obtain ⟨unread, failed⟩ := yields
    cases failed

end BattleAdvisor.Json
