import BattleAdvisor.Json.Token
import Mathlib.Tactic.Linarith
import Mathlib.Tactic.SplitIfs

/-!
# Written tokens can be read

Strings and whole numbers are read as what was written:

* `readString_stringText`: a string, behind its opening quote.
* `readNumber_toDigits`: a number that fits 64 bits, in front of anything that cannot go on with it.
-/

namespace BattleAdvisor.Json

open BattleAdvisor.Text

/-! ## Strings -/

theorem value?_lower {n : Nat} (h : n < 16) : Hex.value? (Hex.lower n) = some n := by
  have all : ∀ n < 16, Hex.value? (Hex.lower n) = some n := by decide
  exact all n h

theorem hexCode?_lower {n : Nat} (h : n < 0x20) :
    hexCode? '0' '0' (Hex.lower (n / 16)) (Hex.lower (n % 16)) = some n := by
  have zero : Hex.value? '0' = some 0 := rfl
  simp only [hexCode?, zero, value?_lower (show n / 16 < 16 by omega),
    value?_lower (show n % 16 < 16 by omega)]
  congr 1
  omega

/-- What the reader of strings does, for rewriting. -/
alias readStringFrom_eq := readStringFrom.eq_def

/-- A code below the surrogates stands for its character. -/
theorem readStringFrom_code {done rest : List Char} {a b : Char} {n : Nat}
    (code : hexCode? '0' '0' a b = some n) (low : n < 0xD800) :
    readStringFrom done ('\\' :: 'u' :: '0' :: '0' :: a :: b :: rest) =
      readStringFrom (Char.ofNat n :: done) rest := by
  have notTrailing : isTrailing n = false := by simp [isTrailing]; omega
  have notLeading : isLeading n = false := by simp [isLeading]; omega
  rw [readStringFrom_eq]
  simp [code, notTrailing, notLeading]

/-- A letter behind a backslash stands for its character. -/
theorem readStringFrom_escape {done rest : List Char} {e c : Char} (h : unescape? e = some c) :
    readStringFrom done ('\\' :: e :: rest) = readStringFrom (c :: done) rest := by
  have plain : e ≠ 'u' := by rintro rfl; simp [unescape?] at h
  rw [readStringFrom_eq]
  simp [plain, h]

theorem readStringFrom_escapedChar (done : List Char) (c : Char) (rest : List Char) :
    readStringFrom done (escapedChar c ++ rest) = readStringFrom (c :: done) rest := by
  unfold escapedChar
  split_ifs with quote backslash plain
  · subst quote
    exact readStringFrom_escape rfl
  · subst backslash
    exact readStringFrom_escape rfl
  · rw [List.singleton_append, readStringFrom_eq]
    simp [quote, backslash, show ¬ c.toNat < 0x20 by omega]
  · have back : Char.ofNat c.toNat = c := Char.ofNat_toNat c
    generalize c.toNat = n at *
    subst back
    split
    · exact readStringFrom_escape rfl
    · exact readStringFrom_escape rfl
    · exact readStringFrom_escape rfl
    · exact readStringFrom_escape rfl
    · exact readStringFrom_escape rfl
    · exact readStringFrom_code (hexCode?_lower (by omega)) (by omega)

theorem readStringFrom_escaped (done text rest : List Char) :
    readStringFrom done (text.flatMap escapedChar ++ '"' :: rest) =
      .ok (String.ofList (done.reverse ++ text), rest) := by
  induction text generalizing done with
  | nil =>
    rw [List.flatMap_nil, List.nil_append, readStringFrom_eq]
    simp
  | cons c text ih =>
    rw [List.flatMap_cons, List.append_assoc, readStringFrom_escapedChar, ih]
    simp

/-- The text of a string spells it. -/
theorem readString_stringText (s : String) (rest : List Char) :
    readString (s.toList.flatMap escapedChar ++ '"' :: rest) = .ok (s, rest) := by
  simp [readString, readStringFrom_escaped]

/-! ## Whole numbers -/

/-- Nothing in front of which a number ends can go on with it. -/
def EndsNumber (rest : List Char) : Prop :=
  ∀ c ∈ rest.head?, c.isDigit = false ∧ c ≠ '.' ∧ c ≠ 'e' ∧ c ≠ 'E'

theorem EndsNumber.nil : EndsNumber [] := by
  simp [EndsNumber]

theorem EndsNumber.startsWithDigit {rest : List Char} (h : EndsNumber rest) :
    startsWithDigit rest = false := by
  cases rest with
  | nil => rfl
  | cons c rest => exact (h c rfl).1

theorem readAfterWhole_of_ends {rest : List Char} (h : EndsNumber rest) (positive : Bool)
    (n : Nat) : readAfterWhole positive n rest = .ok (wholeNumber positive n, rest) := by
  unfold readAfterWhole
  rw [h.startsWithDigit]
  cases rest with
  | nil => rfl
  | cons c rest =>
    obtain ⟨-, point, small, large⟩ := h c rfl
    simp [point, startsWithExponent, small, large]

theorem le_ofDigitChars (digits : List Char) (start : Nat) :
    start ≤ Nat.ofDigitChars 10 digits start := by
  rw [Nat.ofDigitChars_eq_ofDigitChars_zero]
  have : 1 ≤ 10 ^ digits.length := Nat.one_le_pow _ _ (by omega)
  nlinarith

/-- Digits are read up to what is none, as far as their number fits 64 bits. -/
theorem readDigits_append {digits rest : List Char} (all : ∀ c ∈ digits, c.isDigit = true)
    (ends : EndsNumber rest) {start : Nat}
    (fits : Nat.ofDigitChars 10 digits start < wordLimit) (count : Nat) :
    readDigits start count (digits ++ rest) =
      (Nat.ofDigitChars 10 digits start, count + digits.length, rest) := by
  induction digits generalizing start count with
  | nil =>
    cases rest with
    | nil => rfl
    | cons c rest => simp [readDigits, (ends c rfl).1]
  | cons c digits ih =>
    have next : 10 * start + (c.toNat - '0'.toNat) = start * 10 + digitValue c := by
      rw [Nat.mul_comm]
      rfl
    rw [Nat.ofDigitChars_cons, next] at fits ⊢
    have small := Nat.lt_of_le_of_lt (le_ofDigitChars digits _) fits
    rw [List.cons_append, readDigits]
    simp only [all c (by simp), small, decide_true, Bool.and_self, if_true]
    rw [ih (fun d h => all d (by simp [h])) fits, List.length_cons]
    congr 2
    omega

/-- A number other than zero does not begin with a zero. -/
theorem exists_toDigits {n : Nat} (h : 0 < n) :
    ∃ c digits, Nat.toDigits 10 n = c :: digits ∧ c ≠ '0' := by
  induction n using Nat.strongRecOn with
  | ind n ih =>
    by_cases small : n < 10
    · refine ⟨n.digitChar, [], Nat.toDigits_of_lt_base small, ?_⟩
      have all : ∀ n < 10, 0 < n → n.digitChar ≠ '0' := by decide
      exact all n small h
    · obtain ⟨c, digits, text, nonzero⟩ := ih (n / 10) (by omega) (by omega)
      exact ⟨c, digits ++ [(n % 10).digitChar],
        by rw [Nat.toDigits_of_base_le (by omega) (by omega), text, List.cons_append], nonzero⟩

/-- The digits of a number that fits 64 bits spell it. -/
theorem readNumber_toDigits {n : Nat} (fits : n < wordLimit) {rest : List Char}
    (ends : EndsNumber rest) (positive : Bool) :
    readNumber positive (Nat.toDigits 10 n ++ rest) = .ok (wholeNumber positive n, rest) := by
  rcases Nat.eq_zero_or_pos n with rfl | h
  · rw [Nat.toDigits_zero, List.singleton_append, readNumber, if_pos rfl, ends.startsWithDigit]
    exact readAfterWhole_of_ends ends positive 0
  · obtain ⟨c, digits, text, nonzero⟩ := exists_toDigits h
    have all : ∀ d ∈ c :: digits, d.isDigit = true := fun d h =>
      Nat.isDigit_of_mem_toDigits (by omega) (by omega) (text ▸ h)
    have value : Nat.ofDigitChars 10 digits (digitValue c) = n := by
      have := @Nat.ofDigitChars_ten_toDigits n
      rw [text, Nat.ofDigitChars_cons] at this
      simpa [digitValue] using this
    rw [text, List.cons_append, readNumber, if_neg nonzero, if_pos (all c (by simp)),
      readDigits_append (fun d h => all d (by simp [h])) ends (value ▸ fits), value]
    exact readAfterWhole_of_ends ends positive n

end BattleAdvisor.Json
