import BattleAdvisor.Http.Url
import BattleAdvisor.Proofs.FileSystem.Path
import BattleAdvisor.Proofs.Text.Utf8

/-!
# Queries are read back

What the query of an address writes is read back as it was: a text, whatever its characters
(`Form.decodeText_encodeText`), names with values (`Form.decode_encode`), and what is added to a
query behind what it had (`Url.queryPairs_addQuery`).
-/

namespace BattleAdvisor

/-! ## Bytes -/

theorem Text.Hex.value?_upper {n : Nat} (small : n < 16) : value? (upper n) = some n := by
  revert n
  decide

theorem Text.Hex.upper_ne {n : Nat} (small : n < 16) :
    upper n ≠ '+' ∧ upper n ≠ '=' ∧ upper n ≠ '&' := by
  revert n
  decide

namespace Http

namespace Percent

/-- A character that is no percent sign stands for itself. -/
theorem decode_cons {c : Char} (plain : c ≠ '%') (rest : List Char) :
    decode (c :: rest) = String.utf8EncodeChar c ++ decode rest := by
  rw [decode.eq_def]
  split
  next same => cases same
  next same => exact absurd (List.cons.inj same).1 plain
  next same =>
    obtain ⟨rfl, rfl⟩ := List.cons.inj same
    rfl

theorem decode_encodeByte (b : UInt8) (rest : List Char) :
    decode (encodeByte b ++ rest) = b :: decode rest := by
  have high : b.toNat / 16 < 16 := by
    have := b.toNat_lt
    omega
  have low : b.toNat % 16 < 16 := Nat.mod_lt _ (by decide)
  rw [encodeByte, List.cons_append, List.cons_append, List.cons_append, decode,
    Text.Hex.value?_upper high, Text.Hex.value?_upper low]
  dsimp only
  rw [Nat.div_add_mod' b.toNat 16, UInt8.ofNat_toNat]
  rfl

theorem decode_encodeBytes (bytes : Bytes) (rest : List Char) :
    decode (bytes.flatMap encodeByte ++ rest) = bytes ++ decode rest := by
  induction bytes with
  | nil => rfl
  | cons b bytes ih =>
    rw [List.flatMap_cons, List.append_assoc, decode_encodeByte, ih, List.cons_append]

/-- A percent-encoded byte has no character with a meaning of its own in queries. -/
theorem ne_of_mem_encodeChar {c d : Char} (among : d ∈ encodeChar c) :
    d ≠ '+' ∧ d ≠ '=' ∧ d ≠ '&' := by
  obtain ⟨b, -, among⟩ := List.mem_flatMap.mp among
  have high : b.toNat / 16 < 16 := by
    have := b.toNat_lt
    omega
  have low : b.toNat % 16 < 16 := Nat.mod_lt _ (by decide)
  simp only [encodeByte, List.mem_cons, List.not_mem_nil, or_false] at among
  rcases among with rfl | rfl | rfl
  · decide
  · exact Text.Hex.upper_ne high
  · exact Text.Hex.upper_ne low

end Percent

/-! ## Names and values -/

namespace Form

/-- The written form of a character. -/
def encodeChar (c : Char) : List Char :=
  if c = ' ' then ['+'] else if isPlain c then [c] else Percent.encodeChar c

theorem encodeText_eq (text : String) : encodeText text = text.toList.flatMap encodeChar := rfl

theorem ne_of_isPlain {c : Char} (plain : isPlain c = true) :
    c ≠ '%' ∧ c ≠ '+' ∧ c ≠ '=' ∧ c ≠ '&' := by
  refine ⟨?_, ?_, ?_, ?_⟩ <;> rintro rfl <;> exact absurd plain (by decide)

/-- What is written holds no sign that separates names and values. -/
theorem ne_of_mem_encodeText {text : String} {d : Char} (among : d ∈ encodeText text) :
    d ≠ '=' ∧ d ≠ '&' := by
  rw [encodeText_eq] at among
  obtain ⟨c, -, among⟩ := List.mem_flatMap.mp among
  unfold encodeChar at among
  split at among
  · obtain rfl := List.mem_singleton.mp among
    decide
  · split at among
    next plain =>
      obtain rfl := List.mem_singleton.mp among
      exact (ne_of_isPlain plain).2.2
    next => exact (Percent.ne_of_mem_encodeChar among).2

theorem encodeChar_ne_nil (c : Char) : encodeChar c ≠ [] := by
  unfold encodeChar
  split
  · exact List.cons_ne_nil _ _
  · split
    · exact List.cons_ne_nil _ _
    · have some : 0 < (String.utf8EncodeChar c).length := by
        rw [String.length_utf8EncodeChar]
        exact c.utf8Size_pos
      obtain ⟨b, bytes, same⟩ := List.exists_cons_of_length_pos some
      simp [Percent.encodeChar, Percent.encodeByte, same]

/-- A written character, its plus sign read as a space, writes the bytes of the character. -/
theorem decode_encodeChar (c : Char) (rest : List Char) :
    Percent.decode ((encodeChar c).map (fun d => if d = '+' then ' ' else d) ++ rest) =
      String.utf8EncodeChar c ++ Percent.decode rest := by
  unfold encodeChar
  split
  next space =>
    subst space
    exact Percent.decode_cons (by decide) rest
  next =>
    split
    next plain =>
      obtain ⟨ne_percent, ne_plus, -⟩ := ne_of_isPlain plain
      rw [List.map_singleton, if_neg ne_plus]
      exact Percent.decode_cons ne_percent rest
    next =>
      have same : (Percent.encodeChar c).map (fun d => if d = '+' then ' ' else d) =
          Percent.encodeChar c := by
        refine (List.map_congr_left fun d among => ?_).trans (List.map_id _)
        rw [if_neg (Percent.ne_of_mem_encodeChar among).1]
        rfl
      rw [same]
      exact Percent.decode_encodeBytes _ rest

/-- **A text is read back from its written form.** -/
theorem decodeText_encodeText (text : String) : decodeText (encodeText text) = text := by
  have read (chars : List Char) : Percent.decode
      ((chars.flatMap encodeChar).map fun d => if d = '+' then ' ' else d) =
        chars.flatMap String.utf8EncodeChar := by
    induction chars with
    | nil => rfl
    | cons c chars ih => rw [List.flatMap_cons, List.map_append, decode_encodeChar, ih,
        List.flatMap_cons]
  rw [decodeText, encodeText_eq, read]
  exact Utf8.lossy_encode text

/-- The separator ends the name, and the value follows it. -/
theorem decodePair_encodePair (pair : String × String) : decodePair (encodePair pair) = pair := by
  have inside : ∀ d ∈ encodeText pair.1, decide (d ≠ '=') = true := fun d among =>
    decide_eq_true (ne_of_mem_encodeText among).1
  rw [decodePair, encodePair, List.takeWhile_append_of_pos inside,
    List.dropWhile_append_of_pos inside, List.takeWhile_cons_of_neg (by decide),
    List.dropWhile_cons_of_neg (by decide), List.append_nil, List.drop_one, List.tail_cons,
    decodeText_encodeText, decodeText_encodeText]

/-! ## Queries -/

theorem and_notMem_encodePair (pair : String × String) :
    ∀ d ∈ encodePair pair, decide (d = '&') = false := by
  intro d among
  rw [decide_eq_false_iff_not]
  rcases List.mem_append.mp among with among | among
  · exact (ne_of_mem_encodeText among).2
  · rcases List.mem_cons.mp among with rfl | among
    · decide
    · exact (ne_of_mem_encodeText among).2

theorem encode_cons (pair : String × String) {pairs : List (String × String)}
    (further : pairs ≠ []) : encode (pair :: pairs) = encodePair pair ++ '&' :: encode pairs := by
  obtain ⟨next, rest, rfl⟩ := List.exists_cons_of_ne_nil further
  simp [encode]

theorem encode_ne_nil {pairs : List (String × String)} (some : pairs ≠ []) : encode pairs ≠ [] := by
  obtain ⟨pair, rest, rfl⟩ := List.exists_cons_of_ne_nil some
  by_cases further : rest = []
  · subst further
    simp [encode, encodePair]
  · rw [encode_cons pair further]
    simp

/-- Two queries with the separator between them are read one after the other. -/
theorem decode_append (first second : List Char) :
    decode (first ++ '&' :: second) = decode first ++ decode second := by
  rw [decode, Text.split, Text.splitFrom_append [] first (by decide), List.filter_append,
    List.map_append]
  rfl

theorem decode_encodePair (pair : String × String) : decode (encodePair pair) = [pair] := by
  have given : encodePair pair ≠ [] := by simp [encodePair]
  rw [decode, Text.split, Text.splitFrom_of_none [] (and_notMem_encodePair pair),
    List.reverse_nil, List.nil_append, List.filter_cons_of_pos (by simpa using given),
    List.filter_nil, List.map_singleton, decodePair_encodePair]

/-- What is written is not shorter than a value. -/
theorem length_le_encode {pairs : List (String × String)} {pair : String × String}
    (among : pair ∈ pairs) : pair.2.length ≤ (encode pairs).length := by
  have text : pair.2.length ≤ (encodeText pair.2).length := by
    rw [encodeText_eq, List.length_flatMap, ← String.length_toList]
    induction pair.2.toList with
    | nil => exact Nat.zero_le _
    | cons c rest ih =>
      have := List.length_pos_iff.mpr (encodeChar_ne_nil c)
      simp only [List.map_cons, List.sum_cons, List.length_cons]
      omega
  have member : (encodePair pair).length ≤ (encode pairs).length := by
    induction pairs with
    | nil => cases among
    | cons first rest ih =>
      by_cases further : rest = []
      · subst further
        obtain rfl := List.mem_singleton.mp among
        simp [encode]
      · rw [encode_cons first further, List.length_append, List.length_cons]
        rcases List.mem_cons.mp among with rfl | among
        · omega
        · have := ih among
          omega
  simp only [encodePair, List.length_append, List.length_cons] at member
  omega

/-- **Names with values are read back from a query.** -/
theorem decode_encode (pairs : List (String × String)) : decode (encode pairs) = pairs := by
  induction pairs with
  | nil => rfl
  | cons pair rest ih =>
    by_cases further : rest = []
    · subst further
      have single : encode [pair] = encodePair pair := by simp [encode]
      rw [single, decode_encodePair]
    · rw [encode_cons pair further, decode_append, decode_encodePair, ih, List.singleton_append]

end Form

namespace Url

/-- What a query is after something has been added to it. -/
theorem query_addQuery (url : Url) (pairs : List (String × String)) :
    (url.addQuery pairs).query?.getD [] =
      if url.query?.getD [] = [] ∨ Form.encode pairs = [] then
        url.query?.getD [] ++ Form.encode pairs
      else url.query?.getD [] ++ '&' :: Form.encode pairs := by
  have kept (query : List Char) : (if query = [] then none else some query).getD [] = query := by
    split
    next empty => rw [empty]; rfl
    next => rfl
  exact kept _

/-- **What is added to a query is read behind what the address had.** -/
theorem queryPairs_addQuery (url : Url) (pairs : List (String × String)) :
    (url.addQuery pairs).queryPairs = url.queryPairs ++ pairs := by
  rw [queryPairs, queryPairs, query_addQuery]
  by_cases empty : url.query?.getD [] = []
  · rw [if_pos (.inl empty), empty]
    exact Form.decode_encode pairs
  · by_cases nothing : pairs = []
    · subst nothing
      rw [if_pos (.inr rfl), List.append_nil]
      exact congrArg Form.decode (List.append_nil _)
    · rw [if_neg (not_or.mpr ⟨empty, Form.encode_ne_nil nothing⟩), Form.decode_append,
        Form.decode_encode]

/-- The query is part of an address, which has at least one byte for each of its characters. -/
theorem length_query_le (url : Url) :
    (url.query?.getD []).length ≤ url.text.utf8ByteSize := by
  refine Nat.le_trans ?_ (Utf8.length_le_utf8ByteSize _)
  cases url.query? with
  | none => exact Nat.zero_le _
  | some query =>
    simp only [Option.getD_some, List.length_append, List.length_cons]
    omega

/-- An address becomes too long if a value is added to it that is too long. -/
theorem not_isShort_addQuery (url : Url) {pairs : List (String × String)} {pair : String × String}
    (among : pair ∈ pairs) (long : textLimit < pair.2.length) :
    (url.addQuery pairs).isShort = false := by
  have query : (Form.encode pairs).length ≤ ((url.addQuery pairs).query?.getD []).length := by
    rw [query_addQuery]
    split <;> (simp only [List.length_append, List.length_cons]; omega)
  have size := (url.addQuery pairs).length_query_le
  have value := Form.length_le_encode among
  exact decide_eq_false (by omega)

end Url

end Http

end BattleAdvisor
