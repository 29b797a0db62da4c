import BattleAdvisor.Text.Utf8
import Mathlib.Data.String.Basic
import Mathlib.Tactic.SplitIfs

/-!
# Encoded text can be read

The bytes of a text take the machine of `Text.Utf8` from one place between characters to the next,
and complete the characters of the text on the way. Both readings of the bytes give the text back:

* `decode?_encode`: the bytes of a text encode it.
* `lossy_encode`: nothing of it is replaced.

Other bytes encode no text: where the machine goes from one place between characters to the next
without a break, it has seen the bytes of one character (`State.exists_char`), so that a text has
one encoding (`decode?_eq_some`).

The bytes of texts have the same order as the texts: `encode_lt`.
-/

namespace BattleAdvisor.Utf8

theorem toNat_ofNat {byte : Nat} (small : byte < 256) : (UInt8.ofNat byte).toNat = byte := by
  rw [UInt8.toNat_ofNat']
  omega

/-- A byte inside a character, in its range. -/
theorem State.step_inside {missing : Nat} {low high : UInt8} {code byte : Nat}
    (small : byte < 256) (least : low.toNat ≤ byte) (greatest : byte ≤ high.toNat) :
    (State.inside missing low high code).step (UInt8.ofNat byte) =
      if missing ≤ 1 then (.between, [some (Char.ofNat (code * 64 + (byte - 0x80)))])
      else (.inside (missing - 1) 0x80 0xBF (code * 64 + (byte - 0x80)), []) := by
  have inRange : low ≤ UInt8.ofNat byte ∧ UInt8.ofNat byte ≤ high := by
    simp only [UInt8.le_iff_toNat_le, toNat_ofNat small]
    omega
  simp only [step, if_pos inRange, toNat_ofNat small]

theorem State.start_of_lead {byte : Nat} {state : State} (small : byte < 256)
    (large : 0x80 ≤ byte) (lead : State.ofLead? (UInt8.ofNat byte) = some state) :
    State.start (UInt8.ofNat byte) = (state, []) := by
  simp only [start, toNat_ofNat small, lead]
  rw [if_neg (by omega)]

/-- A byte between two characters is looked at as a first byte. -/
theorem State.run_cons (state : State) (done : List (Option Char)) (b : UInt8) (rest : Bytes) :
    state.run done (b :: rest) = (state.step b).1.run ((state.step b).2.reverse ++ done) rest := rfl

/-- The last byte of a character. -/
theorem State.run_last {low high : UInt8} {code byte : Nat} {done : List (Option Char)}
    {rest : Bytes} (small : byte < 256) (least : low.toNat ≤ byte) (greatest : byte ≤ high.toNat) :
    (State.inside 1 low high code).run done (UInt8.ofNat byte :: rest) =
      State.between.run (some (Char.ofNat (code * 64 + (byte - 0x80))) :: done) rest := by
  rw [run_cons, step_inside small least greatest]
  rfl

/-- A byte inside a character that is not its last one. -/
theorem State.run_inside {missing : Nat} {low high : UInt8} {code byte : Nat}
    {done : List (Option Char)} {rest : Bytes} (small : byte < 256) (least : low.toNat ≤ byte)
    (greatest : byte ≤ high.toNat) :
    (State.inside (missing + 2) low high code).run done (UInt8.ofNat byte :: rest) =
      (State.inside (missing + 1) 0x80 0xBF (code * 64 + (byte - 0x80))).run done rest := by
  rw [run_cons, step_inside small least greatest]
  rfl

/-- The first byte of a character of several bytes. -/
theorem State.run_lead {byte : Nat} {state : State} {done : List (Option Char)} {rest : Bytes}
    (small : byte < 256) (large : 0x80 ≤ byte)
    (lead : State.ofLead? (UInt8.ofNat byte) = some state) :
    State.between.run done (UInt8.ofNat byte :: rest) = state.run done rest := by
  rw [run_cons]
  simp only [step, start_of_lead small large lead]
  rfl

theorem State.run_two {v : Nat} (large : 0x80 ≤ v) (small : v ≤ 0x7FF)
    (done : List (Option Char)) (rest : Bytes) :
    State.between.run done
        (UInt8.ofNat (v / 64 % 32 + 0xC0) :: UInt8.ofNat (v % 64 + 0x80) :: rest) =
      State.between.run (some (Char.ofNat v) :: done) rest := by
  have lead : State.ofLead? (UInt8.ofNat (v / 64 % 32 + 0xC0)) =
      some (.inside 1 0x80 0xBF (v / 64 % 32)) := by
    simp only [ofLead?, toNat_ofNat (show v / 64 % 32 + 0xC0 < 256 by omega)]
    rw [if_pos (by omega), Nat.add_sub_cancel]
  have whole : v / 64 % 32 * 64 + (v % 64 + 0x80 - 0x80) = v := by omega
  rw [run_lead (by omega) (by omega) lead,
    run_last (by omega) (by simp) (by simp; omega), whole]

theorem State.run_three {v : Nat} (large : 0x800 ≤ v) (small : v ≤ 0xFFFF)
    (valid : v < 0xD800 ∨ 0xDFFF < v) (done : List (Option Char)) (rest : Bytes) :
    State.between.run done
        (UInt8.ofNat (v / 4096 % 16 + 0xE0) :: UInt8.ofNat (v / 64 % 64 + 0x80) ::
          UInt8.ofNat (v % 64 + 0x80) :: rest) =
      State.between.run (some (Char.ofNat v) :: done) rest := by
  obtain ⟨low, high, lead, least, greatest⟩ : ∃ low high : UInt8,
      State.ofLead? (UInt8.ofNat (v / 4096 % 16 + 0xE0)) =
        some (.inside 2 low high (v / 4096 % 16)) ∧
      low.toNat ≤ v / 64 % 64 + 0x80 ∧ v / 64 % 64 + 0x80 ≤ high.toNat := by
    simp only [ofLead?, toNat_ofNat (show v / 4096 % 16 + 0xE0 < 256 by omega)]
    rw [if_neg (by omega)]
    split_ifs with first surrogates others
    · exact ⟨0xA0, 0xBF, by simp; omega, by simp; omega, by simp; omega⟩
    · exact ⟨0x80, 0x9F, by simp; omega, by simp, by simp; omega⟩
    · exact ⟨0x80, 0xBF, by simp, by simp, by simp; omega⟩
    all_goals omega
  have whole : (v / 4096 % 16 * 64 + (v / 64 % 64 + 0x80 - 0x80)) * 64 +
      (v % 64 + 0x80 - 0x80) = v := by omega
  rw [run_lead (by omega) (by omega) lead, run_inside (by omega) least greatest,
    run_last (by omega) (by simp) (by simp; omega), whole]

theorem State.run_four {v : Nat} (large : 0x10000 ≤ v) (small : v < 0x110000)
    (done : List (Option Char)) (rest : Bytes) :
    State.between.run done
        (UInt8.ofNat (v / 262144 % 8 + 0xF0) :: UInt8.ofNat (v / 4096 % 64 + 0x80) ::
          UInt8.ofNat (v / 64 % 64 + 0x80) :: UInt8.ofNat (v % 64 + 0x80) :: rest) =
      State.between.run (some (Char.ofNat v) :: done) rest := by
  obtain ⟨low, high, lead, least, greatest⟩ : ∃ low high : UInt8,
      State.ofLead? (UInt8.ofNat (v / 262144 % 8 + 0xF0)) =
        some (.inside 3 low high (v / 262144 % 8)) ∧
      low.toNat ≤ v / 4096 % 64 + 0x80 ∧ v / 4096 % 64 + 0x80 ≤ high.toNat := by
    simp only [ofLead?, toNat_ofNat (show v / 262144 % 8 + 0xF0 < 256 by omega)]
    rw [if_neg (by omega), if_neg (by omega), if_neg (by omega), if_neg (by omega)]
    split_ifs with first others last
    · exact ⟨0x90, 0xBF, by simp; omega, by simp; omega, by simp; omega⟩
    · exact ⟨0x80, 0xBF, by simp, by simp, by simp; omega⟩
    · exact ⟨0x80, 0x8F, by simp; omega, by simp, by simp; omega⟩
    all_goals omega
  have whole : ((v / 262144 % 8 * 64 + (v / 4096 % 64 + 0x80 - 0x80)) * 64 +
      (v / 64 % 64 + 0x80 - 0x80)) * 64 + (v % 64 + 0x80 - 0x80) = v := by omega
  rw [run_lead (by omega) (by omega) lead, run_inside (by omega) least greatest,
    run_inside (by omega) (by simp) (by simp; omega),
    run_last (by omega) (by simp) (by simp; omega), whole]

/-- The bytes of a character complete it. -/
theorem State.run_encodeChar (c : Char) (done : List (Option Char)) (rest : Bytes) :
    State.between.run done (String.utf8EncodeChar c ++ rest) =
      State.between.run (some c :: done) rest := by
  have valid := c.valid
  have back : Char.ofNat c.val.toNat = c := Char.ofNat_toNat c
  simp only [UInt32.isValidChar, Nat.isValidChar] at valid
  simp only [String.utf8EncodeChar]
  generalize c.val.toNat = v at *
  subst back
  split_ifs with one two three
  · rw [List.singleton_append, run_cons]
    simp only [step, start, toNat_ofNat (show v < 256 by omega), if_pos (show v < 0x80 by omega)]
    rfl
  · exact run_two (by omega) two done rest
  · exact run_three (by omega) three (by omega) done rest
  · exact run_four (by omega) (by omega) done rest

theorem State.run_encodeChars (text : List Char) (done : List (Option Char)) :
    State.between.run done (encodeChars text) = done.reverse ++ text.map some := by
  induction text generalizing done with
  | nil => simp [encodeChars, run, finish]
  | cons c rest ih =>
    have := ih (some c :: done)
    simp only [encodeChars, List.flatMap_cons] at this ⊢
    rw [run_encodeChar, this]
    simp

theorem scan_encode (text : String) : scan (encode text) = text.toList.map some := by
  simpa [scan, encode] using State.run_encodeChars text.toList []

@[simp] theorem decode?_encode (text : String) : decode? (encode text) = some text := by
  simp [decode?, scan_encode, Function.comp_def]

@[simp] theorem lossy_encode (text : String) : lossy (encode text) = text := by
  simp [lossy, scan_encode, Function.comp_def]

/-! ## What is read -/

theorem State.run_eq (state : State) (done : List (Option Char)) (bytes : Bytes) :
    state.run done bytes = done.reverse ++ state.run [] bytes := by
  induction bytes generalizing state done with
  | nil => simp [run]
  | cons b rest ih =>
    rw [run_cons, run_cons, ih, ih _ ((state.step b).2.reverse ++ [])]
    simp

/-- A byte, and what follows it. -/
theorem State.run_nil_cons (state : State) (b : UInt8) (rest : Bytes) :
    state.run [] (b :: rest) = (state.step b).2 ++ (state.step b).1.run [] rest := by
  rw [run_cons, run_eq]
  simp

/-- What the first byte of several says about the others. -/
theorem State.ofLead?_eq_some {b : UInt8} {state : State} (lead : State.ofLead? b = some state) :
    (∃ low high, state = .inside 1 low high (b.toNat - 0xC0) ∧
      0xC2 ≤ b.toNat ∧ b.toNat ≤ 0xDF ∧ 0x80 ≤ low.toNat ∧ high.toNat ≤ 0xBF) ∨
    (∃ low high, state = .inside 2 low high (b.toNat - 0xE0) ∧
      0xE0 ≤ b.toNat ∧ b.toNat ≤ 0xEF ∧ 0x80 ≤ low.toNat ∧ high.toNat ≤ 0xBF ∧
      (b.toNat = 0xE0 → 0xA0 ≤ low.toNat) ∧ (b.toNat = 0xED → high.toNat ≤ 0x9F)) ∨
    ∃ low high, state = .inside 3 low high (b.toNat - 0xF0) ∧
      0xF0 ≤ b.toNat ∧ b.toNat ≤ 0xF4 ∧ 0x80 ≤ low.toNat ∧ high.toNat ≤ 0xBF ∧
      (b.toNat = 0xF0 → 0x90 ≤ low.toNat) ∧ (b.toNat = 0xF4 → high.toNat ≤ 0x8F) := by
  simp only [ofLead?] at lead
  split_ifs at lead with two long surrogates three long' four last <;> cases lead
  · exact .inl ⟨_, _, rfl, by omega, by omega, by decide, by decide⟩
  · exact .inr (.inl ⟨_, _, by rw [long], by simp; omega⟩)
  · exact .inr (.inl ⟨_, _, by rw [surrogates], by simp; omega⟩)
  · exact .inr (.inl ⟨_, _, rfl, by simp; omega⟩)
  · exact .inr (.inr ⟨_, _, by rw [long'], by simp; omega⟩)
  · exact .inr (.inr ⟨_, _, rfl, by simp; omega⟩)
  · exact .inr (.inr ⟨_, _, by rw [last], by simp; omega⟩)

theorem val_ofNat {v : Nat} (valid : v.isValidChar) : (Char.ofNat v).val.toNat = v := by
  rw [Char.ofNat, dif_pos valid]
  rfl

theorem encodeChar_one {b : UInt8} (small : b.toNat < 0x80) :
    String.utf8EncodeChar (Char.ofNat b.toNat) = [b] := by
  rw [String.utf8EncodeChar, val_ofNat (.inl (by omega)), if_pos (by omega), UInt8.ofNat_toNat]

theorem encodeChar_two {b₁ b₂ : UInt8} (least : 0xC2 ≤ b₁.toNat) (greatest : b₁.toNat ≤ 0xDF)
    (least₂ : 0x80 ≤ b₂.toNat) (greatest₂ : b₂.toNat ≤ 0xBF) :
    String.utf8EncodeChar (Char.ofNat ((b₁.toNat - 0xC0) * 64 + (b₂.toNat - 0x80))) =
      [b₁, b₂] := by
  obtain ⟨v, whole⟩ : ∃ v, v = (b₁.toNat - 0xC0) * 64 + (b₂.toNat - 0x80) := ⟨_, rfl⟩
  have first : v / 64 % 32 + 0xC0 = b₁.toNat := by omega
  have second : v % 64 + 0x80 = b₂.toNat := by omega
  rw [← whole, String.utf8EncodeChar, val_ofNat (.inl (by omega)), if_neg (by omega),
    if_pos (by omega), first, second, UInt8.ofNat_toNat, UInt8.ofNat_toNat]

theorem encodeChar_three {b₁ b₂ b₃ : UInt8} (least : 0xE0 ≤ b₁.toNat) (greatest : b₁.toNat ≤ 0xEF)
    (least₂ : 0x80 ≤ b₂.toNat) (greatest₂ : b₂.toNat ≤ 0xBF)
    (long : b₁.toNat = 0xE0 → 0xA0 ≤ b₂.toNat) (valid : b₁.toNat = 0xED → b₂.toNat ≤ 0x9F)
    (least₃ : 0x80 ≤ b₃.toNat) (greatest₃ : b₃.toNat ≤ 0xBF) :
    String.utf8EncodeChar (Char.ofNat (((b₁.toNat - 0xE0) * 64 + (b₂.toNat - 0x80)) * 64 +
      (b₃.toNat - 0x80))) = [b₁, b₂, b₃] := by
  obtain ⟨v, whole⟩ : ∃ v, v = ((b₁.toNat - 0xE0) * 64 + (b₂.toNat - 0x80)) * 64 +
    (b₃.toNat - 0x80) := ⟨_, rfl⟩
  have first : v / 4096 % 16 + 0xE0 = b₁.toNat := by omega
  have second : v / 64 % 64 + 0x80 = b₂.toNat := by omega
  have third : v % 64 + 0x80 = b₃.toNat := by omega
  have valid : v.isValidChar := by
    rw [Nat.isValidChar]
    omega
  rw [← whole, String.utf8EncodeChar, val_ofNat valid, if_neg (by omega), if_neg (by omega),
    if_pos (by omega), first, second, third]
  simp only [UInt8.ofNat_toNat]

theorem encodeChar_four {b₁ b₂ b₃ b₄ : UInt8} (least : 0xF0 ≤ b₁.toNat)
    (greatest : b₁.toNat ≤ 0xF4) (least₂ : 0x80 ≤ b₂.toNat) (greatest₂ : b₂.toNat ≤ 0xBF)
    (long : b₁.toNat = 0xF0 → 0x90 ≤ b₂.toNat) (valid : b₁.toNat = 0xF4 → b₂.toNat ≤ 0x8F)
    (least₃ : 0x80 ≤ b₃.toNat) (greatest₃ : b₃.toNat ≤ 0xBF) (least₄ : 0x80 ≤ b₄.toNat)
    (greatest₄ : b₄.toNat ≤ 0xBF) :
    String.utf8EncodeChar (Char.ofNat ((((b₁.toNat - 0xF0) * 64 + (b₂.toNat - 0x80)) * 64 +
      (b₃.toNat - 0x80)) * 64 + (b₄.toNat - 0x80))) = [b₁, b₂, b₃, b₄] := by
  obtain ⟨v, whole⟩ : ∃ v, v = (((b₁.toNat - 0xF0) * 64 + (b₂.toNat - 0x80)) * 64 +
    (b₃.toNat - 0x80)) * 64 + (b₄.toNat - 0x80) := ⟨_, rfl⟩
  have first : v / 262144 % 8 + 0xF0 = b₁.toNat := by omega
  have second : v / 4096 % 64 + 0x80 = b₂.toNat := by omega
  have third : v / 64 % 64 + 0x80 = b₃.toNat := by omega
  have fourth : v % 64 + 0x80 = b₄.toNat := by omega
  have valid : v.isValidChar := by
    rw [Nat.isValidChar]
    omega
  rw [← whole, String.utf8EncodeChar, val_ofNat valid, if_neg (by omega), if_neg (by omega),
    if_neg (by omega), first, second, third, fourth]
  simp only [UInt8.ofNat_toNat]

/-- Inside a character the encoding goes on with a byte in the range, or it breaks. -/
theorem State.exists_byte {missing code : Nat} {low high : UInt8} {bytes : Bytes}
    (whole : ∀ c ∈ (State.inside missing low high code).run [] bytes, c.isSome = true) :
    ∃ b rest, bytes = b :: rest ∧ low.toNat ≤ b.toNat ∧ b.toNat ≤ high.toNat ∧
      (State.inside missing low high code).run [] bytes =
        if missing ≤ 1 then
          some (Char.ofNat (code * 64 + (b.toNat - 0x80))) :: State.between.run [] rest
        else (State.inside (missing - 1) 0x80 0xBF (code * 64 + (b.toNat - 0x80))).run [] rest := by
  cases bytes with
  | nil => simp [run, finish] at whole
  | cons b rest =>
    rw [run_nil_cons, step] at whole ⊢
    by_cases inRange : low ≤ b ∧ b ≤ high
    · refine ⟨b, rest, rfl, UInt8.le_iff_toNat_le.mp inRange.1, UInt8.le_iff_toNat_le.mp inRange.2,
        ?_⟩
      rw [if_pos inRange]
      split <;> rfl
    · simp [inRange] at whole

/-- A byte between two characters begins the encoding of the next one, or it breaks. -/
theorem State.exists_char {b : UInt8} {rest : Bytes}
    (whole : ∀ c ∈ State.between.run [] (b :: rest), c.isSome = true) :
    ∃ c later, b :: rest = String.utf8EncodeChar c ++ later ∧
      State.between.run [] (b :: rest) = some c :: State.between.run [] later := by
  rw [run_nil_cons, step, start] at whole ⊢
  by_cases small : b.toNat < 0x80
  · rw [if_pos small]
    exact ⟨_, rest, by rw [encodeChar_one small]; rfl, rfl⟩
  rw [if_neg small] at whole ⊢
  cases lead : State.ofLead? b with
  | none => simp [lead] at whole
  | some state =>
    rw [lead] at whole
    simp only [List.nil_append] at whole ⊢
    obtain ⟨low, high, rfl, least, greatest, bounds⟩ | ⟨low, high, rfl, least, greatest, bounds⟩ |
      ⟨low, high, rfl, least, greatest, bounds⟩ := ofLead?_eq_some lead
    · obtain ⟨b₂, rest, rfl, least₂, greatest₂, read⟩ := exists_byte whole
      refine ⟨_, rest, ?_, read⟩
      exact congrArg (· ++ rest) (encodeChar_two least greatest (by omega) (by omega)).symm
    · obtain ⟨b₂, rest, rfl, least₂, greatest₂, read⟩ := exists_byte whole
      rw [read, if_neg (by decide)] at whole ⊢
      obtain ⟨b₃, rest, rfl, least₃, greatest₃, read⟩ := exists_byte whole
      refine ⟨_, rest, ?_, read⟩
      exact congrArg (· ++ rest) (encodeChar_three least greatest (by omega) (by omega) (by omega)
        (by omega) least₃ greatest₃).symm
    · obtain ⟨b₂, rest, rfl, least₂, greatest₂, read⟩ := exists_byte whole
      rw [read, if_neg (by decide)] at whole ⊢
      obtain ⟨b₃, rest, rfl, least₃, greatest₃, read⟩ := exists_byte whole
      rw [read, if_neg (by decide)] at whole ⊢
      obtain ⟨b₄, rest, rfl, least₄, greatest₄, read⟩ := exists_byte whole
      refine ⟨_, rest, ?_, read⟩
      exact congrArg (· ++ rest) (encodeChar_four least greatest (by omega) (by omega) (by omega)
        (by omega) least₃ greatest₃ least₄ greatest₄).symm

/-- Bytes without a break are those of the characters that they complete. -/
theorem eq_encodeChars_of_scan (bytes : Bytes) (whole : ∀ c ∈ scan bytes, c.isSome = true) :
    bytes = encodeChars ((scan bytes).filterMap id) := by
  cases bytes with
  | nil => rfl
  | cons b rest =>
    obtain ⟨c, later, split, read⟩ := State.exists_char whole
    have shorter : later.length < (b :: rest).length := by
      rw [split, List.length_append]
      exact Nat.lt_add_of_pos_left (List.length_pos_iff.mpr String.utf8EncodeChar_ne_nil)
    have behind : ∀ c ∈ scan later, c.isSome = true := by
      intro d among
      apply whole
      rw [scan, read]
      exact List.mem_cons_of_mem _ among
    have others := eq_encodeChars_of_scan later behind
    rw [scan, read, split, List.filterMap_cons_some (rfl : id (some c) = some c), encodeChars,
      List.flatMap_cons]
    exact congrArg (String.utf8EncodeChar c ++ ·) others
termination_by bytes.length

/-- Just the bytes of a text are read as it. -/
theorem decode?_eq_some {bytes : Bytes} {text : String} :
    decode? bytes = some text ↔ bytes = encode text := by
  constructor
  · intro read
    rw [decode?] at read
    split at read
    next whole =>
      rw [← Option.some.inj read, encode, String.toList_ofList]
      exact eq_encodeChars_of_scan bytes (List.all_eq_true.mp whole)
    next => cases read
  · rintro rfl
    exact decode?_encode text

/-! ## Single bytes -/

/-- A byte below 128 stands for the character of its number, and is in no other character. -/
theorem mem_encodeChar_iff {c : Char} {b : UInt8} (small : b.toNat < 0x80) :
    b ∈ String.utf8EncodeChar c ↔ c = Char.ofNat b.toNat := by
  constructor
  · intro among
    have back : Char.ofNat c.val.toNat = c := Char.ofNat_toNat c
    rw [← back]
    congr 1
    simp only [String.utf8EncodeChar] at among
    split_ifs at among <;> simp only [List.mem_cons, List.not_mem_nil, or_false] at among
    · rw [among, toNat_ofNat (by omega)]
    all_goals
      exfalso
      rcases among with rfl | rfl | rfl | rfl <;> rw [toNat_ofNat (by omega)] at small <;> omega
  · rintro rfl
    rw [encodeChar_one small]
    exact List.mem_cons_self

theorem mem_encode_iff {text : String} {b : UInt8} (small : b.toNat < 0x80) :
    b ∈ encode text ↔ Char.ofNat b.toNat ∈ text.toList := by
  simp [encode, encodeChars, List.mem_flatMap, mem_encodeChar_iff small]

/-! ## The order of texts -/

/-- The bytes of a smaller character come first, whatever follows. -/
theorem encodeChar_append_lt {c d : Char} (h : c < d) (rest rest' : Bytes) :
    String.utf8EncodeChar c ++ rest < String.utf8EncodeChar d ++ rest' := by
  have small : d.val.toNat < 0x110000 := by
    have valid := d.valid
    simp only [UInt32.isValidChar, Nat.isValidChar] at valid
    omega
  have before : c.val.toNat < d.val.toNat := h
  -- A byte holds six bits of what is left, so that equal bytes leave the order to the next ones.
  have two (n : Nat) : n / 4096 = n / 64 / 64 := by omega
  have three (n : Nat) : n / 262144 = n / 64 / 64 / 64 := by omega
  simp only [String.utf8EncodeChar, two, three]
  generalize c.val.toNat = v at *
  generalize d.val.toNat = w at *
  split_ifs <;> simp (disch := omega) only [List.cons_append, List.nil_append,
    List.cons_lt_cons_iff, UInt8.lt_iff_toNat_lt, ← UInt8.toNat_inj, toNat_ofNat] <;> omega

theorem encodeChars_lt {text other : List Char} (h : text < other) :
    encodeChars text < encodeChars other := by
  induction h with
  | @nil c rest =>
    obtain ⟨b, bytes, first⟩ := List.exists_cons_of_ne_nil (String.utf8EncodeChar_ne_nil (c := c))
    rw [encodeChars, encodeChars, List.flatMap_cons, first]
    exact .nil
  | @cons c rest rest' _ ih =>
    rw [encodeChars, encodeChars, List.flatMap_cons, List.flatMap_cons]
    exact List.append_left_lt ih
  | @rel c rest d rest' before =>
    rw [encodeChars, encodeChars, List.flatMap_cons, List.flatMap_cons]
    exact encodeChar_append_lt before _ _

/-- Texts and their bytes have the same order. -/
theorem encode_lt {text other : String} (h : text < other) : encode text < encode other :=
  encodeChars_lt h

/-- A text has at least one byte for each of its characters. -/
theorem length_le_utf8ByteSize (chars : List Char) :
    chars.length ≤ (String.ofList chars).utf8ByteSize := by
  rw [String.utf8ByteSize_ofList]
  induction chars with
  | nil => exact Nat.zero_le _
  | cons c rest ih =>
    have := c.utf8Size_pos
    simp only [List.length_cons, String.utf8Len_cons]
    omega

end BattleAdvisor.Utf8

namespace BattleAdvisor.Text

/-- A text of so many letters. -/
def letters (n : Nat) : String := String.ofList (List.replicate n 'a')

@[simp] theorem toList_letters (n : Nat) : (letters n).toList = List.replicate n 'a' :=
  String.toList_ofList

theorem length_letters (n : Nat) : (letters n).length = n := by
  rw [← String.length_toList, toList_letters, List.length_replicate]

theorem letters_ne_empty (n : Nat) : letters (n + 1) ≠ "" := by
  intro empty
  have size := length_letters (n + 1)
  rw [empty] at size
  exact nomatch size

end BattleAdvisor.Text
