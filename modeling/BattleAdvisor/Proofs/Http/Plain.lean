import BattleAdvisor.Http.Plain
import BattleAdvisor.Proofs.Http.Client
import BattleAdvisor.Proofs.Http.Query

/-!
# The plain library is lawful

The library that needs no tables keeps to what is relied on: it reads names of small letters as they
stand, and texts as they are.
-/

namespace BattleAdvisor.Http

namespace IsPlainName

variable {name : List Char}

/-- What holds of each small letter holds of all characters of a name. -/
theorem forall_mem (plain : IsPlainName name) {p : Char → Prop}
    (each : ∀ n < 26, p (Char.ofNat (97 + n))) : ∀ c ∈ name, p c := by
  intro c among
  have bounds : 97 ≤ c.toNat ∧ c.toNat ≤ 122 := by
    have lower : ('a'.val ≤ c.val && c.val ≤ 'z'.val) = true :=
      List.all_eq_true.mp plain.2 c among
    simpa [UInt32.le_iff_toNat_le, ← Char.toNat_val] using lower
  have letter := each (c.toNat - 97) (by omega)
  rwa [show 97 + (c.toNat - 97) = c.toNat by omega, Char.ofNat_toNat] at letter

/-- Nothing in a name is written in percent encoding. -/
theorem decode_eq {text : List Char} (plain : ∀ c ∈ text, c ≠ '%') :
    Percent.decode text = Utf8.encodeChars text := by
  induction text with
  | nil => rfl
  | cons c rest ih =>
    obtain ⟨first, others⟩ := List.forall_mem_cons.mp plain
    rw [Percent.decode_cons first, ih others]
    rfl

/-- A name is in lower case. -/
theorem lossy_eq (plain : IsPlainName name) :
    (Utf8.lossy (Percent.decode name)).toList.map Char.toLower = name := by
  have text : Utf8.lossy (Percent.decode name) = String.ofList name := by
    rw [decode_eq (plain.forall_mem (by decide)), ← Utf8.lossy_encode (String.ofList name),
      Utf8.encode, String.toList_ofList]
  rw [text, String.toList_ofList]
  exact (List.map_congr_left (plain.forall_mem (by decide))).trans (List.map_id name)

/-- A name has one part. -/
theorem parts_eq (plain : IsPlainName name) : Host.parts name = [name] := by
  have undivided : Text.split (· = '.') name = [name] :=
    Text.splitFrom_of_none [] (plain.forall_mem (by decide))
  rw [Host.parts, undivided]
  rfl

/-- No number begins with a small letter. -/
theorem partValue?_eq (plain : IsPlainName name) : Host.partValue? name = none := by
  obtain ⟨c, rest, rfl⟩ := List.exists_cons_of_ne_nil plain.1
  have zero : ∀ d ∈ c :: rest, d ≠ '0' := plain.forall_mem (by decide)
  have large : ∀ d ∈ c :: rest, ∀ n ∈ Text.Hex.value? d, ¬ n < 10 := plain.forall_mem (by decide)
  rw [List.forall_mem_cons] at zero large
  have digits : Host.partValue? (c :: rest) = Host.digitsValue? 10 0 (c :: rest) := by
    unfold Host.partValue?
    split <;> simp_all
  rw [digits, Host.digitsValue?]
  cases value : Text.Hex.value? c with
  | none => rfl
  | some n => exact if_neg (large.1 n value)

/-- A name does not end in a number. -/
theorem endsInNumber_eq (plain : IsPlainName name) : Host.endsInNumber name = false := by
  obtain ⟨c, rest, rfl⟩ := List.exists_cons_of_ne_nil plain.1
  have letter : ∀ d ∈ c :: rest, d.isDigit = false := plain.forall_mem (by decide)
  simp [Host.endsInNumber, plain.parts_eq, plain.partValue?_eq, letter c List.mem_cons_self]

theorem read_eq (plain : IsPlainName name) : Host.read name = .ok name := by
  have ascii : (name.any fun c => 0x80 ≤ c.toNat) = false :=
    List.any_eq_false.mpr (plain.forall_mem (by decide))
  have allowed : name.any Host.isForbiddenInName = false :=
    List.any_eq_false.mpr (plain.forall_mem (by decide))
  have bracket : ∀ c ∈ name, c ≠ '[' := plain.forall_mem (by decide)
  unfold Host.read
  split
  next rest => exact absurd rfl (bracket '[' List.mem_cons_self)
  next =>
    simp only [plain.lossy_eq, plain.endsInNumber_eq, ascii, allowed, if_neg plain.1,
      Bool.false_eq_true, if_false]

theorem all_isAdmitted (plain : IsPlainName name) : name.all Host.isAdmitted = true :=
  List.all_eq_true.mpr (plain.forall_mem (by decide))

end IsPlainName

instance plainLibrary_lawful : LawfulLibrary where
  read_plain plain := plain.read_eq
  admits_plain plain := plain.all_isAdmitted
  onward_final _ := rfl
  onward_keeps follows := nomatch follows
  text_encode _ body _ := (congrArg Utf8.lossy body).trans (Utf8.lossy_encode _)
  decode_encode format := readsTexts_decodeText format.parse

end BattleAdvisor.Http
