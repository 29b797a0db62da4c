import BattleAdvisor.Json.Reader
import Mathlib.Data.List.Forall2

/-!
# The grammar of texts

A `Spelling` is a text of the format together with everything that the grammar leaves open: the
gaps between the tokens, how each character of a string is written, the digits of each number, and
the members of each object in the order of the text, with repeated keys. No other text belongs to
the grammar, so `Spelling.chars` is the grammar, read from the tree to the text.

What is spelled need not be readable as a value. `Spelling.value?` is nothing if an escaped
surrogate has no partner, or if a number is too large for the reader of numbers; otherwise it is
the value, in which the last of several members with one key counts. `Spelling.depth` is the
number of arrays and objects that are open at once.
-/

namespace BattleAdvisor.Json

/-! ## Gaps -/

/-- The space between two tokens. -/
structure Gap where
  chars : List Char
  blank : ∀ c ∈ chars, isGap c = true

/-- No space. -/
def Gap.none : Gap := ⟨[], by simp⟩

/-- Something between two gaps. -/
structure Spaced (α : Type) where
  before : Gap
  core : α
  after : Gap

/-! ## Strings -/

/-- A character of a string, or half a surrogate pair, as it is written. -/
inductive Piece where
  /-- A character that stands for itself. -/
  | plain (c : Char) (allowed : c ≠ '"' ∧ c ≠ '\\' ∧ 0x20 ≤ c.toNat)
  /-- A backslash and a letter that stands for a character. -/
  | escape (letter c : Char) (stands : unescape? letter = some c)
  /-- A backslash, `u`, and four hexadecimal digits. -/
  | code (a b c d : Char) (n : Nat) (stands : hexCode? a b c d = some n)

/-- The text of a piece. -/
def Piece.chars : Piece → List Char
  | .plain c _ => [c]
  | .escape letter _ _ => ['\\', letter]
  | .code a b c d _ _ => ['\\', 'u', a, b, c, d]

/-- The characters that pieces stand for, if each surrogate has its partner. -/
def decode? : List Piece → Option (List Char)
  | [] => some []
  | .plain c _ :: rest => (decode? rest).map (c :: ·)
  | .escape _ c _ :: rest => (decode? rest).map (c :: ·)
  | .code _ _ _ _ n _ :: rest =>
    if isTrailing n then none
    else if isLeading n then
      match rest with
      | .code _ _ _ _ m _ :: rest =>
        if isTrailing m then (decode? rest).map (joinPair n m :: ·) else none
      | _ => none
    else (decode? rest).map (Char.ofNat n :: ·)

/-- The string that pieces spell, if each surrogate has its partner. -/
def Piece.text? (pieces : List Piece) : Option String :=
  (decode? pieces).map String.ofList

/-- Pieces with their quotes. -/
def Piece.quoted (pieces : List Piece) : List Char :=
  '"' :: (pieces.flatMap Piece.chars ++ ['"'])

/-! ## Numbers -/

/-- One or more digits. -/
structure Digits where
  chars : List Char
  nonempty : chars ≠ []
  digits : ∀ c ∈ chars, c.isDigit = true

/-- The exponent of a number. -/
structure Exponent where
  mark : Char
  isMark : mark = 'e' ∨ mark = 'E'
  sign : List Char
  isSign : sign = [] ∨ sign = ['+'] ∨ sign = ['-']
  digits : Digits

/-- A number as it is written. -/
structure Numeral where
  negative : Bool
  whole : Digits
  noLeadingZero : whole.chars.head? = some '0' → whole.chars = ['0']
  fraction? : Option Digits
  exponent? : Option Exponent

/-- A fraction with its point. -/
def fractionChars : Option Digits → List Char
  | none => []
  | some digits => '.' :: digits.chars

/-- An exponent with its mark. -/
def exponentChars : Option Exponent → List Char
  | none => []
  | some exponent => exponent.mark :: (exponent.sign ++ exponent.digits.chars)

namespace Numeral

/-- The text of a number without its sign. -/
def unsigned (n : Numeral) : List Char :=
  n.whole.chars ++ (fractionChars n.fraction? ++ exponentChars n.exponent?)

/-- The text of a number. -/
def chars (n : Numeral) : List Char :=
  (if n.negative then ['-'] else []) ++ n.unsigned

/-- The number, unless the reader of numbers finds it too large. -/
def value? (n : Numeral) : Option Number :=
  match readNumber (!n.negative) n.unsigned with
  | .ok (x, _) => some x
  | .error _ => none

end Numeral

/-! ## Values -/

/-- A value as it is written. An array without items and an object without members have a gap
between their brackets. -/
inductive Spelling where
  | null
  | bool (b : Bool)
  | number (n : Numeral)
  | string (pieces : List Piece)
  | array (gap : Gap) (items : List (Spaced Spelling))
  | object (gap : Gap) (members : List (Spaced (List Piece) × Spaced Spelling))

/-- The members in ascending order of keys, with the last of several values for a key. -/
def Members.gather (members : Members) : Members :=
  members.foldl (fun done member => Members.put member.1 member.2 done) []

namespace Spelling

/-- A key and a value as they are written. -/
abbrev Member := Spaced (List Piece) × Spaced Spelling

mutual

/-- The text of a value. -/
def chars : Spelling → List Char
  | .null => ['n', 'u', 'l', 'l']
  | .bool true => ['t', 'r', 'u', 'e']
  | .bool false => ['f', 'a', 'l', 's', 'e']
  | .number n => n.chars
  | .string pieces => Piece.quoted pieces
  | .array gap [] => '[' :: (gap.chars ++ [']'])
  | .array _ (⟨before, item, after⟩ :: rest) =>
    '[' :: (before.chars ++ (item.chars ++ (after.chars ++ itemsChars rest)))
  | .object gap [] => '\x7b' :: (gap.chars ++ ['\x7d'])
  | .object _ ((⟨front, key, back⟩, ⟨before, value, after⟩) :: rest) =>
    '\x7b' :: (front.chars ++ (Piece.quoted key ++ (back.chars ++ ':' ::
      (before.chars ++ (value.chars ++ (after.chars ++ membersChars rest))))))

/-- The items after the first one, up to the end of the array. -/
def itemsChars : List (Spaced Spelling) → List Char
  | [] => [']']
  | ⟨before, item, after⟩ :: rest =>
    ',' :: (before.chars ++ (item.chars ++ (after.chars ++ itemsChars rest)))

/-- The members after the first one, up to the end of the object. -/
def membersChars : List (Spaced (List Piece) × Spaced Spelling) → List Char
  | [] => ['\x7d']
  | (⟨front, key, back⟩, ⟨before, value, after⟩) :: rest =>
    ',' :: (front.chars ++ (Piece.quoted key ++ (back.chars ++ ':' ::
      (before.chars ++ (value.chars ++ (after.chars ++ membersChars rest))))))

end

mutual

/-- The number of arrays and objects that are open at once. -/
def depth : Spelling → Nat
  | .array _ items => itemsDepth items + 1
  | .object _ members => membersDepth members + 1
  | _ => 0

/-- The number of arrays and objects that are open at once in an item. -/
def itemsDepth : List (Spaced Spelling) → Nat
  | [] => 0
  | ⟨_, item, _⟩ :: rest => max item.depth (itemsDepth rest)

/-- The number of arrays and objects that are open at once in the value of a member. -/
def membersDepth : List (Spaced (List Piece) × Spaced Spelling) → Nat
  | [] => 0
  | (_, ⟨_, value, _⟩) :: rest => max value.depth (membersDepth rest)

end

mutual

/-- The value, if each surrogate has its partner and no number is too large. -/
def value? : Spelling → Option Value
  | .null => some .null
  | .bool b => some (.bool b)
  | .number n => n.value?.map .number
  | .string pieces => (Piece.text? pieces).map .string
  | .array _ items => (itemsValue? items).map .array
  | .object _ members => (membersValue? members).map fun all => .object all.gather

/-- The values of items. -/
def itemsValue? : List (Spaced Spelling) → Option (List Value)
  | [] => some []
  | ⟨_, item, _⟩ :: rest =>
    match item.value?, itemsValue? rest with
    | some value, some values => some (value :: values)
    | _, _ => none

/-- The keys and values of members, in the order of the text. -/
def membersValue? : List (Spaced (List Piece) × Spaced Spelling) → Option Members
  | [] => some []
  | (⟨_, key, _⟩, ⟨_, value, _⟩) :: rest =>
    match Piece.text? key, value.value?, membersValue? rest with
    | some key, some value, some members => some ((key, value) :: members)
    | _, _, _ => none

end

/-- The keys of members, in the order of the text. -/
def keys (members : List Member) : List String :=
  members.filterMap fun member => Piece.text? member.1.core

mutual

/-- The strings in a value at every depth, keys included. -/
def strings : Spelling → List (List Piece)
  | .string pieces => [pieces]
  | .array _ items => itemsStrings items
  | .object _ members => membersStrings members
  | _ => []

/-- The strings in items. -/
def itemsStrings : List (Spaced Spelling) → List (List Piece)
  | [] => []
  | ⟨_, item, _⟩ :: rest => item.strings ++ itemsStrings rest

/-- The strings in members. -/
def membersStrings : List (Spaced (List Piece) × Spaced Spelling) → List (List Piece)
  | [] => []
  | (⟨_, key, _⟩, ⟨_, value, _⟩) :: rest => key :: (value.strings ++ membersStrings rest)

end

mutual

/-- The numbers in a value at every depth. -/
def numerals : Spelling → List Numeral
  | .number n => [n]
  | .array _ items => itemsNumerals items
  | .object _ members => membersNumerals members
  | _ => []

/-- The numbers in items. -/
def itemsNumerals : List (Spaced Spelling) → List Numeral
  | [] => []
  | ⟨_, item, _⟩ :: rest => item.numerals ++ itemsNumerals rest

/-- The numbers in members. -/
def membersNumerals : List (Spaced (List Piece) × Spaced Spelling) → List Numeral
  | [] => []
  | (_, ⟨_, value, _⟩) :: rest => value.numerals ++ membersNumerals rest

end

/-- What is spelled can be read: it does not open too many arrays and objects at once, each
surrogate has its partner, and no number is too large. -/
structure Readable (spelling : Spelling) : Prop where
  shallow : spelling.depth ≤ nestingLimit
  paired : ∀ pieces ∈ spelling.strings, decode? pieces ≠ none
  inRange : ∀ n ∈ spelling.numerals, n.value? ≠ none

/-- What holds of a value if it holds of its parts holds of all values. -/
@[elab_as_elim, induction_eliminator]
theorem induct {motive : Spelling → Prop} (null : motive .null) (bool : ∀ b, motive (.bool b))
    (number : ∀ n, motive (.number n)) (string : ∀ pieces, motive (.string pieces))
    (array : ∀ gap items, (∀ item ∈ items, motive item.core) → motive (.array gap items))
    (object : ∀ gap members, (∀ member ∈ members, motive member.2.core) →
      motive (.object gap members)) (spelling : Spelling) : motive spelling :=
  match spelling with
  | .null => null
  | .bool b => bool b
  | .number n => number n
  | .string pieces => string pieces
  | .array gap items => array gap items (ofItems items)
  | .object gap members => object gap members (ofMembers members)
where
  ofItems : ∀ items : List (Spaced Spelling), ∀ item ∈ items, motive item.core
    | [] => by simp
    | ⟨_, item, _⟩ :: rest =>
      List.forall_mem_cons.mpr ⟨induct null bool number string array object item, ofItems rest⟩
  ofMembers : ∀ members : List Member, ∀ member ∈ members, motive member.2.core
    | [] => by simp
    | (_, ⟨_, value, _⟩) :: rest =>
      List.forall_mem_cons.mpr ⟨induct null bool number string array object value, ofMembers rest⟩

end Spelling

/-- The text spells this, with gaps around it. -/
def Spells (text : String) (spelling : Spelling) : Prop :=
  ∃ before after : Gap, text.toList = before.chars ++ (spelling.chars ++ after.chars)

end BattleAdvisor.Json
