import BattleAdvisor.Json.Token

/-!
# Reading values

`Value.parse` reads a text that spells one value, with gaps around it.

The loops over the items of an array and the members of an object are shared with the readers of
records: `readItems` takes the reader of one item, and `readMembers` takes what to do with one
member, given its key and the text behind it. Both are bounded by a number that is at least the
length of the text. A value may open at most `nestingLimit` arrays and objects at once; the reader
of a value recurses on the number that it may still open.
-/

namespace BattleAdvisor.Json

/-! ## Parts of arrays and objects -/

/-- Reads the items of an array behind an item; `done` holds the items so far, last first. -/
def readItemsFrom {α : Type} (item : Reader α) : (bound : Nat) → (done : List α) → Reader (List α)
  | 0, _ => failBefore .endInArray
  | bound + 1, done => fun text =>
    match skipGap text with
    | [] => failBefore .endInArray []
    | c :: rest =>
      if c = ']' then .ok (done.reverse, rest)
      else if c = ',' then
        match skipGap rest with
        | [] => failBefore .endInValue []
        | d :: rest =>
          if d = ']' then failAt .trailingComma (d :: rest)
          else match item (d :: rest) with
            | .error failure => .error failure
            | .ok (x, rest) => readItemsFrom item bound (x :: done) rest
      else failAt .noArrayEnd (c :: rest)

/-- Reads the items of an array behind its opening bracket. -/
def readItems {α : Type} (bound : Nat) (item : Reader α) : Reader (List α) := fun text =>
  match skipGap text with
  | [] => failBefore .endInArray []
  | c :: rest =>
    if c = ']' then .ok ([], rest)
    else match item (c :: rest) with
      | .error failure => .error failure
      | .ok (x, rest) => readItemsFrom item bound [x] rest

/-- Reads the colon behind a key. -/
def readColon : Reader Unit := fun text =>
  match skipGap text with
  | [] => failBefore .endInObject []
  | c :: rest => if c = ':' then .ok ((), rest) else failAt .noColon (c :: rest)

/-- Reads one member behind the opening quote of its key. -/
def readMember {σ : Type} (member : σ → String → Reader σ) (state : σ) : Reader σ := fun text =>
  match readString text with
  | .error failure => .error failure
  | .ok (key, rest) => member state key rest

/-- Reads the members of an object behind a member. -/
def readMembersFrom {σ : Type} (member : σ → String → Reader σ) : (bound : Nat) → σ → Reader σ
  | 0, _ => failBefore .endInObject
  | bound + 1, state => fun text =>
    match skipGap text with
    | [] => failBefore .endInObject []
    | c :: rest =>
      if c = '\x7d' then .ok (state, rest)
      else if c = ',' then
        match skipGap rest with
        | [] => failBefore .endInValue []
        | d :: rest =>
          if d = '"' then
            match readMember member state rest with
            | .error failure => .error failure
            | .ok (state, rest) => readMembersFrom member bound state rest
          else failAt (if d = '\x7d' then .trailingComma else .keyNotString) (d :: rest)
      else failAt .noObjectEnd (c :: rest)

/-- Reads the members of an object behind its opening brace. -/
def readMembers {σ : Type} (bound : Nat) (member : σ → String → Reader σ) (state : σ) :
    Reader σ := fun text =>
  match skipGap text with
  | [] => failBefore .endInObject []
  | c :: rest =>
    if c = '\x7d' then .ok (state, rest)
    else if c = '"' then
      match readMember member state rest with
      | .error failure => .error failure
      | .ok (state, rest) => readMembersFrom member bound state rest
    else failAt .keyNotString (c :: rest)

/-! ## Values -/

/-- The number of arrays and objects that a value may have open at once. -/
def nestingLimit : Nat := 127

/-- Reads the value of a member and puts it among the members so far. -/
def readValueOf (value : Reader Value) (members : Members) (key : String) : Reader Members :=
  fun text =>
    match readColon text with
    | .error failure => .error failure
    | .ok ((), rest) =>
      match value rest with
      | .error failure => .error failure
      | .ok (v, rest) => .ok (members.put key v, rest)

/-- Replaces the value that a reader returns. -/
def Reader.map {α β : Type} (f : α → β) (reader : Reader α) : Reader β := fun text =>
  match reader text with
  | .error failure => .error failure
  | .ok (x, rest) => .ok (f x, rest)

/-- Reads a value after a gap. The reader of the values inside it is given, unless no array and no
object may be opened any more. -/
def readValueAround (bound : Nat) (inner : Option (Reader Value)) : Reader Value := fun text =>
  match skipGap text with
  | [] => failBefore .endInValue []
  | c :: rest =>
    if c = 'n' then (readWord ['u', 'l', 'l']).map (fun _ => .null) rest
    else if c = 't' then (readWord ['r', 'u', 'e']).map (fun _ => .bool true) rest
    else if c = 'f' then (readWord ['a', 'l', 's', 'e']).map (fun _ => .bool false) rest
    else if c = '-' then (readNumber false).map .number rest
    else if c.isDigit then (readNumber true).map .number (c :: rest)
    else if c = '"' then readString.map .string rest
    else if c = '[' then
      match inner with
      | none => failAt .tooDeep (c :: rest)
      | some value => (readItems bound value).map .array rest
    else if c = '\x7b' then
      match inner with
      | none => failAt .tooDeep (c :: rest)
      | some value => (readMembers bound (readValueOf value) []).map .object rest
    else failAt .noValue (c :: rest)

/-- Reads a value, after a gap, that opens at most `depth` arrays and objects at once. -/
def readValue (bound : Nat) : (depth : Nat) → Reader Value
  | 0 => readValueAround bound none
  | depth + 1 => readValueAround bound (some (readValue bound depth))

/-! ## Whole texts -/

/-- Reads a text of which a reader accepts all but a gap at the end. The reader gets a bound for
its loops. -/
def readWhole {α : Type} (reader : (bound : Nat) → Reader α) (text : String) :
    Except ReadError α :=
  let chars := text.toList
  let result : Except Failure α :=
    match reader (chars.length + 1) chars with
    | .error failure => .error failure
    | .ok (x, rest) =>
      match skipGap rest with
      | [] => .ok x
      | c :: rest => failAt .trailingText (c :: rest)
  result.mapError fun failure => failure.locate chars

/-- The value that a text spells. -/
def Value.parse (text : String) : Except ReadError Value :=
  readWhole (fun bound => readValue bound nestingLimit) text

end BattleAdvisor.Json
