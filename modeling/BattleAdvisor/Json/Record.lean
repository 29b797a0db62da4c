import BattleAdvisor.Json.Skip

/-!
# Records

A record is written as an object with one member for each field, in the order of the fields. It is
read from an object, in which members may come in any order and unknown ones are passed over, or
from an array of the fields' contents in their order, which may end early.

A format describes a type of records by a blank record, which holds the contents of fields that are
left out, and by its fields: for each the key, how its content is read and written, how it is got
from a record and set in one, and whether it may be left out.
-/

namespace BattleAdvisor.Json

/-- Whether a field may be left out. -/
inductive Presence where
  /-- It may not. -/
  | required
  /-- It may be left out of an object, but an array has to reach it. -/
  | reached
  /-- It may be left out. -/
  | optional
  deriving DecidableEq, Repr

/-- A field of records of a type. -/
structure Field (α : Type) where
  key : String
  presence : Presence
  Content : Type
  /-- Reads the content, in a text whose length is at most the bound. -/
  read : (bound : Nat) → Reader Content
  write : Content → Value
  get : α → Content
  set : Content → α → α

/-- How records of a type are read and written. -/
structure RecordFormat (α : Type) where
  name : String
  /-- Holds the contents of fields that are left out. -/
  blank : α
  fields : List (Field α)

/-! ## Contents -/

/-- Fails at a value of a wrong kind: behind it if it has no parts, and in front of it if it has. -/
def failMistyped {α : Type} (wanted : String) : List Char → Except Failure α
  | [] => failBefore .endInValue []
  | c :: rest =>
    let found : Except Failure (Found × List Char) :=
      if c = 'n' then (readWord ['u', 'l', 'l']).map (fun _ => .null) rest
      else if c = 't' then (readWord ['r', 'u', 'e']).map (fun _ => .bool true) rest
      else if c = 'f' then (readWord ['a', 'l', 's', 'e']).map (fun _ => .bool false) rest
      else if c = '-' then (readNumber false).map foundNumber rest
      else if c.isDigit then (readNumber true).map foundNumber (c :: rest)
      else if c = '"' then readString.map .string rest
      else if c = '[' then .ok (.sequence, c :: rest)
      else if c = '\x7b' then .ok (.map, c :: rest)
      else failAt .noValue (c :: rest)
    match found with
    | .error failure => .error failure
    | .ok (found, rest) => failBefore (.mistyped found wanted) rest
where
  /-- A number where something else was wanted. -/
  foundNumber : Number → Found
    | .integer n => .integer n
    | .float x => .float x

/-- Reads a string after a gap. -/
def readText : Reader String := fun text =>
  match skipGap text with
  | '"' :: rest => readString rest
  | text => failMistyped "a string" text

/-- The kind of word that counts are read as. -/
def countType : String := "u64"

/-- Takes a number as a count. -/
def asCount (number : Number) : Reader Nat := fun rest =>
  match number with
  | .integer n =>
    if n < 0 then failBefore (.unfit n countType) rest else .ok (n.toNat, rest)
  | .float x => failBefore (.mistyped (.float x) countType) rest

/-- Reads a count after a gap. -/
def readCount : Reader Nat := fun text =>
  match skipGap text with
  | [] => failBefore .endInValue []
  | c :: rest =>
    if c = '-' ∨ c.isDigit then
      match readNumber (c ≠ '-') (if c = '-' then rest else c :: rest) with
      | .error failure => .error failure
      | .ok (number, rest) => asCount number rest
    else failMistyped countType (c :: rest)

/-- Reads `null` or a content. -/
def readOptional {α : Type} (content : Reader α) : Reader (Option α) := fun text =>
  match skipGap text with
  | 'n' :: rest => (readWord ['u', 'l', 'l']).map (fun _ => none) rest
  | text => content.map some text

/-- Reads an array of contents after a gap. -/
def readList {α : Type} (bound : Nat) (content : Reader α) : Reader (List α) := fun text =>
  match skipGap text with
  | '[' :: rest => readItems bound content rest
  | text => failMistyped "a sequence" text

/-- `null` or a content. -/
def writeOptional {α : Type} (write : α → Value) : Option α → Value
  | none => .null
  | some x => write x

/-- A count. -/
def writeCount (n : Nat) : Value :=
  .number (.integer n)

namespace Field

variable {α : Type}

/-- A field that holds a text. -/
def text (key : String) (presence : Presence) (get : α → String) (set : String → α → α) :
    Field α :=
  ⟨key, presence, String, fun _ => readText, .string, get, set⟩

/-- A field that holds a text or nothing. -/
def optionalText (key : String) (presence : Presence) (get : α → Option String)
    (set : Option String → α → α) : Field α :=
  ⟨key, presence, Option String, fun _ => readOptional readText, writeOptional .string, get, set⟩

/-- A field that holds a count or nothing. -/
def optionalCount (key : String) (presence : Presence) (get : α → Option Nat)
    (set : Option Nat → α → α) : Field α :=
  ⟨key, presence, Option Nat, fun _ => readOptional readCount, writeOptional writeCount, get, set⟩

end Field

/-! ## Records -/

namespace RecordFormat

variable {α : Type}

/-- A record that is being read, and the keys seen so far. -/
structure Draft (α : Type) where
  record : α
  seen : List String

/-- Fails for a cause that concerns the whole record, behind its closing character if that is
next. -/
def failClosing {β : Type} (close : Char) (cause : Cause) (text : List Char) : Except Failure β :=
  match skipGap text with
  | [] => failBefore cause []
  | c :: rest => failBefore cause (if c = close then rest else c :: rest)

/-- Reads one member behind its key. -/
def readMember (format : RecordFormat α) (bound : Nat) (draft : Draft α) (key : String) :
    Reader (Draft α) := fun text =>
  match format.fields.find? fun field => field.key = key with
  | none =>
    match readColon text with
    | .error failure => .error failure
    | .ok ((), rest) => (skip bound).map (fun _ => draft) rest
  | some field =>
    if draft.seen.contains key then failClosing '\x7d' (.repeatedField key) text
    else
      match readColon text with
      | .error failure => .error failure
      | .ok ((), rest) =>
        match field.read bound rest with
        | .error failure => .error failure
        | .ok (content, rest) => .ok (⟨field.set content draft.record, key :: draft.seen⟩, rest)

/-- Reads a record from an object behind its opening brace. -/
def readObject (format : RecordFormat α) (bound : Nat) : Reader α := fun text =>
  match readMembers bound (format.readMember bound) ⟨format.blank, []⟩ text with
  | .error failure => .error failure
  | .ok (draft, rest) =>
    let missing := format.fields.find? fun field =>
      field.presence = .required && !draft.seen.contains field.key
    match missing with
    | some field => failBefore (.missingField field.key) rest
    | none => .ok (draft.record, rest)

/-- The description of a record as an array. -/
def sequenceName (format : RecordFormat α) : String :=
  let count := format.fields.length
  s!"struct {format.name} with {count} element" ++ if count = 1 then "" else "s"

/-- Ends an array in front of the given fields, the first of which has the given index. -/
def endEarly (format : RecordFormat α) (fields : List (Field α)) (index : Nat) (record : α) :
    Reader α := fun rest =>
  match fields.findIdx? fun field => field.presence ≠ .optional with
  | some i => failBefore (.tooShort (index + i) format.sequenceName) rest
  | none => .ok (record, rest)

/-- Ends an array behind all fields. -/
def endSequence (record : α) : Reader α := fun text =>
  match skipGap text with
  | [] => failBefore .endInArray []
  | c :: rest =>
    if c = ']' then .ok (record, rest)
    else if c = ',' then
      match skipGap rest with
      | [] => failBefore .trailingText []
      | d :: rest => failAt (if d = ']' then .trailingComma else .trailingText) (d :: rest)
    else failAt .trailingText (c :: rest)

/-- Reads the contents of the given fields, the first of which has the given index, from the rest
of an array. -/
def readSequenceFrom (format : RecordFormat α) (bound : Nat) :
    List (Field α) → (index : Nat) → α → Reader α
  | [], _, record => endSequence record
  | field :: fields, index, record => fun text =>
    let content (text : List Char) : Except Failure (α × List Char) :=
      match field.read bound text with
      | .error failure => .error failure
      | .ok (content, rest) =>
        readSequenceFrom format bound fields (index + 1) (field.set content record) rest
    match skipGap text with
    | [] => failBefore .endInArray []
    | c :: rest =>
      if c = ']' then format.endEarly (field :: fields) index record rest
      else if index = 0 then content (c :: rest)
      else if c = ',' then
        match skipGap rest with
        | [] => failBefore .endInValue []
        | d :: rest => if d = ']' then failAt .trailingComma (d :: rest) else content (d :: rest)
      else failAt .noArrayEnd (c :: rest)

/-- Reads a record after a gap. -/
def read (format : RecordFormat α) (bound : Nat) : Reader α := fun text =>
  match skipGap text with
  | [] => failBefore .endInValue []
  | c :: rest =>
    if c = '\x7b' then format.readObject bound rest
    else if c = '[' then readSequenceFrom format bound format.fields 0 format.blank rest
    else failMistyped ("struct " ++ format.name) (c :: rest)

/-- The record that a text spells. -/
def parse (format : RecordFormat α) (text : String) : Except ReadError α :=
  readWhole format.read text

/-- The object of a record. -/
def toValue (format : RecordFormat α) (record : α) : Value :=
  .object (format.fields.map fun field => (field.key, field.write (field.get record)))

/-- The text of a record. -/
def write (format : RecordFormat α) (record : α) : String :=
  (format.toValue record).write

end RecordFormat

end BattleAdvisor.Json
