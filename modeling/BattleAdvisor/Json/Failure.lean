import BattleAdvisor.Json.Writer
import BattleAdvisor.Text.Quoted

/-!
# Why a text cannot be read

A reader fails for a cause and at a place. Inside the readers a place is the number of bytes of the
text that are still unread there, which every reader knows without knowing what came before it.
`Failure.locate` turns it into a line and a column of the whole text: lines end at line feeds and
count from one, and the column is the number of bytes of the line up to the place.
-/

namespace BattleAdvisor.Json

/-- What was found where something else was wanted. -/
inductive Found where
  | null
  | bool (b : Bool)
  | integer (n : Int)
  | float (x : Float)
  | string (s : String)
  | sequence
  | map

/-- Why a text cannot be read. -/
inductive Cause where
  /-- The text ends where a value is needed. -/
  | endInValue
  /-- The text ends inside an array. -/
  | endInArray
  /-- The text ends inside an object. -/
  | endInObject
  /-- The text ends inside a string. -/
  | endInString
  | noColon
  | noArrayEnd
  | noObjectEnd
  /-- A word such as `null` has a wrong letter. -/
  | noWord
  | noValue
  | badEscape
  | badNumber
  | numberTooLarge
  | controlCharacter
  | keyNotString
  /-- An escaped surrogate without its partner. -/
  | loneSurrogate
  /-- An escaped leading surrogate that no escape follows. -/
  | brokenPair
  | trailingComma
  | trailingText
  | tooDeep
  /-- A value of the wrong kind. -/
  | mistyped (found : Found) (wanted : String)
  /-- A number of the right kind that the wanted type does not hold. -/
  | unfit (n : Int) (wanted : String)
  | missingField (key : String)
  | repeatedField (key : String)
  /-- An array that ends before the first field that needs a value. -/
  | tooShort (length : Nat) (wanted : String)

/-- The description of what was found. -/
def Found.message : Found → String
  | .null => "null"
  | .bool b => s!"boolean `{b}`"
  | .integer n => s!"integer `{n}`"
  | .float x => "floating point `" ++ String.ofList (floatText x) ++ "`"
  | .string s => "string " ++ Text.quoted s
  | .sequence => "sequence"
  | .map => "map"

/-- The wording of a cause. -/
def Cause.message : Cause → String
  | .endInValue => "EOF while parsing a value"
  | .endInArray => "EOF while parsing a list"
  | .endInObject => "EOF while parsing an object"
  | .endInString => "EOF while parsing a string"
  | .noColon => "expected `:`"
  | .noArrayEnd => "expected `,` or `]`"
  | .noObjectEnd => "expected `,` or `\x7d`"
  | .noWord => "expected ident"
  | .noValue => "expected value"
  | .badEscape => "invalid escape"
  | .badNumber => "invalid number"
  | .numberTooLarge => "number out of range"
  | .controlCharacter => "control character (\\u0000-\\u001F) found while parsing a string"
  | .keyNotString => "key must be a string"
  | .loneSurrogate => "lone leading surrogate in hex escape"
  | .brokenPair => "unexpected end of hex escape"
  | .trailingComma => "trailing comma"
  | .trailingText => "trailing characters"
  | .tooDeep => "recursion limit exceeded"
  | .mistyped found wanted => "invalid type: " ++ found.message ++ ", expected " ++ wanted
  | .unfit n wanted => s!"invalid value: integer `{n}`, expected {wanted}"
  | .missingField key => s!"missing field `{key}`"
  | .repeatedField key => s!"duplicate field `{key}`"
  | .tooShort length wanted => s!"invalid length {length}, expected {wanted}"

/-- Whether the text could be read if it went on. -/
def Cause.isEnd : Cause → Bool
  | .endInValue | .endInArray | .endInObject | .endInString => true
  | _ => false

/-- A cause, and the number of bytes unread at its place. -/
structure Failure where
  cause : Cause
  unread : Nat

/-- The number of bytes that the characters take. -/
def byteCount (text : List Char) : Nat :=
  text.foldl (fun n c => n + c.utf8Size) 0

/-- A place in a text. -/
structure Position where
  line : Nat
  column : Nat
  deriving DecidableEq, Repr

/-- The position that many bytes further on. -/
def Position.advance (p : Position) : (bytes : Nat) → List Char → Position
  | bytes, [] => { p with column := p.column + bytes }
  | bytes, c :: rest =>
    if bytes < c.utf8Size then { p with column := p.column + bytes }
    else
      let next : Position := if c = '\n' then ⟨p.line + 1, 0⟩ else ⟨p.line, p.column + c.utf8Size⟩
      next.advance (bytes - c.utf8Size) rest

/-- Why and where a text cannot be read. -/
structure ReadError where
  cause : Cause
  position : Position

/-- The place of a failure in the whole text. -/
def Failure.locate (failure : Failure) (text : List Char) : ReadError :=
  ⟨failure.cause, (Position.mk 1 0).advance (byteCount text - failure.unread) text⟩

/-- The wording of an error, with its place. -/
def ReadError.message (error : ReadError) : String :=
  s!"{error.cause.message} at line {error.position.line} column {error.position.column}"

/-- Reads a value from the front of a text and returns it with the rest. -/
abbrev Reader (α : Type) := List Char → Except Failure (α × List Char)

/-- Fails in front of the rest. -/
def failBefore {α : Type} (cause : Cause) (rest : List Char) : Except Failure α :=
  .error ⟨cause, byteCount rest⟩

/-- Fails that many bytes into the rest. -/
def failInside {α : Type} (bytes : Nat) (cause : Cause) (rest : List Char) : Except Failure α :=
  .error ⟨cause, byteCount rest - bytes⟩

/-- Fails at the first byte of the rest, which counts as seen. -/
def failAt {α : Type} (cause : Cause) (rest : List Char) : Except Failure α :=
  failInside 1 cause rest

end BattleAdvisor.Json
