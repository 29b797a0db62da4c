import BattleAdvisor.Environment.Basic
import BattleAdvisor.Json.Failure
import BattleAdvisor.Text.Alphanumeric
import BattleAdvisor.Text.Blank

/-!
# Lines of environment files

A line defines a variable: `name=value`, with blanks around each part, and perhaps the word `export`
in front. In a value, single quotes keep everything as it is; double quotes keep blanks; a backslash
keeps some characters and writes a line end before `n`; and `$` puts the value of a variable, whose
name goes on as long as there are letters and digits or stands in braces. Behind a value there may
be a comment.
-/

namespace BattleAdvisor.Environment

open BattleAdvisor.Text BattleAdvisor.Json

/-- A line, or the value in a line, that cannot be read, and the place at which reading stops. -/
structure LineError where
  text : List Char
  index : Nat
  deriving DecidableEq, Repr

/-- The wording of an error. -/
def LineError.message (error : LineError) : String :=
  s!"Error parsing line: '{String.ofList error.text}', error at line index: {error.index}"

/-! ## Values -/

/-- What the next character of a value is. -/
inductive Mode where
  | plain
  /-- Inside single quotes. -/
  | quoted
  /-- Behind a backslash. -/
  | escaped
  /-- Part of the name of a variable, whose letters so far are given, last first. -/
  | name (letters : List Char)
  /-- Part of the name of a variable in braces. -/
  | braced (letters : List Char)
  /-- Behind the value. -/
  | after
  deriving DecidableEq, Repr

/-- A value that is being read. -/
structure ValueState where
  mode : Mode
  /-- Whether double quotes are open. -/
  inQuotes : Bool
  /-- The characters so far, last first. -/
  done : List Char

/-- What one character does. -/
inductive ValueStep where
  | next (state : ValueState)
  /-- A comment begins. -/
  | stop
  /-- The character may not stand here. -/
  | refuse

namespace ValueState

/-- The state with the value of a variable put; `lookup` gives values. -/
def put (state : ValueState) (lookup : String → String) (letters : List Char) : ValueState :=
  { state with
    mode := .plain
    done := (lookup (String.ofList letters.reverse)).toList.reverse ++ state.done }

/-- The state with a character more. -/
def push (state : ValueState) (c : Char) : ValueState :=
  { state with mode := .plain, done := c :: state.done }

/-- A character behind a backslash. -/
def unescape (state : ValueState) (c : Char) : ValueStep :=
  if c = '\\' ∨ c = '\'' ∨ c = '"' ∨ c = '$' ∨ c = ' ' then .next (state.push c)
  else if c = 'n' then .next (state.push '\n')
  else .refuse

/-- A character that is no part of the name of a variable begun with the given letters. -/
def endName (state : ValueState) (lookup : String → String) (letters : List Char) (c : Char) :
    ValueState :=
  if c = '\x7b' ∧ letters = [] then { state with mode := .braced [] }
  else
    let state := state.put lookup letters
    if c = '$' then { state with mode := .name [] } else state.push c

/-- A character that nothing before it makes special. -/
def stepPlain (state : ValueState) (c : Char) : ValueState :=
  if c = '$' then { state with mode := .name [] }
  else if c = '\\' then { state with mode := .escaped }
  else if state.inQuotes then
    if c = '"' then { state with inQuotes := false } else state.push c
  else if c = '\'' then { state with mode := .quoted }
  else if c = '"' then { state with inQuotes := true }
  else if c = ' ' ∨ c = '\t' then { state with mode := .after }
  else state.push c

/-- One character. -/
def step (state : ValueState) (lookup : String → String) (c : Char) : ValueStep :=
  match state.mode with
  | .plain => .next (state.stepPlain c)
  | .quoted =>
    if c = '\'' then .next { state with mode := .plain }
    else .next { state with done := c :: state.done }
  | .escaped => state.unescape c
  | .name letters =>
    if isAlphanumeric c then .next { state with mode := .name (c :: letters) }
    else .next (state.endName lookup letters c)
  | .braced letters =>
    if c = '\x7d' then .next (state.put lookup letters)
    else .next { state with mode := .braced (c :: letters) }
  | .after => if c = ' ' ∨ c = '\t' then .next state else if c = '#' then .stop else .refuse

/-- The value, if nothing is left open. -/
def finish (state : ValueState) (lookup : String → String) : Option (List Char) :=
  match state.mode with
  | .quoted | .braced _ => none
  | .name letters => if state.inQuotes then none else some (state.put lookup letters).done.reverse
  | _ => if state.inQuotes then none else some state.done.reverse

end ValueState

/-- Ends a value. -/
def endValue (lookup : String → String) (whole : List Char) (state : ValueState) :
    Except LineError (List Char) :=
  match state.finish lookup with
  | some value => .ok value
  | none => .error ⟨whole, byteCount whole - 1⟩

/-- Reads the rest of a value, whose next character has the given index. -/
def readValueFrom (lookup : String → String) (whole : List Char) :
    (index : Nat) → ValueState → List Char → Except LineError (List Char)
  | _, state, [] => endValue lookup whole state
  | index, state, c :: rest =>
    match state.step lookup c with
    | .next state => readValueFrom lookup whole (index + 1) state rest
    | .stop => endValue lookup whole state
    | .refuse => .error ⟨whole, index⟩

/-- Reads a value. -/
def readValue (lookup : String → String) (text : List Char) : Except LineError (List Char) :=
  readValueFrom lookup text 0 ⟨.plain, false, []⟩ text

/-! ## Lines -/

/-- What is left of a line, and the number of bytes before it. -/
structure Rest where
  text : List Char
  position : Nat

namespace Rest

/-- Passes over characters from the front. -/
def skip (rest : Rest) (passed : List Char) : Rest :=
  ⟨rest.text.drop passed.length, rest.position + byteCount passed⟩

/-- Passes over blanks. -/
def skipBlanks (rest : Rest) : Rest :=
  rest.skip (rest.text.takeWhile isBlank)

/-- Passes over an equals sign. -/
def skipEquals? (rest : Rest) : Option Rest :=
  if rest.text.head? = some '=' then some (rest.skip ['=']) else none

/-- Whether nothing but a comment follows. -/
def isDone (rest : Rest) : Bool :=
  rest.text = [] || rest.text.head? = some '#'

end Rest

/-- Whether the name of a variable may begin with a character. -/
def isNameStart (c : Char) : Bool :=
  c.isAlpha || c = '_'

/-- Whether a character may stand in the name of a variable. -/
def isNameChar (c : Char) : Bool :=
  c.isAlphanum || c = '_' || c = '.'

/-- Reads a name, and the blanks behind it. -/
def readName? (rest : Rest) : Option (List Char × Rest) :=
  if rest.text.head?.any isNameStart then
    let name := rest.text.takeWhile isNameChar
    some (name, (rest.skip name).skipBlanks)
  else none

/-- Reads a name and the equals sign behind it, with the position at which this fails. -/
def readTarget (rest : Rest) : Except Nat (List Char × Rest) :=
  match readName? rest with
  | none => .error rest.position
  | some (name, rest) =>
    match rest.skipEquals? with
    | some rest => .ok (name, rest)
    | none => .error rest.position

/-- Reads what stands before the value. The word `export` is a name only before an equals sign. -/
def readHead (rest : Rest) : Except Nat (List Char × Rest) :=
  match readName? rest with
  | none => .error rest.position
  | some (name, rest) =>
    match rest.skipEquals? with
    | some rest => .ok (name, rest)
    | none => if name = "export".toList then readTarget rest else .error rest.position

/-- Reads a line. An empty line and a comment define nothing. -/
def readLine (lookup : String → String) (line : List Char) :
    Except LineError (Option (String × String)) :=
  let start := (Rest.mk (trimEnd line) 0).skipBlanks
  if start.isDone then .ok none
  else match readHead start with
    | .error position => .error ⟨line, position⟩
    | .ok (name, rest) =>
      let rest := rest.skipBlanks
      if rest.isDone then .ok (some (String.ofList name, ""))
      else match readValue lookup rest.text with
        | .error error => .error error
        | .ok value => .ok (some (String.ofList name, String.ofList value))

end BattleAdvisor.Environment
