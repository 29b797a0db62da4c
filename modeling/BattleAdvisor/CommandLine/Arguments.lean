import BattleAdvisor.Text.Utf8
import BattleAdvisor.FileSystem.Path

/-!
# Arguments

The command line is a list of options. An option with a value is followed by it, or has it behind
an equals sign; each option may be given once. The value of an option is looked at when the next
option begins or the list ends, so that an argument which is no option at all is reported first. An
option that asks for help is answered at once.
-/

namespace BattleAdvisor.CommandLine

/-- The options that have a value. -/
inductive Key where
  | player
  | input
  | useCache
  | data
  | useDataFiles
  | templates
  | settings
  deriving DecidableEq, Repr

/-- All options that have a value. -/
def Key.all : List Key :=
  [.player, .input, .useCache, .data, .useDataFiles, .templates, .settings]

/-- The name of an option. -/
def Key.name : Key → String
  | .player => "player"
  | .input => "input"
  | .useCache => "use_cache"
  | .data => "data"
  | .useDataFiles => "use_data_files"
  | .templates => "templates"
  | .settings => "settings"

/-- The name of the option without a value. -/
def verboseName : String := "verbose"

/-- The letter of the option without a value. -/
def verboseLetter : Char := 'v'

/-- The name of the option that asks for help. -/
def helpName : String := "help"

/-- The letter of the option that asks for help. -/
def helpLetter : Char := 'h'

/-- An option with its value as it is shown. -/
def Key.usage (key : Key) : String :=
  "--" ++ key.name ++ " <" ++ key.name.toUpper ++ ">"

/-- The option without a value as it is shown. -/
def verboseUsage : String :=
  "--" ++ verboseName

/-- The option that asks for help as it is shown. -/
def helpUsage : String :=
  "--" ++ helpName

/-- Why arguments cannot be read. -/
inductive UsageError where
  /-- An argument is no option. -/
  | unexpected (argument : String)
  | valueMissing (key : Key)
  /-- An option is given twice. -/
  | repeated (usage : String)
  /-- A value is neither true nor false. -/
  | notBoolean (key : Key) (value : String)
  /-- An option without a value has one. -/
  | valueGiven (usage value : String)
  /-- A value is no text. -/
  | notText
  deriving DecidableEq, Repr

/-- The wording of an error. -/
def UsageError.message : UsageError → String
  | .unexpected argument => s!"unexpected argument '{argument}' found"
  | .valueMissing key => s!"a value is required for '{key.usage}' but none was supplied"
  | .repeated usage => s!"the argument '{usage}' cannot be used multiple times"
  | .notBoolean key value =>
    s!"invalid value '{value}' for '{key.usage}': {value} is not a valid boolean value"
  | .valueGiven usage value =>
    s!"unexpected value '{value}' for '{usage}' found; no more were expected"
  | .notText => "invalid UTF-8 was detected in one or more arguments"

/-- Why the arguments ask for no run. -/
inductive Halt where
  /-- They cannot be read. -/
  | usage (error : UsageError)
  /-- They ask for help: by a name, or by a letter. -/
  | help (isNamed : Bool)
  deriving DecidableEq, Repr

/-- What the arguments say. -/
structure Arguments where
  player? : Option String := none
  input? : Option String := none
  useCache : Bool := true
  data? : Option Path := none
  useDataFiles : Bool := false
  templates? : Option Path := none
  settings? : Option Path := none
  verbose : Bool := false

/-! ## Values -/

/-- The truth value that a word means, whatever the case of its letters. -/
def readBoolean? (word : String) : Option Bool :=
  let word := String.ofList (word.toList.map Char.toLower)
  if ["false", "f", "0", "no", "n"].contains word then some false
  else if ["true", "t", "1", "yes", "y"].contains word then some true
  else none

/-- A value as a text. -/
def asText (value : Bytes) : Except UsageError String :=
  match Utf8.decode? value with
  | some text => .ok text
  | none => .error .notText

/-- A value as a path; it must not be empty. -/
def asPath (key : Key) (value : Bytes) : Except UsageError Path :=
  if value = [] then .error (.valueMissing key) else .ok ⟨value⟩

/-- A value as a truth value. -/
def asBoolean (key : Key) (value : Bytes) : Except UsageError Bool := do
  let text ← asText value
  match readBoolean? text with
  | some b => return b
  | none => throw (.notBoolean key text)

/-- The arguments with the value of an option. -/
def Arguments.assign (arguments : Arguments) (value : Bytes) :
    Key → Except UsageError Arguments
  | .player => do return { arguments with player? := some (← asText value) }
  | .input => do return { arguments with input? := some (← asText value) }
  | .useCache => do return { arguments with useCache := ← asBoolean .useCache value }
  | .data => do return { arguments with data? := some (← asPath .data value) }
  | .useDataFiles => do return { arguments with useDataFiles := ← asBoolean .useDataFiles value }
  | .templates => do return { arguments with templates? := some (← asPath .templates value) }
  | .settings => do return { arguments with settings? := some (← asPath .settings value) }

/-! ## Reading -/

/-- Where reading stands between two arguments. -/
structure State where
  arguments : Arguments
  /-- The options that were given with a value. -/
  given : List Key
  /-- The option that was begun last, and its value, if it has come. -/
  begun? : Option (Key × Option Bytes)

namespace State

/-- Takes an option with its value. -/
def take (state : State) (key : Key) (value : Bytes) : Except UsageError State :=
  if state.given.contains key then .error (.repeated key.usage)
  else match state.arguments.assign value key with
    | .error error => .error error
    | .ok arguments => .ok ⟨arguments, key :: state.given, none⟩

/-- Takes the option that was begun last. -/
def settle (state : State) : Except UsageError State :=
  match state.begun? with
  | none => .ok state
  | some (key, none) => .error (.valueMissing key)
  | some (key, some value) => { state with begun? := none }.take key value

/-- Takes the option without a value. -/
def takeVerbose (state : State) : Except UsageError State :=
  match state.settle with
  | .error error => .error error
  | .ok state =>
    if state.arguments.verbose then .error (.repeated verboseUsage)
    else .ok { state with arguments := { state.arguments with verbose := true } }

/-- Takes the option that asks for help. -/
def takeHelp (state : State) (isNamed : Bool) : Halt :=
  match state.settle with
  | .error error => .usage error
  | .ok _ => .help isNamed

/-- Takes an option that has a value. -/
def takeKey (state : State) (key : Key) (value? : Option Bytes) : Except UsageError State :=
  match state.settle with
  | .error error => .error error
  | .ok state =>
    match value? with
    | some value => state.take key value
    | none => .ok { state with begun? := some (key, none) }

/-- Takes an argument that begins with two hyphens, which are left out here. -/
def takeLong (state : State) (argument : Bytes) : Except Halt State :=
  let equals : UInt8 := 0x3D
  let name := argument.takeWhile (· ≠ equals)
  let value? := match argument.dropWhile (· ≠ equals) with
    | [] => none
    | _ :: value => some value
  match Key.all.find? fun key => Utf8.encode key.name = name with
  | some key => (state.takeKey key value?).mapError .usage
  | none =>
    if Utf8.encode verboseName = name then
      match value? with
      | some value => .error (.usage (.valueGiven verboseUsage (Utf8.lossy value)))
      | none => state.takeVerbose.mapError .usage
    else if Utf8.encode helpName = name then
      match value? with
      | some value => .error (.usage (.valueGiven helpUsage (Utf8.lossy value)))
      | none => .error (state.takeHelp true)
    else .error (.usage (.unexpected ("--" ++ Utf8.lossy name)))

/-- Takes the letters behind one hyphen. -/
def takeLetters (state : State) : List (Option Char) → Except Halt State
  | [] => .ok state
  | some c :: rest =>
    if c = verboseLetter then
      match state.takeVerbose with
      | .error error => .error (.usage error)
      | .ok state => state.takeLetters rest
    else if c = helpLetter then .error (state.takeHelp false)
    else .error (.usage (.unexpected (String.ofList ['-', c])))
  | none :: rest =>
    .error (.usage (.unexpected (String.ofList ('-' :: (none :: rest).map (·.getD '\ufffd')))))

/-- Takes an argument that is no option: the value of the option that was begun last, if that has
none yet. -/
def takeOther (state : State) (argument : Bytes) : Except UsageError State :=
  match state.begun? with
  | some (key, none) => .ok { state with begun? := some (key, some argument) }
  | _ => .error (.unexpected (Utf8.lossy argument))

/-- Takes an argument. -/
def step (state : State) (argument : Bytes) : Except Halt State :=
  let hyphen : UInt8 := 0x2D
  match argument with
  | first :: second :: rest =>
    if first = hyphen then
      if second = hyphen then state.takeLong rest
      else state.takeLetters (Utf8.scan (second :: rest))
    else (state.takeOther argument).mapError .usage
  | _ => (state.takeOther argument).mapError .usage

end State

/-- Takes arguments in turn. Behind two hyphens alone there may be no argument. -/
def readFrom (state : State) : List Bytes → Except Halt State
  | [] => state.settle.mapError .usage
  | argument :: rest =>
    if argument = Utf8.encode "--" then
      match rest with
      | [] => state.settle.mapError .usage
      | next :: _ => .error (.usage (.unexpected (Utf8.lossy next)))
    else match state.step argument with
      | .error halt => .error halt
      | .ok state => readFrom state rest

/-- Reads arguments. -/
def Arguments.read (arguments : List Bytes) : Except Halt Arguments :=
  (readFrom ⟨{}, [], none⟩ arguments).map (·.arguments)

end BattleAdvisor.CommandLine
