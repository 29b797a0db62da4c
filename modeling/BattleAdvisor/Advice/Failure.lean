import BattleAdvisor.FileSystem.Basic
import BattleAdvisor.Remote.Failure

/-!
# How asking for advice fails

A failure has a wording and, behind it, the chain of what caused it, outermost first.
-/

namespace BattleAdvisor

/-- What has to be given. -/
inductive Input where
  | player
  | battle
  | dataDirectory
  deriving DecidableEq, Repr

/-- The parts that every battle has. -/
inductive Section where
  | playerData
  | battleState
  | requestData
  | failedActions
  deriving DecidableEq, Repr

/-- Why an input does not have its form. -/
inductive BadFormat where
  | player
  /-- The battle is no value of the data format. -/
  | battle (error : Json.ReadError)
  | battleNotObject
  /-- The pattern for the placeholders of a key is too large. -/
  | templateKey (key : String)

/-- Why choices do not fit together. -/
inductive Conflict where
  | filesWithoutCache
  | filesWithoutDirectory
  deriving DecidableEq, Repr

/-- How asking for advice fails. -/
inductive AdviceError where
  /-- An input is absent or empty. -/
  | missing (input : Input)
  | badFormat (why : BadFormat)
  /-- The battle lacks a part. -/
  | incomplete (part : Section)
  | notFound (path : Path)
  | notDirectory (path : Path)
  | conflict (why : Conflict)
  /-- The model gives no advice. -/
  | generationFailed (reason : String)
  /-- The remote service fails at something else. -/
  | remote (error : ServiceError)
  | io (error : IoError)
  /-- A record does not have its form. -/
  | malformed (error : Json.ReadError)

/-- The description of an input. -/
def Input.description : Input → String
  | .player => "Player ID"
  | .battle => "Input"
  | .dataDirectory => "Data directory"

/-- The key of a part in the battle's object. -/
def Section.key : Section → String
  | .playerData => "player_data"
  | .battleState => "battle_state"
  | .requestData => "request_data"
  | .failedActions => "failed_actions"

/-- The description of a part. -/
def Section.description : Section → String
  | .playerData => "player data"
  | .battleState => "battle state"
  | .requestData => "request data"
  | .failedActions => "failed actions"

/-- The greatest number of bytes of a compiled pattern. -/
def patternLimit : Nat := 10485760

/-- The wording of a bad form. -/
def BadFormat.message : BadFormat → String
  | .player => "Player is not an alphanumeric ID"
  | .battle error => "Battle input is not valid JSON: " ++ error.message
  | .battleNotObject => "Battle input must be a JSON object"
  | .templateKey key => s!"Invalid template key {Text.quoted key}: " ++
    s!"Compiled regex exceeds size limit of {patternLimit} bytes."

/-- The wording of a conflict. -/
def Conflict.message : Conflict → String
  | .filesWithoutCache => "Caching must be enabled if using data files"
  | .filesWithoutDirectory => "Data directory must be defined if using data files"

namespace AdviceError

/-- The wording of a failure. -/
def message : AdviceError → String
  | .missing input => input.description ++ " is not defined"
  | .badFormat why => why.message
  | .incomplete part => "Battle input is missing " ++ part.description
  | .notFound path => path.display ++ " does not exist"
  | .notDirectory path => path.display ++ " is not a directory"
  | .conflict why => "Invalid configuration: " ++ why.message
  | .generationFailed reason => "Generation failed: " ++ reason
  | .remote error => "Remote service error: " ++ error.message
  | .io error => "IO error: " ++ error.message
  | .malformed error => "Serialization error: " ++ error.message

/-- What lies behind a failure, outermost first. -/
def causes : AdviceError → List String
  | .remote error => error.message :: error.causes
  | .io error => error.message :: error.causes
  | .malformed error => [error.message]
  | _ => []

end AdviceError

end BattleAdvisor
