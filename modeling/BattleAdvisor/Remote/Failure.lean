import BattleAdvisor.Http.Fault

/-!
# How the remote service fails

Nothing is tried twice: every failure of a call is handed to the caller.
-/

namespace BattleAdvisor

/-- How a call to the remote service fails. -/
inductive ServiceError where
  /-- No usable answer comes. -/
  | http (fault : Http.Fault)
  /-- The service refuses. -/
  | api (status : Nat) (message : String)
  /-- The answer lacks something, or does not have its form. -/
  | invalidResponse (message : String)
  /-- The variable that should hold the key holds none. -/
  | missingCredential (variableName : String)

namespace ServiceError

/-- The failure of a text that does not have its form. -/
def ofReadError (error : Json.ReadError) : ServiceError :=
  .invalidResponse error.message

/-- The wording of a failure. -/
def message : ServiceError → String
  | .http fault => "HTTP error: " ++ fault.message
  | .api status message => s!"API error ({status}): {message}"
  | .invalidResponse message => s!"Invalid response: {message}"
  | .missingCredential variableName => s!"Environment variable {variableName} is not set"

/-- What lies behind a failure, outermost first. -/
def causes : ServiceError → List String
  | .http fault => fault.message :: fault.causes
  | _ => []

end ServiceError

end BattleAdvisor
