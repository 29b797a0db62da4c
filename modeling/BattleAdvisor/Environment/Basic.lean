/-!
# Environments

The variables that a run can read.
-/

namespace BattleAdvisor

/-- Variables with their values; the first one of a name counts. -/
structure Environment where
  values : List (String × String)
  deriving DecidableEq, Repr

namespace Environment

/-- Whether a variable can have the name. -/
def isName (name : String) : Bool :=
  name ≠ "" && !name.toList.contains '=' && !name.toList.contains '\x00'

/-- The value of a variable. -/
def get? (environment : Environment) (name : String) : Option String :=
  if isName name then environment.values.lookup name else none

/-- What the program breaks down over: a variable is set to a value with a zero character. -/
structure Crash where
  name : String
  value : String
  deriving DecidableEq, Repr

/-- Sets a variable that has no value yet. -/
def define (environment : Environment) (name value : String) : Except Crash Environment :=
  match environment.get? name with
  | some _ => .ok environment
  | none =>
    if value.toList.contains '\x00' then .error ⟨name, value⟩
    else .ok ⟨environment.values ++ [(name, value)]⟩

end Environment

end BattleAdvisor
