/-!
# Log lines

What a run reports while it goes on, from the least to the most urgent level.
-/

namespace BattleAdvisor

/-- How urgent a log line is. -/
inductive Level where
  | debug
  | info
  | warn
  deriving DecidableEq, Repr

/-- The name of a level. -/
def Level.name : Level → String
  | .debug => "DEBUG"
  | .info => "INFO"
  | .warn => "WARN"

/-- A report with its level. -/
structure LogLine where
  level : Level
  message : String
  deriving DecidableEq, Repr

/-- The line as it is shown. -/
def LogLine.text (line : LogLine) : String :=
  line.level.name ++ " - " ++ line.message

end BattleAdvisor
