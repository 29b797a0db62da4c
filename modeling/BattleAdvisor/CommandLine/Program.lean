import BattleAdvisor.Advice.CommonTypes
import BattleAdvisor.CommandLine.Run
import BattleAdvisor.Http.Plain

/-!
# The program

Runs with common media types, a plain library and a plain manual.
-/

namespace BattleAdvisor.CommandLine

/-- The options as they are shown. -/
def usages : List String :=
  Key.all.map Key.usage ++ [verboseUsage, helpUsage]

instance plainManual : Manual where
  text _ := String.join (usages.map fun usage => usage ++ "\n")

end BattleAdvisor.CommandLine
