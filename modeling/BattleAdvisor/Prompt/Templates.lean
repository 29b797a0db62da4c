import BattleAdvisor.Battle.Question
import BattleAdvisor.Prompt.Standard
import BattleAdvisor.Prompt.Placeholder

/-!
# Templates

The context goes to the model as it is. The prompt has placeholders for the player and the battle.
-/

namespace BattleAdvisor

/-- The texts from which requests are made. -/
structure Templates where
  context : String
  prompt : String
  deriving DecidableEq, Repr

namespace Templates

/-- The templates that come with the program. -/
def standard : Templates :=
  ⟨Prompt.standardContext, Prompt.standardPrompt⟩

/-- The key for the player. -/
def playerKey : String := "PLAYER"

/-- The key for the battle. -/
def battleKey : String := "INPUT"

/-- The text of a template in a directory. -/
def readTemplate (fs : FileSystem) (dir : Path) (name : String) : Except AdviceError String :=
  let path := dir.join (.ofString name)
  if fs.exists? path then (fs.readText path).mapError .io else .error (.notFound path)

/-- The templates in a directory. -/
def ofDirectory (fs : FileSystem) (dir : Path) : Except AdviceError Templates := do
  let context ← readTemplate fs dir "context.md"
  let prompt ← readTemplate fs dir "prompt.md"
  return ⟨context, prompt⟩

/-- The prompt for a player and a battle: first the player is put in, then the battle. -/
def fillPrompt (templates : Templates) (player battle : String) : String :=
  Prompt.fill (Prompt.fill templates.prompt playerKey player) battleKey battle

end Templates

end BattleAdvisor
