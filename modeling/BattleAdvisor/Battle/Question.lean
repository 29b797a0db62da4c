import BattleAdvisor.Battle.Input
import BattleAdvisor.FileSystem.Resolve

/-!
# Questions

A question is what the program is asked: advice for a player in a battle, with or without the
data files of a directory, and with or without a cache on the remote service. `Question.make` checks
the parts of a question one by one, and `Question.check` whether the choices fit together.
-/

namespace BattleAdvisor

/-- A question for advice. -/
structure Question where
  player : String
  /-- The battle in its canonical spelling. -/
  battle : String
  useCache : Bool
  dataDirectory? : Option Path
  useDataFiles : Bool
  deriving DecidableEq

namespace Question

/-- The directory that a path leads to. -/
def readDirectory (fs : FileSystem) (path? : Option Path) : Except AdviceError Path :=
  match path? with
  | none => .error (.missing .dataDirectory)
  | some path =>
    if path.bytes = [] then .error (.missing .dataDirectory)
    else if !fs.exists? path then .error (.notFound path)
    else if !fs.isDirectory path then .error (.notDirectory path)
    else .ok path

/-- Checks the player, the battle, and then the directory, if one is given. -/
def make (fs : FileSystem) (player? battle? : Option String) (useCache : Bool)
    (dataDirectory? : Option Path) (useDataFiles : Bool) : Except AdviceError Question := do
  let player ← Battle.readPlayer player?
  let battle ← Battle.readBattle battle?
  match dataDirectory? with
  | none => return ⟨player, battle, useCache, none, useDataFiles⟩
  | some path =>
    let path ← readDirectory fs (some path)
    return ⟨player, battle, useCache, some path, useDataFiles⟩

/-- Checks the choices: data files reach the model only through a cache, and come from a
directory. -/
def check (question : Question) : Except AdviceError Unit :=
  if question.useDataFiles && !question.useCache then .error (.conflict .filesWithoutCache)
  else if question.useDataFiles && question.dataDirectory?.isNone then
    .error (.conflict .filesWithoutDirectory)
  else .ok ()

end Question

end BattleAdvisor
