import BattleAdvisor.Advice.Failure
import BattleAdvisor.Json.Reader

/-!
# Players and battles

A player is named by letters, digits, underscores and hyphens. A battle is an object that has all
parts; it goes on in its canonical spelling, which has no blanks between tokens and the members of
each object in the order of their keys.
-/

namespace BattleAdvisor.Battle

/-- Whether a character may stand in the name of a player. -/
def isPlayerChar (c : Char) : Bool :=
  c.isAlphanum || c = '_' || c = '-'

/-- The player that a text names. -/
def readPlayer (player? : Option String) : Except AdviceError String :=
  match player? with
  | none => .error (.missing .player)
  | some player =>
    if player = "" then .error (.missing .player)
    else if player.toList.all isPlayerChar then .ok player
    else .error (.badFormat .player)

/-- The parts of a battle, in the order in which they are looked for. -/
def sections : List Section :=
  [.playerData, .battleState, .requestData, .failedActions]

/-- The canonical spelling of the battle that a value describes. -/
def ofValue (value : Json.Value) : Except AdviceError String :=
  match value with
  | .object _ =>
    match sections.find? fun part => (value.member? part.key).isNone with
    | some part => .error (.incomplete part)
    | none => .ok value.write
  | _ => .error (.badFormat .battleNotObject)

/-- The canonical spelling of the battle that a text describes. -/
def readBattle (text? : Option String) : Except AdviceError String :=
  match text? with
  | none => .error (.missing .battle)
  | some text =>
    if text = "" then .error (.missing .battle)
    else match Json.Value.parse text with
      | .error error => .error (.badFormat (.battle error))
      | .ok value => ofValue value

end BattleAdvisor.Battle
