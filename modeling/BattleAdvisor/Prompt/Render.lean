import BattleAdvisor.Advice.Failure
import BattleAdvisor.Prompt.Placeholder

/-!
# Rendering

The placeholders for a key are found with a pattern. Patterns are compiled by a library that is not
part of this one, and that refuses those which become too large: which keys it accepts is given as
an instance of `Patterns`.
-/

namespace BattleAdvisor.Prompt

/-- The library that compiles patterns. -/
class Patterns where
  /-- Whether the pattern for the placeholders of a key is compiled. -/
  accepts : String → Bool

/-- What is relied on of the library: the patterns for short keys are far below the limit. -/
class LawfulPatterns [Patterns] : Prop where
  accepts_short : ∀ {key : String}, key.utf8ByteSize ≤ 1000 → Patterns.accepts key = true

/-- A library that compiles the patterns for keys with up to so many bytes. -/
@[reducible] def Patterns.upTo (bytes : Nat) : Patterns :=
  ⟨fun key => key.utf8ByteSize ≤ bytes⟩

variable [Patterns]

/-- The template with the value for each placeholder for the key. -/
def render (template key value : String) : Except AdviceError String :=
  if Patterns.accepts key then .ok (fill template key value)
  else .error (.badFormat (.templateKey key))

/-- The template with the keys rendered one after the other. -/
def renderInTurn (template : String) : List (String × String) → Except AdviceError String
  | [] => .ok template
  | (key, value) :: values =>
    match render template key value with
    | .error error => .error error
    | .ok text => renderInTurn text values

end BattleAdvisor.Prompt
