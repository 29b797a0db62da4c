/-!
# Splitting

A sequence is split at each separator into the parts between them. There is one part more than
there are separators, so neighbouring separators have an empty part between them.
-/

namespace BattleAdvisor.Text

/-- Splits a sequence; `part` is what follows the last separator so far, last first. -/
def splitFrom {α : Type} (isSeparator : α → Bool) (part : List α) : List α → List (List α)
  | [] => [part.reverse]
  | x :: rest =>
    if isSeparator x then part.reverse :: splitFrom isSeparator [] rest
    else splitFrom isSeparator (x :: part) rest

/-- The parts of a sequence between separators. -/
def split {α : Type} (isSeparator : α → Bool) (sequence : List α) : List (List α) :=
  splitFrom isSeparator [] sequence

end BattleAdvisor.Text
