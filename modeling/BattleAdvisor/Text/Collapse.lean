import BattleAdvisor.Text.Word

/-!
# Names made of word characters

`collapse` turns any text into one that consists of word characters only: each longest run of other
characters becomes one underscore, and the word characters stay as they are.
-/

namespace BattleAdvisor.Text

/-- Collapses a text; `inGap` says whether the character before it was no word character, and
`done` holds what is written so far, last first. -/
def collapse.loop : (inGap : Bool) → (done : List Char) → List Char → List Char
  | _, done, [] => done.reverse
  | inGap, done, c :: rest =>
    if isWord c then collapse.loop false (c :: done) rest
    else if inGap then collapse.loop true done rest
    else collapse.loop true ('_' :: done) rest

/-- The text with each longest run of characters that are not word characters replaced by one
underscore. -/
def collapse (text : List Char) : List Char :=
  collapse.loop false [] text

end BattleAdvisor.Text
