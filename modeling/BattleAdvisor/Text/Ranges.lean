/-!
# Sets of characters as ranges

A set of characters is a list of closed ranges of code points, ascending and apart. Membership
stops at the first range that begins above the code point, so that the low characters, which most
texts consist of, are decided at once.
-/

namespace BattleAdvisor.Text

/-- Closed ranges of code points, ascending and apart. -/
abbrev Ranges := List (Nat × Nat)

/-- Whether some range holds the code point. -/
def Ranges.covers : Ranges → Nat → Bool
  | [], _ => false
  | (low, high) :: rest, n => if n < low then false else n ≤ high || Ranges.covers rest n

/-- Whether the character is in the set. -/
def Ranges.has (ranges : Ranges) (c : Char) : Bool :=
  ranges.covers c.toNat

end BattleAdvisor.Text
