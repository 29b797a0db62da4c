/-!
# Hexadecimal digits

Numbers below 16 are written as digits, in lower or upper case; either case is read.
-/

namespace BattleAdvisor.Text.Hex

/-- A digit in lower case, for numbers below 16. -/
def lower (n : Nat) : Char :=
  if n < 10 then Char.ofNat (0x30 + n) else Char.ofNat (0x57 + n)

/-- A digit in upper case, for numbers below 16. -/
def upper (n : Nat) : Char :=
  if n < 10 then Char.ofNat (0x30 + n) else Char.ofNat (0x37 + n)

/-- The value of a digit in either case. -/
def value? (c : Char) : Option Nat :=
  if '0' ≤ c ∧ c ≤ '9' then some (c.toNat - 0x30)
  else if 'a' ≤ c ∧ c ≤ 'f' then some (c.toNat - 0x57)
  else if 'A' ≤ c ∧ c ≤ 'F' then some (c.toNat - 0x37)
  else none

end BattleAdvisor.Text.Hex
