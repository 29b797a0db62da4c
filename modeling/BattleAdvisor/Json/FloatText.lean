import BattleAdvisor.Decimal.Shortest

/-!
# The text of floating-point numbers

A number is written with the fewest digits that identify it. If the exponent of its first digit is
between -5 and 15 the digits stand around a point, with at least one digit behind it; otherwise
one digit stands before the point, the point is left out if nothing follows it, and the exponent
carries its sign and no leading zeros.
-/

namespace BattleAdvisor.Json

/-- The digits with the point at its place. -/
def plainText (digits : List Char) (exponent : Int) : List Char :=
  let whole := (digits.length : Int) + exponent
  if 0 ≤ exponent then digits ++ List.replicate exponent.toNat '0' ++ ['.', '0']
  else if 0 < whole then digits.take whole.toNat ++ '.' :: digits.drop whole.toNat
  else ['0', '.'] ++ List.replicate (-whole).toNat '0' ++ digits

/-- The digits with the point after the first one, and the exponent of that digit. -/
def scientificText (digits : List Char) (leading : Int) : List Char :=
  let fraction := digits.drop 1
  let mantissa := digits.take 1 ++ if fraction = [] then [] else '.' :: fraction
  mantissa ++ ['e', if 0 ≤ leading then '+' else '-'] ++ Nat.toDigits 10 leading.natAbs

/-- The text of a decimal. -/
def decimalText (d : Decimal) : List Char :=
  let digits := Nat.toDigits 10 d.digits
  let leading := (digits.length : Int) + d.exponent - 1
  if -5 ≤ leading ∧ leading ≤ 15 then plainText digits d.exponent
  else scientificText digits leading

/-- The text of a floating-point number. What is not finite has no text of its own and is written
as the absent value. -/
def floatText (x : Float) : List Char :=
  let bits := x.toBits
  let magnitude := bits &&& 0x7FFFFFFFFFFFFFFF
  let sign := if bits = magnitude then [] else ['-']
  if 0x7FF0000000000000 ≤ magnitude then ['n', 'u', 'l', 'l']
  else if magnitude = 0 then sign ++ ['0', '.', '0']
  else sign ++ decimalText (Binary.ofBits magnitude).shortest

end BattleAdvisor.Json
