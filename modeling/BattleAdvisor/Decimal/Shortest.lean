/-!
# The shortest decimal of a floating-point number

A finite floating-point number stands for all reals that round to it. `shortest` selects, among the
decimals in that interval, one with the fewest digits, and of several such the nearest to the
number itself; an exact tie goes to the even digit.

Everything is computed on natural numbers: the bits of the number give `significand · 2^exponent`,
and a decimal is compared with the ends of the interval by cross-multiplication.
-/

namespace BattleAdvisor

/-- A finite number without its sign: `significand · 2^exponent`. -/
structure Binary where
  significand : Nat
  exponent : Int
  /-- The gap to the number below is half the gap to the number above. -/
  narrowBelow : Bool
  deriving DecidableEq, Repr

/-- The number that the bits encode, for bits of a finite number. -/
def Binary.ofBits (bits : UInt64) : Binary :=
  let biased := ((bits >>> 52) &&& 0x7FF).toNat
  let fraction := (bits &&& 0xFFFFFFFFFFFFF).toNat
  if biased = 0 then ⟨fraction, -1074, false⟩
  else ⟨0x10000000000000 + fraction, (biased : Int) - 1075, fraction = 0 && 1 < biased⟩

/-- The decimal `digits · 10^exponent`. -/
structure Decimal where
  digits : Nat
  exponent : Int
  deriving DecidableEq, Repr

/-- Compares `a · 10^i` with `b · 2^j`. -/
def Decimal.compareScaled (a : Nat) (i : Int) (b : Nat) (j : Int) : Ordering :=
  compare (a * Nat.pow 10 i.toNat * Nat.pow 2 (-j).toNat)
    (b * Nat.pow 2 j.toNat * Nat.pow 10 (-i).toNat)

/-- Whether the decimal lies in the interval of the reals that round to the number. The ends belong
to it exactly when the significand is even. -/
def Binary.encloses (x : Binary) (d : Decimal) : Bool :=
  let below := if x.narrowBelow then 4 * x.significand - 1 else 4 * x.significand - 2
  let above := 4 * x.significand + 2
  let closed := x.significand % 2 = 0
  let fromBelow := Decimal.compareScaled d.digits d.exponent below (x.exponent - 2)
  let fromAbove := Decimal.compareScaled d.digits d.exponent above (x.exponent - 2)
  (fromBelow = .gt || closed && fromBelow = .eq) && (fromAbove = .lt || closed && fromAbove = .eq)

/-- The least `k` such that the number is below `10^k`. The binary logarithm bounds it from below,
and one of the next few candidates is right. -/
def Binary.magnitude (x : Binary) : Int :=
  let least := Int.fdiv (((x.significand.log2 : Int) + x.exponent) * 30103) 100000 - 1
  let candidates := (List.range 6).map fun (i : Nat) => least + i
  (candidates.find? fun k => Decimal.compareScaled 1 k x.significand x.exponent = .gt).getD
    (least + 6)

/-- The multiples of `10^exponent` next to the number, from below and from above, that lie in its
interval; the nearer one if both do, and the even one if they are equally near. -/
def Binary.neighbour? (x : Binary) (exponent : Int) : Option Decimal :=
  let scaled := x.significand * Nat.pow 2 x.exponent.toNat * Nat.pow 10 (-exponent).toNat
  let unit := Nat.pow 2 (-x.exponent).toNat * Nat.pow 10 exponent.toNat
  let low : Decimal := ⟨scaled / unit, exponent⟩
  let high : Decimal := ⟨scaled / unit + 1, exponent⟩
  match x.encloses low, x.encloses high with
  | true, true =>
    match compare (2 * scaled) ((2 * low.digits + 1) * unit) with
    | .lt => some low
    | .gt => some high
    | .eq => some (if low.digits % 2 = 0 then low else high)
  | true, false => some low
  | false, true => some high
  | false, false => none

/-- Moves trailing zeros of the digits into the exponent; `fuel` bounds their number. -/
def Decimal.strip : (fuel : Nat) → Decimal → Decimal
  | 0, d => d
  | fuel + 1, d =>
    if d.digits ≠ 0 ∧ d.digits % 10 = 0 then Decimal.strip fuel ⟨d.digits / 10, d.exponent + 1⟩
    else d

/-- The shortest decimal of a number other than zero. Seventeen digits always suffice; should they
not, the exact value stands in. -/
def Binary.shortest (x : Binary) : Decimal :=
  let magnitude := x.magnitude
  let lengths := (List.range 17).map fun (n : Nat) => magnitude - (n + 1)
  let exact : Decimal :=
    ⟨x.significand * Nat.pow 2 x.exponent.toNat * Nat.pow 5 (-x.exponent).toNat,
      min x.exponent 0⟩
  ((lengths.findSome? x.neighbour?).getD exact).strip 20

end BattleAdvisor
