/-!
# The shortest decimal of a binary number

A double stands for every real number that rounds to it. Of the decimals in that interval
`Interval.shortest` gives one with the fewest digits, and of those the one nearest to the double;
two that are equally near are settled in favour of the even last digit. All arithmetic is exact.
-/

namespace ChangeFeed

/-- The number `digits`, times ten to the power `exponent`. -/
structure Decimal where
  digits : Nat
  exponent : Int
deriving Repr, DecidableEq

/-- Takes the zeros at the end of the digits, at most `fuel` of them, into the exponent. -/
def Decimal.strip : Nat → Decimal → Decimal
  | 0, d => d
  | fuel + 1, d =>
    if d.digits % 10 == 0 && d.digits != 0 then strip fuel ⟨d.digits / 10, d.exponent + 1⟩ else d

/-- The positive number `value / scale` between the two ends of the reals that round to it, all
over the same denominator. The ends belong to the interval when `closed` is set. -/
structure Interval where
  low : Nat
  value : Nat
  high : Nat
  scale : Nat
  closed : Bool
deriving Repr, DecidableEq

namespace Interval

/-- Two to a power; one if the exponent is negative. -/
def twoTo (e : Int) : Nat := Nat.pow 2 e.toNat

/-- Ten to a power; one if the exponent is negative. -/
def tenTo (e : Int) : Nat := Nat.pow 10 e.toNat

/-- The interval of a mantissa times two to the power of an exponent. Its neighbours lie one unit
away, save that the lower one is only half a unit away from a power of two that is not the least
of its kind. -/
def ofBinary (mantissa : Nat) (exponent : Int) (nearBelow : Bool) : Interval :=
  let up := twoTo (exponent - 2)
  { low := (4 * mantissa - (if nearBelow then 1 else 2)) * up
    value := 4 * mantissa * up
    high := (4 * mantissa + 2) * up
    scale := twoTo (2 - exponent)
    closed := mantissa % 2 == 0 }

/-- Whether a decimal lies in the interval. -/
def contains (i : Interval) (d : Decimal) : Bool :=
  let point := d.digits * tenTo d.exponent * i.scale
  let unit := tenTo (-d.exponent)
  if i.closed then i.low * unit ≤ point && point ≤ i.high * unit
  else i.low * unit < point && point < i.high * unit

/-- The exponent of the first digit of the value, which is found by counting digits after the
point was moved four hundred places: no double is so small that none would be left. -/
def magnitude (i : Interval) : Int :=
  ((Nat.toDigits 10 (i.value * tenTo 400 / i.scale)).length : Int) - 401

/-- The decimal with the given exponent in the interval, if there is one next to the value: the
nearer of the two around it, and the even one where they are equally near. -/
def onGrid (i : Interval) (e : Int) : Option Decimal :=
  let numer := i.value * tenTo (-e)
  let denom := i.scale * tenTo e
  let below : Decimal := ⟨numer / denom, e⟩
  let above : Decimal := ⟨numer / denom + 1, e⟩
  let rest := numer % denom
  let hitBelow := 0 < below.digits && i.contains below
  let hitAbove := i.contains above
  if hitBelow && hitAbove then
    if 2 * rest < denom || (2 * rest == denom && below.digits % 2 == 0) then some below
    else some above
  else if hitBelow then some below
  else if hitAbove then some above
  else none

/-- Seventeen digits always tell a double apart; fewer are tried first. -/
def shortest (i : Interval) : Decimal :=
  let top := i.magnitude
  let found := (List.range 17).findSome? fun (n : Nat) => i.onGrid (top - n)
  (found.getD ⟨i.value / i.scale, 0⟩).strip 17

end Interval

namespace Decimal

/-- The number of values that the fraction of a double takes. -/
def fractions : Nat := 4503599627370496

/-- The number of values that the exponent of a double takes. -/
def exponents : Nat := 2048

/-- Whether a double is negative, and the interval of its magnitude unless that is zero. -/
def ofFloat (f : Float) : Bool × Option Interval :=
  let bits := f.toBits.toNat
  let fraction := bits % fractions
  let exponent := bits / fractions % exponents
  let negative := bits / fractions / exponents == 1
  if exponent == 0 then
    if fraction == 0 then (negative, none)
    else (negative, some (.ofBinary fraction (-1074) false))
  else
    (negative,
      some (.ofBinary (fractions + fraction) ((exponent : Int) - 1075)
        (fraction == 0 && 1 < exponent)))

end Decimal

end ChangeFeed
