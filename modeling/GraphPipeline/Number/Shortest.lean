import GraphPipeline.Number.Binary64

/-!
# Shortest decimals

The shortest decimal of a binary64 number is the decimal with the fewest digits
among those that round to the number, and of two such decimals the nearer one.
The reals that round to a number form an interval around it, which contains its
ends exactly when the significand is even.  For each count of digits only the
two neighbours of the number on the decimal grid can be the nearest, so testing
these two is enough.
-/

namespace GraphPipeline

/-- A positive decimal `0.d₁d₂d₃… * 10 ^ pointPosition`, written by its digits
with neither a leading nor a trailing zero. -/
structure DecimalDigits where
  digits : List Char
  pointPosition : Int
  deriving DecidableEq

namespace Binary64

/-- The reals that round to a number, in quarters of its last binary place:
the multiples of `2 ^ scale` from `low` to `high`, the number itself at
`middle`. -/
structure RoundingInterval where
  low : Nat
  middle : Nat
  high : Nat
  scale : Int
  closed : Bool

/-- Just above a power of two the gap below a number is half the gap above. -/
def roundingInterval (number : Binary64) : RoundingInterval :=
  let significand := number.significand
  let narrow : Bool :=
    significand == 0x10000000000000 && 1 < number.biasedExponent.val
  { low := if narrow then 4 * significand - 1 else 4 * significand - 2
    middle := 4 * significand
    high := 4 * significand + 2
    scale := number.exponent - 2
    closed := significand % 2 == 0 }

namespace RoundingInterval

/-- A bound of the interval as a natural number, once both it and the multiples
of `10 ^ place` are multiplied by a common denominator. -/
def boundOn (interval : RoundingInterval) (place : Int) (bound : Nat) : Nat :=
  bound * Nat.pow 2 interval.scale.toNat * Nat.pow 10 (-place).toNat

/-- The multiple `count * 10 ^ place` over the same denominator. -/
def gridOn (interval : RoundingInterval) (place : Int) (count : Nat) : Nat :=
  count * Nat.pow 10 place.toNat * Nat.pow 2 (-interval.scale).toNat

def contains (interval : RoundingInterval) (place : Int) (count : Nat) : Bool :=
  let point := interval.gridOn place count
  let low := interval.boundOn place interval.low
  let high := interval.boundOn place interval.high
  if interval.closed then low ≤ point && point ≤ high
  else low < point && point < high

/-- The multiple of `10 ^ place` that rounds to the number, the nearer of the
two neighbours when both do, and of two equally near ones the even one. -/
def hit? (interval : RoundingInterval) (place : Int) : Option Nat :=
  let middle := interval.boundOn place interval.middle
  let below := middle / interval.gridOn place 1
  let above := below + 1
  match interval.contains place below, interval.contains place above with
  | false, false => none
  | true, false => some below
  | false, true => some above
  | true, true =>
      let distanceBelow := middle - interval.gridOn place below
      let distanceAbove := interval.gridOn place above - middle
      if distanceBelow < distanceAbove then some below
      else if distanceAbove < distanceBelow then some above
      else some (below + below % 2)

/-- The number of decimal digits before the point, counted as negative for the
zeros that follow it. -/
def pointPosition (interval : RoundingInterval) : Int :=
  let scaled :=
    interval.middle * Nat.pow 2 interval.scale.toNat * Nat.pow 10 400 /
      Nat.pow 2 (-interval.scale).toNat
  ((Nat.toDigits 10 scaled).length : Int) - 400

/-- The first hit on the grids of `digits`, `digits + 1`, … digits, together
with the place of its last digit. -/
def firstHit (interval : RoundingInterval) (position : Int) (digits : Nat) :
    Nat → Nat × Int
  | 0 =>
      let place := position - digits
      (interval.boundOn place interval.middle / interval.gridOn place 1, place)
  | attempts + 1 =>
      let place := position - digits
      match interval.hit? place with
      | some count => (count, place)
      | none => interval.firstHit position (digits + 1) attempts

end RoundingInterval

/-- Digits without the zeros at their end. -/
def trimZeros (digits : List Char) : List Char :=
  (digits.reverse.dropWhile (· == '0')).reverse

/-- The shortest decimal of a number other than zero.  Seventeen digits always
suffice. -/
def shortest (number : Binary64) : DecimalDigits :=
  let interval := number.roundingInterval
  let (count, place) := interval.firstHit interval.pointPosition 1 17
  let digits := Nat.toDigits 10 count
  { digits := trimZeros digits, pointPosition := place + digits.length }

end Binary64

end GraphPipeline
