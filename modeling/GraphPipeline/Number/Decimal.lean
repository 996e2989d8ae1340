import GraphPipeline.Number.Shortest

/-!
# Writing decimals

A layout says which decimals are written with a plain point and which with an
exponent.  A plain decimal always shows a digit on both sides of its point; an
exponent always shows its sign, and a single digit before it has no point.
-/

namespace GraphPipeline

/-- The positions of the first digit that are written with a plain point: the
units digit has position 0, the tenths digit position -1. -/
structure DecimalLayout where
  leastPlain : Int
  greatestPlain : Int

namespace DecimalDigits

def plain (decimal : DecimalDigits) : List Char :=
  let count : Int := decimal.digits.length
  let position := decimal.pointPosition
  if position ≤ 0 then
    '0' :: '.' :: List.replicate (-position).toNat '0' ++ decimal.digits
  else if position < count then
    decimal.digits.take position.toNat ++ '.' ::
      decimal.digits.drop position.toNat
  else
    decimal.digits ++ List.replicate (position - count).toNat '0' ++ ['.', '0']

def scientific (decimal : DecimalDigits) : List Char :=
  let power := decimal.pointPosition - 1
  let mantissa := match decimal.digits with
    | first :: second :: rest => first :: '.' :: second :: rest
    | digits => digits
  let sign := if power < 0 then '-' else '+'
  mantissa ++ 'e' :: sign :: Nat.toDigits 10 power.natAbs

def render (layout : DecimalLayout) (decimal : DecimalDigits) : List Char :=
  let first := decimal.pointPosition - 1
  if layout.leastPlain ≤ first && first ≤ layout.greatestPlain then
    decimal.plain
  else
    decimal.scientific

end DecimalDigits

/-- The sign, also of a negative zero, and the shortest decimal. -/
def Binary64.render (layout : DecimalLayout) (number : Binary64) : String :=
  let magnitude :=
    if number.isZero then ['0', '.', '0']
    else number.shortest.render layout
  String.ofList (if number.negative then '-' :: magnitude else magnitude)

end GraphPipeline
