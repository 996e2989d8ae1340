/-!
# Binary64 numbers

A finite number of the 64-bit binary interchange format is kept as its three
fields, so that each number has exactly one representation.  Rounding takes an
exact quotient of natural numbers to the nearest such number, ties going to the
even significand; multiplication, division and the reading of decimals are
rounded exact operations.  No floating-point instruction is involved.
-/

namespace GraphPipeline

/-- The fields of a finite binary64 number.  The biased exponent 2047, which
encodes infinities and undefined results, is excluded by its type. -/
structure Binary64 where
  negative : Bool
  biasedExponent : Fin 2047
  fraction : Fin 0x10000000000000
  deriving DecidableEq

namespace Binary64

/-- The integer that is scaled by a power of two. -/
def significand (number : Binary64) : Nat :=
  if number.biasedExponent.val = 0 then
    number.fraction.val
  else
    0x10000000000000 + number.fraction.val

/-- The power of two that scales the significand. -/
def exponent (number : Binary64) : Int :=
  (max number.biasedExponent.val 1 : Nat) - 1075

def zero (negative : Bool) : Binary64 :=
  { negative, biasedExponent := 0, fraction := 0 }

instance : Inhabited Binary64 := ⟨zero false⟩

def isZero (number : Binary64) : Bool :=
  number.significand == 0

/-- Numerical equality: the two zeros are the same number. -/
def sameValue (left right : Binary64) : Bool :=
  left == right || (left.isZero && right.isZero)

/-- The fields of `significand * 2 ^ exponent`, when the significand has at most
53 bits and a significand of fewer bits comes with the least exponent. -/
def ofParts? (negative : Bool) (significand : Nat) (exponent : Int) :
    Option Binary64 :=
  let biased : Nat :=
    if significand < 0x10000000000000 then 0 else (exponent + 1075).toNat
  if bounded : biased < 2047 then
    some {
      negative
      biasedExponent := ⟨biased, bounded⟩
      fraction := Fin.ofNat 0x10000000000000 significand }
  else
    none

/-- The quotient rounded to the nearest integer, a half going to the even
neighbour. -/
def roundQuotient (numerator denominator : Nat) : Nat :=
  let floor := numerator / denominator
  let twice := 2 * (numerator % denominator)
  if twice < denominator then floor
  else if denominator < twice then floor + 1
  else floor + floor % 2

/-- The greatest exponent that leaves the quotient a significand of 53 bits,
but never less than the least exponent of the format. -/
def quotientExponent (numerator denominator : Nat) : Int :=
  let guess : Int := (Nat.log2 numerator : Int) - Nat.log2 denominator - 52
  let reaches : Bool :=
    0x10000000000000 * denominator * Nat.pow 2 guess.toNat ≤
      numerator * Nat.pow 2 (-guess).toNat
  max (if reaches then guess else guess - 1) (-1074)

/-- The number nearest to a positive quotient, or nothing when it lies beyond
the largest finite number.  A zero numerator gives a zero. -/
def ofQuotient? (negative : Bool) (numerator denominator : Nat) :
    Option Binary64 :=
  if numerator = 0 then
    some (zero negative)
  else
    let exponent := quotientExponent numerator denominator
    let rounded := roundQuotient (numerator * Nat.pow 2 (-exponent).toNat)
      (denominator * Nat.pow 2 exponent.toNat)
    if rounded = 0x20000000000000 then
      ofParts? negative 0x10000000000000 (exponent + 1)
    else
      ofParts? negative rounded exponent

/-- The number nearest to an integer. -/
def ofInt? (value : Int) : Option Binary64 :=
  ofQuotient? (value < 0) value.natAbs 1

/-- The number nearest to `digits * 10 ^ exponent`.  Beyond four hundred
decimal places on either side the answer no longer depends on the digits. -/
def ofDecimal? (negative : Bool) (digits : Nat) (exponent : Int) :
    Option Binary64 :=
  let magnitude : Int := (Nat.log2 digits : Int) / 4 + exponent
  if digits = 0 then some (zero negative)
  else if 400 < magnitude then none
  else if (Nat.log2 digits : Int) + exponent < -400 then some (zero negative)
  else ofQuotient? negative (digits * Nat.pow 10 exponent.toNat)
      (Nat.pow 10 (-exponent).toNat)

/-- The exact product, rounded. -/
def mul? (left right : Binary64) : Option Binary64 :=
  let exponent := left.exponent + right.exponent
  ofQuotient? (left.negative != right.negative)
    (left.significand * right.significand * Nat.pow 2 exponent.toNat)
    (Nat.pow 2 (-exponent).toNat)

/-- The exact quotient, rounded.  There is none when the divisor is zero. -/
def div? (left right : Binary64) : Option Binary64 :=
  if right.isZero then none
  else
    let exponent := left.exponent - right.exponent
    ofQuotient? (left.negative != right.negative)
      (left.significand * Nat.pow 2 exponent.toNat)
      (right.significand * Nat.pow 2 (-exponent).toNat)

end Binary64

end GraphPipeline
