import GraphPipeline.Number.Binary64

/-!
# Binary64 numbers with infinities

The numbers a caller may hand over: finite ones, the two infinities and the
undefined number.  A decimal text is read as the nearest number, and one beyond
the largest finite number as an infinity.
-/

namespace GraphPipeline

inductive Extended64 where
  | finite (value : Binary64)
  | infinite (negative : Bool)
  | undefined
  deriving DecidableEq

namespace Extended64

def isDigit (character : Char) : Bool :=
  '0' ≤ character && character ≤ '9'

def digitsValue (digits : List Char) : Nat :=
  digits.foldl (fun value digit => value * 10 + (digit.toNat - '0'.toNat)) 0

/-- The exponent at the end of a decimal: nothing, or a mark, an optional sign
and digits. -/
def power? : List Char → Option Int
  | [] => some 0
  | mark :: rest =>
      let unsigned? (digits : List Char) : Option Int :=
        if digits.isEmpty || !digits.all isDigit then none
        else some (digitsValue digits)
      if mark = 'e' ∨ mark = 'E' then
        match rest with
        | '+' :: digits => unsigned? digits
        | '-' :: digits => (unsigned? digits).map (- ·)
        | digits => unsigned? digits
      else none

/-- A decimal without a sign.  Digits may be missing on one side of the point,
but not on both. -/
def magnitude? (negative : Bool) (text : List Char) : Option Extended64 := do
  let whole := text.takeWhile isDigit
  let rest := text.dropWhile isDigit
  let (fraction, rest) := match rest with
    | '.' :: rest => (rest.takeWhile isDigit, rest.dropWhile isDigit)
    | rest => ([], rest)
  if whole.isEmpty && fraction.isEmpty then none
  let power ← power? rest
  let digits := digitsValue (whole ++ fraction)
  match Binary64.ofDecimal? negative digits (power - fraction.length) with
  | some value => some (.finite value)
  | none => some (.infinite negative)

/-- A decimal or one of the words for the other numbers, in any case. -/
def unsigned? (negative : Bool) (text : List Char) : Option Extended64 :=
  let word := String.ofList (text.map Char.toLower)
  if word = "inf" ∨ word = "infinity" then some (.infinite negative)
  else if word = "nan" then some .undefined
  else magnitude? negative text

/-- The number a text stands for. -/
def parse? (text : String) : Option Extended64 :=
  match text.toList with
  | '+' :: rest => unsigned? false rest
  | '-' :: rest => unsigned? true rest
  | rest => unsigned? false rest

end Extended64

end GraphPipeline
