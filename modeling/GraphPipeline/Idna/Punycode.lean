/-!
# Labels beyond ASCII

A label of a domain with characters beyond ASCII is written in ASCII: its ASCII
characters first, and then where the others are inserted, in the order of their
codes.  Each insertion is a difference written in digits to the base 36, with
thresholds that adapt to the differences so far.
-/

namespace GraphPipeline.Idna.Punycode

def base : Nat := 36

def leastThreshold : Nat := 1

def greatestThreshold : Nat := 26

def initialBias : Nat := 72

/-- The first code beyond ASCII. -/
def initialCode : Nat := 128

def hyphen : Nat := '-'.toNat

/-- The digit that stands for a value: a letter, or a number after the
letters. -/
def digit (value : Nat) : Nat :=
  if value < 26 then 'a'.toNat + value else '0'.toNat + value - 26

/-- The value of a digit in lower case. -/
def digitValue? (code : Nat) : Option Nat :=
  if 'a'.toNat ≤ code && code ≤ 'z'.toNat then some (code - 'a'.toNat)
  else if '0'.toNat ≤ code && code ≤ '9'.toNat then some (code - '0'.toNat + 26)
  else none

def threshold (position bias : Nat) : Nat :=
  min greatestThreshold (max leastThreshold (position - bias))

/-- Divides a difference until it is small, and counts the divisions. -/
def reduce : Nat → Nat → Nat → Nat × Nat
  | 0, difference, count => (difference, count)
  | fuel + 1, difference, count =>
      if 455 < difference then reduce fuel (difference / 35) (count + 1)
      else (difference, count)

/-- The bias for the next difference. -/
def adapt (difference written : Nat) (isFirst : Bool) : Nat :=
  let damped := if isFirst then difference / 700 else difference / 2
  let spread := damped + damped / written
  let (rest, count) := reduce (spread.log2 + 1) spread 0
  base * count + 36 * rest / (rest + 38)

/-! ### Writing -/

/-- The digits of a difference.  Each digit but the last divides what is left,
so as many digits as the difference has bits are enough. -/
def digitsFrom (bias : Nat) : Nat → Nat → Nat → List Nat
  | 0, _, rest => [digit (rest % base)]
  | fuel + 1, position, rest =>
      let limit := threshold position bias
      if rest < limit then [digit rest]
      else
        digit (limit + (rest - limit) % (base - limit)) ::
          digitsFrom bias fuel (position + base)
            ((rest - limit) / (base - limit))

def digits (bias difference : Nat) : List Nat :=
  digitsFrom bias (difference.log2 + 1) base difference

/-- The insertions written so far. -/
structure Progress where
  output : List Nat
  difference : Nat
  bias : Nat
  written : Nat

/-- Passes over one character of the label while characters of one code are
inserted. -/
def pass (basic code : Nat) (progress : Progress) (character : Nat) :
    Progress :=
  if character < code then
    { progress with difference := progress.difference + 1 }
  else if character = code then
    { output := progress.output ++ digits progress.bias progress.difference
      difference := 0
      bias :=
        adapt progress.difference (progress.written + 1)
          (progress.written == basic)
      written := progress.written + 1 }
  else progress

/-- Inserts the characters of each code, the codes ascending. -/
def insertAll (label : List Nat) (basic : Nat) :
    List Nat → Nat → Progress → Progress
  | [], _, progress => progress
  | code :: codes, last, progress =>
      let before :=
        { progress with
          difference :=
            progress.difference + (code - last) * (progress.written + 1) }
      let after := label.foldl (pass basic code) before
      insertAll label basic codes (code + 1)
        { after with difference := after.difference + 1 }

/-- The label in ASCII, without the mark in front of it. -/
def encode (label : List Nat) : List Nat :=
  let basic := label.filter (· < initialCode)
  let codes := (label.filter (initialCode ≤ ·)).mergeSort.eraseDups
  let separator := if basic.isEmpty then [] else [hyphen]
  let progress :=
    insertAll label basic.length codes initialCode
      { output := [], difference := 0, bias := initialBias,
        written := basic.length }
  basic ++ separator ++ progress.output

/-! ### Reading -/

/-- The difference at the start of some digits, and the digits after it.  The
next digit counts as many times as `weight` says. -/
def difference? (bias : Nat) :
    List Nat → Nat → Nat → Nat → Option (Nat × List Nat)
  | [], _, _, _ => none
  | code :: rest, position, weight, sum => do
      let value ← digitValue? code
      let limit := threshold position bias
      let sum := sum + value * weight
      if value < limit then return (sum, rest)
      else difference? bias rest (position + base) (weight * (base - limit)) sum

/-- Inserts characters into a label as some digits say, of which each insertion
takes at least one.  The next character is inserted at `place` or later, and its
code is `code` or greater. -/
def insertions? :
    Nat → List Nat → List Nat → Nat → Nat → Nat → Option (List Nat)
  | _, [], label, _, _, _ => some label
  | 0, _ :: _, _, _, _, _ => none
  | fuel + 1, digits, label, code, place, bias => do
      let (difference, rest) ← difference? bias digits base 1 0
      let size := label.length + 1
      let next := code + (place + difference) / size
      let index := (place + difference) % size
      if Nat.isValidChar next then
        insertions? fuel rest (label.insertIdx index next) next (index + 1)
          (adapt difference size (place == 0))
      else none

/-- The label written in ASCII without the mark in front of it.  What stands
before the last hyphen are its ASCII characters, and without any there is no
hyphen. -/
def decode? (written : List Nat) : Option (List Nat) :=
  let digits := (written.reverse.takeWhile (· != hyphen)).reverse
  let basic := written.take (written.length - digits.length - 1)
  insertions? written.length (if basic.isEmpty then written else digits) basic
    initialCode 0 initialBias

end GraphPipeline.Idna.Punycode
