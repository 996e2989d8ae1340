import GraphPipeline.Execution.Transport

/-!
# Written durations

A duration is a sum of numbers with units, with blanks between them or not.  The
last of them may go without its unit, which is then the second.  Terms may
follow, each with a sign for a sum or for a product in front of it and with all
signs the same; numbers of seconds are multiplied.  A unit stands right after
its number, and every number of nanoseconds on the way fits in 64 bits.
-/

namespace GraphPipeline.DurationText

/-- The nanoseconds of a second. -/
def second : Nat := 1000000000

/-- The nanoseconds of each unit, by the names of the unit in lower case. -/
def units : List (List String × Nat) :=
  [(["y", "year", "years"], 365 * 24 * 3600 * second),
    (["mon", "month", "months"], 30 * 24 * 3600 * second),
    (["w", "week", "weeks"], 7 * 24 * 3600 * second),
    (["d", "day", "days"], 24 * 3600 * second),
    (["h", "hr", "hour", "hours"], 3600 * second),
    (["m", "min", "minute", "minutes"], 60 * second),
    (["s", "sec", "second", "seconds"], second),
    (["ms", "msec", "millisecond", "milliseconds"], 1000000),
    (["µs", "µsec", "µsecond", "us", "usec", "usecond", "microsecond",
      "microseconds"], 1000),
    (["ns", "nsec", "nanosecond", "nanoseconds"], 1)]

def unit? (name : List Char) : Option Nat :=
  let lowered := String.ofList (name.map Char.toLower)
  (units.find? (·.1.contains lowered)).map Prod.snd

/-- How a term is joined to what comes before it. -/
inductive Joint where
  | sum
  | product
  deriving DecidableEq

def isBlank (character : Char) : Bool :=
  character ∈ [' ', '\t', '\n', '\r']

def skipBlanks (text : List Char) : List Char :=
  text.dropWhile isBlank

def isUnitCharacter (character : Char) : Bool :=
  character.isAlpha || character == 'µ'

/-- A number of nanoseconds that fits in 64 bits. -/
def fit (nanoseconds : Nat) : Option Nat :=
  if nanoseconds < 0x10000000000000000 then some nanoseconds else none

/-- A number with the nanoseconds of the unit right after it, if there is
one. -/
structure Term where
  number : Nat
  unit : Option Nat

/-- The nanoseconds of a term. -/
def Term.nanoseconds? (term : Term) : Option Nat :=
  fit (term.number * term.unit.getD second)

/-- A term at the start of a text, and the text after its blanks. -/
def term? (text : List Char) : Option (Term × List Char) := do
  let digits := text.takeWhile Char.isDigit
  if digits.isEmpty then none
  let number ← fit (digits.foldl (fun number digit =>
    number * 10 + (digit.toNat - '0'.toNat)) 0)
  let rest := text.dropWhile Char.isDigit
  let name := rest.takeWhile isUnitCharacter
  let after := skipBlanks (rest.dropWhile isUnitCharacter)
  if name.isEmpty then return ({ number, unit := none }, after)
  return ({ number, unit := some (← unit? name) }, after)

/-- The sum of the terms at the start of a text, and the text after them.  Only
the last of the terms may go without a unit.  There are at most as many terms as
characters. -/
def sum? : Nat → List Char → Option (Nat × List Char)
  | 0, _ => none
  | count + 1, text => do
      let (term, rest) ← term? text
      let nanoseconds ← term.nanoseconds?
      if term.unit.isSome && rest.head?.any Char.isDigit then
        let (others, rest) ← sum? count rest
        return (← fit (nanoseconds + others), rest)
      else return (nanoseconds, rest)

/-- The sign in front of a term, and the text after its blanks. -/
def joint? : List Char → Option (Joint × List Char)
  | '+' :: rest => some (.sum, skipBlanks rest)
  | '*' :: rest => some (.product, skipBlanks rest)
  | _ => none

/-- The terms of a text with the signs in front of them, of which there are at
most as many as characters. -/
def signedTerms? : Nat → List Char → Option (List (Joint × Nat))
  | _, [] => some []
  | 0, _ :: _ => none
  | count + 1, text => do
      let (sign, rest) ← joint? text
      let (term, rest) ← term? rest
      let nanoseconds ← term.nanoseconds?
      let terms ← signedTerms? count rest
      return (sign, nanoseconds) :: terms

def join (sign : Joint) (left right : Nat) : Option Nat :=
  match sign with
  | .sum => fit (left + right)
  | .product => fit (left * right / second)

/-- Joins terms that all have the same sign to a first one. -/
def combine? (first : Nat) : List (Joint × Nat) → Option Nat
  | [] => some first
  | (sign, term) :: rest =>
      if rest.all (·.1 == sign) then do
        let others ← rest.foldlM (fun sum next => join sign sum next.2) term
        join sign first others
      else none

/-- The duration a text stands for. -/
def parse? (text : String) : Option Duration := do
  let characters := skipBlanks text.toList
  let (first, rest) ← sum? characters.length characters
  let terms ← signedTerms? rest.length rest
  let nanoseconds ← combine? first terms
  return ⟨nanoseconds⟩

end GraphPipeline.DurationText
