import GraphPipeline.Text.Joined

/-!
# Tables of code points

A property of characters is written as a text of words with blanks between them.
The word `61-7A` stands for the code points from U+0061 to U+007A, the word `AD`
for U+00AD alone, and what follows an equals sign belongs to the code points in
front of it.
-/

namespace GraphPipeline.Unicode

/-- The value of a digit of a table. -/
def digitValue (digit : Char) : Nat :=
  if digit.isDigit then digit.toNat - '0'.toNat
  else digit.toNat - 'A'.toNat + 10

/-- The code point written in hexadecimal digits. -/
def codeOf (digits : List Char) : Nat :=
  digits.foldl (fun code digit => code * 16 + digitValue digit) 0

/-- The code points joined by plus signs. -/
def codesOf (text : List Char) : List Nat :=
  (separated (· == '+') text).map codeOf

/-- The words of a table. -/
def wordsOf (text : String) : List (List Char) :=
  (separated (fun character => character == ' ' || character == '\n')
    text.toList).filter (!·.isEmpty)

/-- The text of a word in front of a mark, and the text after the mark. -/
def splitWord (mark : Char) (word : List Char) : List Char × List Char :=
  (word.takeWhile (· != mark), (word.dropWhile (· != mark)).drop 1)

/-- The code points from a first one to a last one. -/
structure CodeRange where
  first : Nat
  last : Nat
  deriving DecidableEq

namespace CodeRange

def contains (range : CodeRange) (code : Nat) : Bool :=
  range.first ≤ code && code ≤ range.last

def ofWord (word : List Char) : CodeRange :=
  let (first, last) := splitWord '-' word
  { first := codeOf first,
    last := if last.isEmpty then codeOf first else codeOf last }

end CodeRange

/-- A set of code points. -/
abbrev CodeSet := List CodeRange

namespace CodeSet

def ofText (text : String) : CodeSet :=
  (wordsOf text).map CodeRange.ofWord

def contains (set : CodeSet) (code : Nat) : Bool :=
  set.any (·.contains code)

end CodeSet

end GraphPipeline.Unicode
