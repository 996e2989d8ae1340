/-!
# Packed list and non-null wrappings

The lists and non-null marks around a named GraphQL type are packed into one
word of sixteen bits: bit 15 marks the named type as non-null, bits 12 to 14
count the lists around it, and bit `n` below them marks the `n`th list from
inside as non-null.  At most seven lists fit.
-/

namespace GraphPipeline

structure Wrapping where
  bits : UInt16
  deriving DecidableEq, Inhabited

/-- The type has seven lists already. -/
inductive WrappingError where
  | tooManyLists
  deriving DecidableEq

def WrappingError.message : WrappingError → String
  | .tooManyLists => "too many nested lists"

namespace Wrapping

def innerRequiredBit : UInt16 := 0x8000

def countMask : UInt16 := 0x7000

def countShift : UInt16 := 12

def greatestCount : Nat := 7

/-- The bit of the list at a distance from the named type. -/
def listBit (position : Nat) : UInt16 :=
  1 <<< UInt16.ofNat position

def nullable : Wrapping := ⟨0⟩

def required : Wrapping := ⟨innerRequiredBit⟩

/-- A named type without lists. -/
def named (isRequired : Bool) : Wrapping :=
  if isRequired then required else nullable

/-- How many lists surround the named type. -/
def listCount (wrapping : Wrapping) : Nat :=
  ((wrapping.bits &&& countMask) >>> countShift).toNat

def hasBit (wrapping : Wrapping) (bit : UInt16) : Bool :=
  wrapping.bits &&& bit != 0

/-- The same word with another count of lists. -/
def withCount (bits : UInt16) (count : Nat) : UInt16 :=
  (bits &&& ~~~countMask) ||| (UInt16.ofNat count <<< countShift)

/-- Marks the outermost type as non-null. -/
def nonNull (wrapping : Wrapping) : Wrapping :=
  match wrapping.listCount with
  | 0 => ⟨wrapping.bits ||| innerRequiredBit⟩
  | inner + 1 => ⟨wrapping.bits ||| listBit inner⟩

/-- Wraps the type in a list, which is marked as non-null on demand. -/
def inList (wrapping : Wrapping) (isNonNull : Bool) :
    Except WrappingError Wrapping :=
  let count := wrapping.listCount
  if count < greatestCount then
    let bits := withCount wrapping.bits (count + 1)
    .ok ⟨if isNonNull then bits ||| listBit count else bits⟩
  else
    .error .tooManyLists

/-- The wrapping of the elements, if the outermost type is a list. -/
def element? (wrapping : Wrapping) : Option Wrapping :=
  match wrapping.listCount with
  | 0 => none
  | inner + 1 => some ⟨withCount (wrapping.bits &&& ~~~listBit inner) inner⟩

def innerIsRequired (wrapping : Wrapping) : Bool :=
  wrapping.hasBit innerRequiredBit

/-- Whether the outermost type is non-null. -/
def isRequired (wrapping : Wrapping) : Bool :=
  match wrapping.listCount with
  | 0 => wrapping.innerIsRequired
  | inner + 1 => wrapping.hasBit (listBit inner)

def isNullable (wrapping : Wrapping) : Bool :=
  !wrapping.isRequired

def isList (wrapping : Wrapping) : Bool :=
  0 < wrapping.listCount

/-- For each list, from inside to outside, whether it is non-null. -/
def lists (wrapping : Wrapping) : List Bool :=
  (List.range wrapping.listCount).map fun position =>
    wrapping.hasBit (listBit position)

def mark (isNonNull : Bool) : String :=
  if isNonNull then "!" else ""

/-- The closing brackets of lists given from inside to outside. -/
def closings : List Bool → String
  | [] => ""
  | isNonNull :: outer => "]" ++ mark isNonNull ++ closings outer

/-- The opening brackets of a number of lists. -/
def openings : Nat → String
  | 0 => ""
  | count + 1 => "[" ++ openings count

/-- The wrapped type in GraphQL notation. -/
def render (wrapping : Wrapping) (name : String) : String :=
  openings wrapping.listCount ++ name ++ mark wrapping.innerIsRequired ++
    closings wrapping.lists

/-- Wrappings are ordered by their words. -/
def compare (left right : Wrapping) : Ordering :=
  Ord.compare left.bits.toNat right.bits.toNat

end Wrapping

end GraphPipeline
