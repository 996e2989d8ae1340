import GraphPipeline.Unicode.CombiningClass
import GraphPipeline.Unicode.Decomposition

/-!
# The composed normal form

Texts that look the same have one normal form: every character is taken apart,
the marks behind each character are put in the order of their classes, and what
can be composed is composed.
-/

namespace GraphPipeline.Unicode

/-- A character taken apart a number of times. -/
def decomposeTo : Nat → Nat → List Nat
  | 0, code => [code]
  | levels + 1, code =>
      match decomposition? code with
      | some parts => parts.flatMap (decomposeTo levels)
      | none => [code]

/-- A character taken apart.  Four times are enough for every character. -/
def decompose (code : Nat) : List Nat :=
  decomposeTo 4 code

/-- Puts a character in front of ordered ones, behind the marks of lower
classes. -/
def insertMark (code : Nat) : List Nat → List Nat
  | [] => [code]
  | next :: rest =>
      if 0 < combiningClass next &&
          combiningClass next < combiningClass code then
        next :: insertMark code rest
      else code :: next :: rest

/-- The characters with the marks in the order of their classes. -/
def orderMarks (codes : List Nat) : List Nat :=
  codes.foldr insertMark []

/-- Composes a character with those that follow it.  `between` holds the marks
that could not be composed with it, and `highest` the class of the last of
them. -/
def composeFrom (starter : Nat) (between : List Nat) (highest : Nat) :
    List Nat → List Nat
  | [] => starter :: between
  | code :: rest =>
      let reachable := between.isEmpty || highest < combiningClass code
      match if reachable then compose? starter code else none with
      | some composite => composeFrom composite between highest rest
      | none =>
          if combiningClass code = 0 then
            starter :: (between ++ composeFrom code [] 0 rest)
          else composeFrom starter (between ++ [code]) (combiningClass code)
            rest

/-- Composes what can be composed. -/
def composeAll : List Nat → List Nat
  | [] => []
  | code :: rest =>
      if combiningClass code = 0 then composeFrom code [] 0 rest
      else code :: composeAll rest

/-- The composed normal form. -/
def normalize (codes : List Nat) : List Nat :=
  composeAll (orderMarks (codes.flatMap decompose))

end GraphPipeline.Unicode
