import GraphPipeline.Idna.Direction
import GraphPipeline.Idna.Label

/-!
# Domains in ASCII

A domain is mapped to the characters it can hold, normalized, and written label
by label in ASCII.
-/

namespace GraphPipeline.Idna

open Unicode

/-- The point between two labels. -/
def point : Nat := '.'.toNat

/-- Whether the labels of a domain agree with the rule for directions, if the
domain has to obey it. -/
def directionsAgree (labels : List Label) : Bool :=
  !labels.any (·.characters.any needsDirection) ||
    labels.all fun label => hasDirection label.characters

/-- The domain in ASCII. -/
def toAscii? (domain : List Char) : Option (List Char) := do
  let mapped ← domain.mapM fun character => mapCode? character.toNat
  let labels ← (separated (· == point) (normalize mapped.flatten)).mapM label?
  if directionsAgree labels then
    return ([point].intercalate (labels.map Label.written)).map Char.ofNat
  else none

end GraphPipeline.Idna
