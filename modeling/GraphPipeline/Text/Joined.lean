/-!
# Joined text

Lists of texts written one after the other, with a separator between two
neighbours and none at either end, and the parts between separators.
-/

namespace GraphPipeline

/-- The parts in order, each but the last followed by the separator. -/
def joined (separator : String) : List String → String
  | [] => ""
  | [part] => part
  | part :: next :: rest => part ++ separator ++ joined separator (next :: rest)

/-- The parts of a list between separators, at least one. -/
def separated {α : Type} (isSeparator : α → Bool) : List α → List (List α)
  | [] => [[]]
  | item :: rest =>
      if isSeparator item then [] :: separated isSeparator rest
      else
        match separated isSeparator rest with
        | part :: parts => (item :: part) :: parts
        | [] => [[item]]

end GraphPipeline
