import GraphPipeline.Compile.Chain
import Mathlib.Logic.Function.Basic

/-!
# Read paths

The paths of a program are listed as if it went on from where it is.  A program
that jumps to an element bound further out reads below that element instead, so
its located paths start again from where the element was bound.  The two lists
agree on the programs whose jumps stay at the same path.
-/

namespace GraphPipeline

/-- The response path a program is at, and those of the elements bound at each
depth. -/
structure Spot where
  bound : Nat → List String
  path : List String

namespace Spot

/-- The root of the data, where nothing else is bound. -/
def root : Spot :=
  { bound := fun _ => [], path := [] }

def below (spot : Spot) (key : String) : Spot :=
  { spot with path := spot.path ++ [key] }

def bind (spot : Spot) (depth : Nat) : Spot :=
  { spot with bound := Function.update spot.bound depth spot.path }

def jump (spot : Spot) (depth : Nat) : Spot :=
  { spot with path := spot.bound depth }

end Spot

/-- The fields of a connection that its pages are read from. -/
def PageKeys.paths (keys : PageKeys) (start : List String) :
    List (List String) :=
  [start ++ [keys.pageInfo],
    start ++ [keys.pageInfo, keys.hasNextPage],
    start ++ [keys.pageInfo, keys.endCursor],
    start ++ [keys.nodes]]

namespace Program

mutual

/-- The response keys on the way to each field a program reads, jumps being
followed to where their elements are bound. -/
def locatedPathsFrom (spot : Spot) : Program → List (List String)
  | .field key inner =>
      (spot.path ++ [key]) :: locatedPathsFrom (spot.below key) inner
  | .readScalar key _ => [spot.path ++ [key]]
  | .optional inner => locatedPathsFrom spot inner
  | .mapList _ inner => locatedPathsFrom spot inner
  | .narrow _ _ inner => locatedPathsFrom spot inner
  | .buildRecord fields => locatedPathsOfFields spot fields
  | .enforceSingle inner => locatedPathsFrom spot inner
  | .toDictionary entry => locatedPathsFrom spot entry
  | .keyValue key value =>
    locatedPathsFrom spot key ++ locatedPathsFrom spot value
  | .subquerySink _ keys inner =>
      keys.paths spot.path ++ locatedPathsFrom (spot.below keys.nodes) inner
  | .bind depth inner => locatedPathsFrom (spot.bind depth) inner
  | .parameter depth inner => locatedPathsFrom (spot.jump depth) inner

def locatedPathsOfFields (spot : Spot) :
    List (String × Program) → List (List String)
  | [] => []
  | (_, program) :: fields =>
      locatedPathsFrom spot program ++ locatedPathsOfFields spot fields

end

/-- The paths of the fields a program reads from the data of a response. -/
def locatedPaths (program : Program) : List (List String) :=
  program.locatedPathsFrom .root

mutual

/-- Every jump leads to an element at the path it comes from. -/
def jumpsInPlaceFrom (spot : Spot) : Program → Bool
  | .field key inner => jumpsInPlaceFrom (spot.below key) inner
  | .readScalar _ _ => true
  | .optional inner => jumpsInPlaceFrom spot inner
  | .mapList _ inner => jumpsInPlaceFrom spot inner
  | .narrow _ _ inner => jumpsInPlaceFrom spot inner
  | .buildRecord fields => jumpsInPlaceOfFields spot fields
  | .enforceSingle inner => jumpsInPlaceFrom spot inner
  | .toDictionary entry => jumpsInPlaceFrom spot entry
  | .keyValue key value =>
    jumpsInPlaceFrom spot key && jumpsInPlaceFrom spot value
  | .subquerySink _ keys inner => jumpsInPlaceFrom (spot.below keys.nodes) inner
  | .bind depth inner => jumpsInPlaceFrom (spot.bind depth) inner
  | .parameter depth inner =>
      spot.bound depth == spot.path && jumpsInPlaceFrom (spot.jump depth) inner

def jumpsInPlaceOfFields (spot : Spot) : List (String × Program) → Bool
  | [] => true
  | (_, program) :: fields =>
      jumpsInPlaceFrom spot program && jumpsInPlaceOfFields spot fields

end

def jumpsInPlace (program : Program) : Bool :=
  program.jumpsInPlaceFrom .root

mutual

/-- Without a jump to another path, the listed paths are the located ones. -/
theorem readPathsFrom_eq_located (program : Program) {spot : Spot}
    (inPlace : program.jumpsInPlaceFrom spot = true) :
    program.readPathsFrom spot.path = program.locatedPathsFrom spot := by
  cases program with
  | readScalar key type => rfl
  | field key inner =>
      exact congrArg (_ :: ·) (readPathsFrom_eq_located inner inPlace)
  | optional inner => exact readPathsFrom_eq_located inner inPlace
  | mapList filters inner => exact readPathsFrom_eq_located inner inPlace
  | narrow typeName mode inner => exact readPathsFrom_eq_located inner inPlace
  | enforceSingle inner => exact readPathsFrom_eq_located inner inPlace
  | toDictionary entry => exact readPathsFrom_eq_located entry inPlace
  | buildRecord fields => exact readPathsOfFields_eq_located fields inPlace
  | keyValue key value =>
      simp only [jumpsInPlaceFrom, Bool.and_eq_true] at inPlace
      simp only [readPathsFrom, locatedPathsFrom]
      rw [readPathsFrom_eq_located key inPlace.1,
        readPathsFrom_eq_located value inPlace.2]
  | subquerySink id keys inner =>
      exact congrArg (keys.paths spot.path ++ ·)
        (readPathsFrom_eq_located inner inPlace)
  | bind depth inner =>
      have inside : inner.readPathsFrom (spot.bind depth).path = _ :=
        readPathsFrom_eq_located inner inPlace
      exact inside
  | parameter depth inner =>
      simp only [jumpsInPlaceFrom, Bool.and_eq_true, beq_iff_eq] at inPlace
      have inside := readPathsFrom_eq_located inner inPlace.2
      simp only [Spot.jump, inPlace.1] at inside
      simpa only [readPathsFrom, locatedPathsFrom, Spot.jump, inPlace.1]
        using inside
termination_by structural program

theorem readPathsOfFields_eq_located (fields : List (String × Program))
    {spot : Spot}
    (inPlace : jumpsInPlaceOfFields spot fields = true) :
    readPathsOfFields spot.path fields = locatedPathsOfFields spot fields := by
  cases fields with
  | nil => rfl
  | cons field fields =>
      obtain ⟨key, program⟩ := field
      simp only [jumpsInPlaceOfFields, Bool.and_eq_true] at inPlace
      simp only [readPathsOfFields, locatedPathsOfFields]
      rw [readPathsFrom_eq_located program inPlace.1,
        readPathsOfFields_eq_located fields inPlace.2]
termination_by structural fields

end

/-- The paths a program reads, if no jump of it leads to another path. -/
theorem readPaths_eq_located {program : Program}
    (inPlace : program.jumpsInPlace = true) :
    program.readPaths = program.locatedPaths :=
  readPathsFrom_eq_located program inPlace

mutual

/-- Only the depths a program reads need to be bound as they were. -/
theorem locatedPathsFrom_congr (program : Program) {path : List String}
    {bound other : Nat → List String}
    (agrees :
      ∀ depth, program.readsBound depth = true → other depth = bound depth) :
    program.locatedPathsFrom ⟨other, path⟩ =
      program.locatedPathsFrom ⟨bound, path⟩ := by
  cases program with
  | readScalar key type => rfl
  | field key inner =>
    exact congrArg (_ :: ·) (locatedPathsFrom_congr inner agrees)
  | optional inner => exact locatedPathsFrom_congr inner agrees
  | mapList filters inner => exact locatedPathsFrom_congr inner agrees
  | narrow typeName mode inner => exact locatedPathsFrom_congr inner agrees
  | enforceSingle inner => exact locatedPathsFrom_congr inner agrees
  | toDictionary entry => exact locatedPathsFrom_congr entry agrees
  | buildRecord fields => exact locatedPathsOfFields_congr fields agrees
  | keyValue key value =>
      simp only [locatedPathsFrom]
      congr 1
      · apply locatedPathsFrom_congr key
        intro depth reads
        exact agrees depth (by simp [readsBound, reads])
      · apply locatedPathsFrom_congr value
        intro depth reads
        exact agrees depth (by simp [readsBound, reads])
  | subquerySink id keys inner =>
      exact congrArg (keys.paths path ++ ·)
        (locatedPathsFrom_congr inner agrees)
  | bind depth inner =>
      simp only [locatedPathsFrom, Spot.bind]
      apply locatedPathsFrom_congr inner
      intro deeper reads
      by_cases same : deeper = depth
      · rw [same, Function.update_self, Function.update_self]
      · rw [Function.update_of_ne same, Function.update_of_ne same]
        exact agrees deeper (by simp [readsBound, reads, Ne.symm same])
  | parameter depth inner =>
      simp only [locatedPathsFrom, Spot.jump]
      rw [agrees depth (by simp [readsBound])]
      apply locatedPathsFrom_congr inner
      intro deeper reads
      exact agrees deeper (by simp [readsBound, reads])
termination_by structural program

theorem locatedPathsOfFields_congr (fields : List (String × Program))
    {path : List String} {bound other : Nat → List String}
    (agrees :
      ∀ depth,
        readsBoundInFields depth fields = true → other depth = bound depth) :
    locatedPathsOfFields ⟨other, path⟩ fields =
      locatedPathsOfFields ⟨bound, path⟩ fields := by
  cases fields with
  | nil => rfl
  | cons field fields =>
      obtain ⟨key, program⟩ := field
      simp only [locatedPathsOfFields]
      congr 1
      · apply locatedPathsFrom_congr program
        intro depth reads
        exact agrees depth (by simp [readsBoundInFields, reads])
      · apply locatedPathsOfFields_congr fields
        intro depth reads
        exact agrees depth (by simp [readsBoundInFields, reads])
termination_by structural fields

end

/-- An element that is not bound because nobody reads it there makes no
difference. -/
theorem locatedPathsFrom_bindIfRead (program : Program) (depth : Nat)
    (spot : Spot) :
    (program.bindIfRead depth).locatedPathsFrom spot =
      program.locatedPathsFrom (spot.bind depth) := by
  unfold bindIfRead
  split
  · rfl
  · rename_i unread
    symm
    apply locatedPathsFrom_congr
    intro other reads
    have different : other ≠ depth := by
      intro same
      subst other
      exact unread reads
    exact Function.update_of_ne different _ _

end Program

/-! ### Frames -/

namespace Frame

/-- Where the hole of a frame is. -/
def lead (spot : Spot) : Frame → Spot
  | .field key => spot.below key
  | .subquerySink _ keys => spot.below keys.nodes
  | .bind depth => spot.bind depth
  | .parameter depth => spot.jump depth
  | .optional => spot
  | .mapList _ => spot
  | .narrow _ _ => spot

/-- What a frame reads itself. -/
def reads (spot : Spot) : Frame → List (List String)
  | .field key => [spot.path ++ [key]]
  | .subquerySink _ keys => keys.paths spot.path
  | _ => []

theorem locatedPathsFrom_fill (frame : Frame) (program : Program)
    (spot : Spot) :
    (frame.fill program).locatedPathsFrom spot =
      frame.reads spot ++ program.locatedPathsFrom (frame.lead spot) := by
  cases frame with
  | bind depth => exact program.locatedPathsFrom_bindIfRead depth spot
  | field key => rfl
  | optional => rfl
  | mapList filters => rfl
  | narrow typeName mode => rfl
  | parameter depth => rfl
  | subquerySink id keys => rfl

end Frame

/-- Where the hole of some frames is, given from outside to inside. -/
def leadFrames (spot : Spot) : List Frame → Spot
  | [] => spot
  | frame :: frames => leadFrames (frame.lead spot) frames

/-- What some frames read themselves. -/
def framesRead (spot : Spot) : List Frame → List (List String)
  | [] => []
  | frame :: frames => frame.reads spot ++ framesRead (frame.lead spot) frames

theorem leadFrames_append (spot : Spot) (outer inner : List Frame) :
    leadFrames spot (outer ++ inner) =
      leadFrames (leadFrames spot outer) inner := by
  induction outer generalizing spot with
  | nil => rfl
  | cons frame outer induction => exact induction _

theorem framesRead_append (spot : Spot) (outer inner : List Frame) :
    framesRead spot (outer ++ inner) =
      framesRead spot outer ++ framesRead (leadFrames spot outer) inner := by
  induction outer generalizing spot with
  | nil => rfl
  | cons frame outer induction => simp [framesRead, leadFrames, induction]

/-- A program inside of frames reads what it reads at the hole, besides the
frames. -/
theorem locatedPathsFrom_fillFrames (frames : List Frame) (program : Program)
    (spot : Spot) :
    (fillFrames frames program).locatedPathsFrom spot =
      framesRead spot frames ++
        program.locatedPathsFrom (leadFrames spot frames) := by
  induction frames generalizing spot with
  | nil => rfl
  | cons frame frames induction =>
      calc (fillFrames (frame :: frames) program).locatedPathsFrom spot
          = frame.reads spot ++ (fillFrames frames program).locatedPathsFrom
              (frame.lead spot) := frame.locatedPathsFrom_fill _ spot
        _ = framesRead spot (frame :: frames) ++
              program.locatedPathsFrom (leadFrames spot (frame :: frames)) := by
            rw [induction, ← List.append_assoc]
            rfl

end GraphPipeline
