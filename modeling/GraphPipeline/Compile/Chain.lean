import GraphPipeline.Compile.Error
import GraphPipeline.Program

/-!
# Positions along a pipeline

While the steps of a pipeline are compiled, the chain holds where they have led
so far and the frames of the program around that place.  A scope is such a place
that a projection has given a name to.
-/

namespace GraphPipeline

/-- An object the steps have led to.  Its type is the type of one element if it
comes from a list, and its name is the name of the field it comes from.  At a
position where `absentOk` holds the program can produce a null already. -/
structure ObjectPosition where
  set : SetId
  type : TypeRef
  absentOk : Bool
  name : String

inductive Position where
  | object (position : ObjectPosition)
  | value (program : Program) (isList : Bool)
  | dictionary (entry : Program)

/-- A program with a hole, for the program of the steps that follow. -/
inductive Frame where
  | field (key : String)
  | optional
  | mapList (filters : Nat)
  | narrow (typeName : String) (mode : NarrowingMode)
  | bind (depth : Nat)
  | parameter (depth : Nat)
  | subquerySink (id : SubqueryId) (keys : PageKeys)
  deriving DecidableEq

/-- The program of a frame whose hole is filled.  An element nobody goes on from
is not bound. -/
def Frame.fill : Frame → Program → Program
  | .field key, inner => .field key inner
  | .optional, inner => .optional inner
  | .mapList filters, inner => .mapList filters inner
  | .narrow typeName mode, inner => .narrow typeName mode inner
  | .bind depth, inner => inner.bindIfRead depth
  | .parameter depth, inner => .parameter depth inner
  | .subquerySink id keys, inner => .subquerySink id keys inner

/-- Fills the innermost of some frames, given from outside to inside. -/
def fillFrames (frames : List Frame) (program : Program) : Program :=
  frames.foldr Frame.fill program

/-- The cursor of a connection whose pages the next step asks for. -/
structure PendingPage where
  variableName : String
  initialCursor : Option String

/-- The place the steps have led to.  The frames are given from outside to
inside, and `list` is the position among them of the list whose elements the
steps are at. -/
structure Chain where
  frames : List Frame
  position : Position
  list : Option Nat
  path : List String
  repeated : Bool
  pendingPage : Option PendingPage
  terminal : Option String
  enforceSingle : Bool

/-- A projection around the steps being compiled.  The outermost scope is the
root object of the operation and has no parameter. -/
structure Scope where
  parameter : Option Parameter
  object : ObjectPosition
  path : List String
  repeated : Bool

/-- Scopes from inside to outside. -/
abbrev Scopes := List Scope

namespace Scopes

/-- The scope a source stands for and its depth, the root being at depth zero.
A parameter stands for the innermost scope it names. -/
def resolve? : Scopes → Source → Option (Nat × Scope)
  | [], _ => none
  | [scope], .root _ => some (0, scope)
  | _ :: outer, .root kind => resolve? outer (.root kind)
  | scope :: outer, .parameter parameter =>
      if scope.parameter = some parameter then some (outer.length, scope)
      else resolve? outer (.parameter parameter)

/-- The depth of the innermost scope. -/
def innermostDepth (scopes : Scopes) : Nat :=
  scopes.length - 1

end Scopes

namespace Chain

def push (chain : Chain) (frame : Frame) : Chain :=
  { chain with frames := chain.frames ++ [frame] }

/-- Guards what follows against null, if the type admits it. -/
def guardNull (chain : Chain) (type : TypeRef) : Chain :=
  if type.isNullable then chain.push .optional else chain

/-- The start of a pipeline at the object of a scope.  The object of the
innermost scope is at hand; that of any other is the one bound at its depth. -/
def start (frames : List Frame) (scopes : Scopes) (depth : Nat)
    (scope : Scope) :
    Chain :=
  { frames :=
      if depth < scopes.innermostDepth then frames ++ [.parameter depth]
      else frames
    position := .object scope.object
    list := none
    path := scope.path
    repeated := scope.repeated
    pendingPage := none
    terminal := none
    enforceSingle := false }

/-- Goes on inside the elements of a list. -/
def mapList (chain : Chain) (element : TypeRef) : Chain :=
  let mapped :=
    { chain.push (.mapList 0) with
      list := some chain.frames.length, repeated := true }
  mapped.guardNull element

/-- Counts a filter on the elements of the list at a position among the
frames. -/
def countFilter (chain : Chain) (index : Nat) : Chain :=
  { chain with
    frames := chain.frames.modify index fun
      | .mapList filters => .mapList (filters + 1)
      | frame => frame }

/-- The name of the current position in messages. -/
def positionName (chain : Chain) : String :=
  match chain.position with
  | .object object => object.name
  | .value _ _ => chain.path.getLast?.getD "(root)"
  | .dictionary _ => chain.path.getLast?.getD "(root)"

/-- Whether the current position is a list, or inside one being mapped. -/
def isList (chain : Chain) : Bool :=
  chain.list.isSome ||
    match chain.position with
    | .value _ isList => isList
    | _ => false

/-- The scope of a projection of an object the chain is at. -/
def scope (chain : Chain) (parameter : Parameter) (object : ObjectPosition) :
    Scope :=
  { parameter := some parameter
    object
    path := chain.path
    repeated := chain.repeated }

/-- The program of a chain that ends in a value.  A dictionary is built from the
list that is being mapped, in place of the mapped list. -/
def finish (chain : Chain) : Except CompileError Program :=
  let ended (program : Program) : Program :=
    if chain.enforceSingle then .enforceSingle program else program
  match chain.position with
  | .object object => .error (.missingSelection object.name)
  | .value program _ => .ok (ended (fillFrames chain.frames program))
  | .dictionary entry =>
      let index := chain.list.getD 0
      let element := fillFrames (chain.frames.drop (index + 1)) entry
      .ok (ended (fillFrames (chain.frames.take index) (.toDictionary element)))

end Chain

end GraphPipeline
