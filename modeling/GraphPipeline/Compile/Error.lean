import GraphPipeline.Selections

/-!
# Compile errors

The reasons for which a pipeline has no document.  Each is a mistake in the way
the pipeline was built, so no compilation of the same pipeline can succeed.
-/

namespace GraphPipeline

inductive CompileError where
  | scalarAsComposite (field parent : String)
  | fieldOnList (field list : String)
  | notPolymorphic (reducer type : String)
  | filterRequiresOptional (field : String)
  | singleOnList (reducer field : String)
  | requiresList (reducer field : String)
  | missingSelection (field : String)
  | nestedList (field : String)
  | unsupportedDictionarySource (field : String)
  | ambiguousField (key : String) (first second : TypeRef)
  | unknownArgument (field argument : String)
  | reducerNotTerminal (reducer : String)
  | nestedPagination (field : String)
  | conflictingPagination (field : String)
  | notAConnection (field : String)
  | unboundParameter
  | conflictingVariableType (name : String) (first second : TypeRef)
  deriving DecidableEq

namespace CompileError

/-- The text between single quotes. -/
def named (name : String) : String :=
  "'" ++ name ++ "'"

def message : CompileError → String
  | .scalarAsComposite field parent =>
      "cannot select " ++ named field ++ " on " ++ named parent ++
        ", which is not an object"
  | .fieldOnList field list =>
      "cannot select " ++ named field ++ " on the list " ++ named list ++
        ", project its elements instead"
  | .notPolymorphic reducer type =>
      reducer ++ " requires an interface or a union, " ++ named type ++
        " is neither"
  | .filterRequiresOptional field =>
      "filter on " ++ named field ++
        " requires a nullable position, use cast instead"
  | .singleOnList reducer field =>
      reducer ++ " cannot be applied to the list " ++ named field
  | .requiresList reducer field =>
      reducer ++ " requires a list but " ++ named field ++ " is not one"
  | .missingSelection field =>
      named field ++ " is an object, some of its fields must be selected"
  | .nestedList field =>
      named field ++ " is a list inside a list, project each level separately"
  | .unsupportedDictionarySource field =>
      "to_dictionary requires a list of objects, " ++ named field ++ " is not"
  | .ambiguousField key first second =>
      named key ++ " is selected as both " ++ first.render ++ " and " ++
        second.render
  | .unknownArgument field argument =>
      named field ++ " has no argument named " ++ named argument
  | .reducerNotTerminal reducer =>
      reducer ++ " must be the last step of a pipeline"
  | .nestedPagination field =>
      "cannot fetch every page of " ++ named field ++
        " inside a list or another paginated field"
  | .conflictingPagination field =>
      "cannot fetch every page of " ++ named field ++
        " when its 'after' argument is a variable"
  | .notAConnection field =>
      named field ++ " is not a connection"
  | .unboundParameter =>
      "a projection parameter is used outside of its projection"
  | .conflictingVariableType name first second =>
      "variable $" ++ name ++ " is used as both " ++ first.render ++ " and " ++
        second.render

end CompileError

/-- The error of a response key that would stand for values of two types. -/
def FieldConflict.toCompileError (conflict : FieldConflict) : CompileError :=
  .ambiguousField conflict.key conflict.first conflict.second

end GraphPipeline
