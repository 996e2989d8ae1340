import GraphPipeline.Github.Wrapper

/-!
# Accessors

The wrappers of a type have an accessor for each field of the type.  It passes
its arguments under names of its own and returns a wrapper of a type of its own,
so it has to agree with the definition of the field it reads.
-/

namespace GraphPipeline.Github

deriving instance DecidableEq for Target

/-- How a field is reached: the names its arguments are passed under, in order,
and what is returned. -/
structure Accessor where
  field : String
  arguments : List String
  target : Target
  deriving DecidableEq

namespace Accessor

/-- An accessor without arguments. -/
def reads (field : String) (target : Target) : Accessor :=
  { field, arguments := [], target }

/-- An accessor of a connection, which passes the arguments of every connection
first. -/
def pages (field : String) (own : List String) (target : Target) : Accessor :=
  { field, arguments := ["first", "after", "last", "before"] ++ own, target }

/-- What an accessor returns, called with some values. -/
def call (accessor : Accessor) (definition : FieldDefinition)
    (values : List ArgumentValue) (wrapper : Wrapper) : Wrapper :=
  { pipeline :=
      if accessor.arguments.isEmpty then wrapper.pipeline.property definition
      else wrapper.pipeline.call definition
        (accessor.arguments.zipWith Argument.mk values)
    target := accessor.target }

end Accessor

open Accessor

def issueConnection : CompositeDefinition :=
  connectionOf "IssueConnection" "Issue"

def labelConnection : CompositeDefinition :=
  connectionOf "LabelConnection" "Label"

def repositoryConnection : CompositeDefinition :=
  connectionOf "RepositoryConnection" "Repository"

def followerConnection : CompositeDefinition :=
  connectionOf "FollowerConnection" "User"

def queryAccessors : List Accessor :=
  [reads "viewer" (.object user),
    { field := "repository", arguments := ["owner", "name"],
      target := .object repository },
    { field := "repositoryOwner", arguments := ["login"],
      target := .object repositoryOwner },
    { field := "user", arguments := ["login"], target := .object user },
    { field := "organization", arguments := ["login"],
      target := .object organization },
    pages "search" ["query", "type"] (.object searchResultItemConnection)]

def mutationAccessors : List Accessor :=
  [{ field := "updateTopics", arguments := ["input"],
     target := .object updateTopicsPayload }]

def payloadAccessors : List Accessor :=
  [reads "clientMutationId" .leaf, reads "invalidTopicNames" (.list .leaf),
    reads "repository" (.object repository)]

/-- The accessors of every owner of repositories. -/
def ownerAccessors : List Accessor :=
  [reads "id" .leaf, reads "login" .leaf, reads "url" .leaf,
    pages "repositories" ["isFork"] (.object repositoryConnection),
    { field := "repository", arguments := ["name"],
      target := .object repository }]

def userAccessors : List Accessor :=
  ownerAccessors ++
    [reads "name" .leaf, reads "bio" .leaf, reads "company" .leaf,
      pages "followers" [] (.object followerConnection)]

def organizationAccessors : List Accessor :=
  ownerAccessors ++ [reads "name" .leaf, reads "description" .leaf]

def repositoryAccessors : List Accessor :=
  [reads "id" .leaf, reads "name" .leaf, reads "nameWithOwner" .leaf,
    reads "description" .leaf, reads "stargazerCount" .leaf,
    reads "forkCount" .leaf,
    reads "isPrivate" .leaf, reads "createdAt" .leaf, reads "url" .leaf,
    reads "owner" (.object repositoryOwner),
    pages "issues" ["labels", "orderBy", "states"] (.object issueConnection),
    { field := "issue", arguments := ["number"], target := .object issue },
    pages "labels" [] (.object labelConnection)]

def issueAccessors : List Accessor :=
  [reads "id" .leaf, reads "number" .leaf, reads "title" .leaf,
   reads "body" .leaf, reads "state" .leaf, reads "createdAt" .leaf,
   reads "url" .leaf, reads "repository" (.object repository),
   pages "labels" [] (.object labelConnection)]

def labelAccessors : List Accessor :=
  [reads "name" .leaf, reads "color" .leaf, reads "description" .leaf]

def pageInfoAccessors : List Accessor :=
  [reads "hasNextPage" .leaf, reads "hasPreviousPage" .leaf,
   reads "endCursor" .leaf, reads "startCursor" .leaf]

/-- The accessors of a connection of objects of one type. -/
def connectionAccessors (node : CompositeDefinition) : List Accessor :=
  [reads "nodes" (.list (.object node)), reads "totalCount" .leaf,
    reads "pageInfo" (.object pageInfo)]

def searchAccessors : List Accessor :=
  [reads "nodes" (.list (.object searchResultItem)), reads "issueCount" .leaf,
    reads "repositoryCount" .leaf, reads "userCount" .leaf,
    reads "pageInfo" (.object pageInfo)]

/-- The types of the wrappers, each with its accessors. -/
def accessorTable : List (CompositeDefinition × List Accessor) :=
  [(queryRoot, queryAccessors), (mutationRoot, mutationAccessors),
    (updateTopicsPayload, payloadAccessors), (user, userAccessors),
    (organization, organizationAccessors), (repositoryOwner, ownerAccessors),
    (repository, repositoryAccessors), (issue, issueAccessors),
    (label, labelAccessors),
    (pageInfo, pageInfoAccessors), (searchResultItem, []),
    (issueConnection, connectionAccessors issue),
    (labelConnection, connectionAccessors label),
    (repositoryConnection, connectionAccessors repository),
    (followerConnection, connectionAccessors user),
    (searchResultItemConnection, searchAccessors)]

/-- The accessors a wrapper of a type declares. -/
def CompositeDefinition.Declares (type : CompositeDefinition)
    (accessor : Accessor) : Prop :=
  ∃ entry ∈ accessorTable, entry.1 = type ∧ accessor ∈ entry.2

instance (type : CompositeDefinition) (accessor : Accessor) :
    Decidable (type.Declares accessor) :=
  inferInstanceAs
    (Decidable (∃ entry ∈ accessorTable, entry.1 = type ∧ accessor ∈ entry.2))

/-- An accessor agrees with the definition of a field: it passes exactly the
arguments of the field in their order, and returns what the type of the field
leads to. -/
def Accessor.Agrees (accessor : Accessor) (definition : FieldDefinition) :
    Prop :=
  accessor.arguments = definition.arguments.map (·.name) ∧
    some accessor.target = Target.ofType? definition.type

instance (accessor : Accessor) (definition : FieldDefinition) :
    Decidable (accessor.Agrees definition) :=
  inferInstanceAs (Decidable (_ ∧ _))

/-- Every type has one accessor for each of its fields, in their order. -/
theorem accessorTable_covers :
    accessorTable.map (fun entry => (entry.1, entry.2.map (·.field))) =
      composites.map fun type => (type, type.fields.map (·.name)) := by
  decide +kernel

theorem accessorTable_agrees :
    ∀ entry ∈ accessorTable, ∀ accessor ∈ entry.2,
      (entry.1.field? accessor.field).any (accessor.Agrees ·) = true := by
  decide +kernel

/-- Every accessor agrees with the definition of the field it reads. -/
theorem CompositeDefinition.Declares.agrees {type : CompositeDefinition}
    {accessor : Accessor}
    (declared : type.Declares accessor) :
    ∃ definition, type.field? accessor.field = some definition ∧
      accessor.Agrees definition := by
  obtain ⟨entry, listed, rfl, member⟩ := declared
  obtain ⟨definition, found, agrees⟩ :=
    (Option.any_eq_true _ _).mp
      (accessorTable_agrees entry listed accessor member)
  exact ⟨definition, found, of_decide_eq_true agrees⟩

end GraphPipeline.Github
