import GraphPipeline.Native
import GraphPipeline.Schema.Field

/-!
# A part of the GitHub schema

Repositories, their owners, issues and labels, search, and the mutation that
replaces the topics of a repository.
-/

namespace GraphPipeline.Github

structure EnumDefinition where
  name : String
  values : List String
  deriving DecidableEq

structure InputDefinition where
  name : String
  fields : List ArgumentDefinition
  deriving DecidableEq

/-- A type with fields to select.  Elements of a connection are its `nodes`. -/
structure CompositeDefinition where
  name : String
  kind : TypeKind
  fields : List FieldDefinition
  deriving DecidableEq

def issueState : EnumDefinition :=
  { name := "IssueState", values := ["OPEN", "CLOSED"] }

def issueOrderField : EnumDefinition :=
  { name := "IssueOrderField",
    values := ["CREATED_AT", "UPDATED_AT", "COMMENTS"] }

def orderDirection : EnumDefinition :=
  { name := "OrderDirection", values := ["ASC", "DESC"] }

def searchType : EnumDefinition :=
  { name := "SearchType",
    values := ["ISSUE", "REPOSITORY", "USER", "DISCUSSION"] }

def enums : List EnumDefinition :=
  [issueState, issueOrderField, orderDirection, searchType]

def EnumDefinition.type (definition : EnumDefinition) : TypeRef :=
  TypeRef.enumeration definition.name

def stringType : TypeRef := TypeRef.scalar .string

def intType : TypeRef := TypeRef.scalar .int

def booleanType : TypeRef := TypeRef.scalar .boolean

def idType : TypeRef := TypeRef.scalar .id

def uriType : TypeRef := TypeRef.scalar (.custom "URI")

def dateTimeType : TypeRef := TypeRef.scalar (.custom "DateTime")

/-- A field without arguments. -/
def plain (name : String) (type : TypeRef) : FieldDefinition :=
  { name, type, arguments := [] }

def argument (name : String) (type : TypeRef) : ArgumentDefinition :=
  { name, type }

/-- How lists of issues are ordered. -/
def issueOrder : InputDefinition :=
  { name := "IssueOrder"
    fields :=
      [argument "field" issueOrderField.type.nonNull,
        argument "direction" orderDirection.type.nonNull] }

/-- The topics that replace those of a repository. -/
def updateTopicsInput : InputDefinition :=
  { name := "UpdateTopicsInput"
    fields :=
      [argument "repositoryId" idType.nonNull,
        argument "topicNames" stringType.nonNull.listOf.nonNull,
        argument "clientMutationId" stringType] }

def inputs : List InputDefinition :=
  [issueOrder, updateTopicsInput]

/-- The arguments of every connection, followed by those of one of them. -/
def paging (own : List ArgumentDefinition) : List ArgumentDefinition :=
  [argument "first" intType, argument "after" stringType,
      argument "last" intType, argument "before" stringType] ++ own

/-- A field that is a connection. -/
def connectionField (name : String) (type : TypeRef)
    (own : List ArgumentDefinition) : FieldDefinition :=
  { name, type, arguments := paging own }

/-- The field with the nodes of a connection. -/
def nodesField (element : TypeRef) : FieldDefinition :=
  plain "nodes" element.listOf

/-- A connection of objects of one type. -/
def connectionOf (name element : String) : CompositeDefinition :=
  { name
    kind := .object
    fields :=
      [nodesField (TypeRef.object element), plain "totalCount" intType.nonNull,
        pageInfoField] }

def repositoryByName : FieldDefinition :=
  { name := "repository"
    type := TypeRef.object "Repository"
    arguments := [argument "name" stringType.nonNull] }

/-- The fields of every owner of repositories. -/
def ownerFields : List FieldDefinition :=
  [plain "id" idType.nonNull, plain "login" stringType.nonNull,
    plain "url" uriType.nonNull,
    connectionField "repositories"
      (TypeRef.object "RepositoryConnection").nonNull
      [argument "isFork" booleanType],
    repositoryByName]

def repositoryOwner : CompositeDefinition :=
  { name := "RepositoryOwner", kind := .interface, fields := ownerFields }

def user : CompositeDefinition :=
  { name := "User"
    kind := .object
    fields := ownerFields ++
      [plain "name" stringType, plain "bio" stringType,
       plain "company" stringType,
       connectionField "followers" (TypeRef.object "FollowerConnection").nonNull
         []] }

def organization : CompositeDefinition :=
  { name := "Organization"
    kind := .object
    fields := ownerFields ++
      [plain "name" stringType, plain "description" stringType] }

def labelsField : FieldDefinition :=
  connectionField "labels" (TypeRef.object "LabelConnection") []

def repository : CompositeDefinition :=
  { name := "Repository"
    kind := .object
    fields :=
      [plain "id" idType.nonNull, plain "name" stringType.nonNull,
        plain "nameWithOwner" stringType.nonNull,
        plain "description" stringType,
        plain "stargazerCount" intType.nonNull,
        plain "forkCount" intType.nonNull,
        plain "isPrivate" booleanType.nonNull,
        plain "createdAt" dateTimeType.nonNull,
        plain "url" uriType.nonNull,
        plain "owner" (TypeRef.interface "RepositoryOwner").nonNull,
        connectionField "issues" (TypeRef.object "IssueConnection").nonNull
          [argument "labels" stringType.nonNull.listOf,
            argument "orderBy" (TypeRef.inputObject "IssueOrder"),
            argument "states" issueState.type.nonNull.listOf],
        { name := "issue"
          type := TypeRef.object "Issue"
          arguments := [argument "number" intType.nonNull] },
        labelsField] }

def issue : CompositeDefinition :=
  { name := "Issue"
    kind := .object
    fields :=
      [plain "id" idType.nonNull, plain "number" intType.nonNull,
        plain "title" stringType.nonNull, plain "body" stringType.nonNull,
        plain "state" issueState.type.nonNull,
        plain "createdAt" dateTimeType.nonNull,
        plain "url" uriType.nonNull,
        plain "repository" (TypeRef.object "Repository").nonNull, labelsField] }

def label : CompositeDefinition :=
  { name := "Label"
    kind := .object
    fields :=
      [plain "name" stringType.nonNull, plain "color" stringType.nonNull,
        plain "description" stringType] }

def pageInfo : CompositeDefinition :=
  { name := "PageInfo"
    kind := .object
    fields :=
      [hasNextPageField, plain "hasPreviousPage" booleanType.nonNull,
       endCursorField, plain "startCursor" stringType] }

/-- The results of a search. -/
def searchResultItem : CompositeDefinition :=
  { name := "SearchResultItem", kind := .union, fields := [] }

def searchResultItemConnection : CompositeDefinition :=
  { name := "SearchResultItemConnection"
    kind := .object
    fields :=
      [nodesField (TypeRef.union "SearchResultItem"),
        plain "issueCount" intType.nonNull,
        plain "repositoryCount" intType.nonNull,
        plain "userCount" intType.nonNull, pageInfoField] }

def byLogin (name : String) (type : TypeRef) : FieldDefinition :=
  { name, type, arguments := [argument "login" stringType.nonNull] }

def queryRoot : CompositeDefinition :=
  { name := "Query"
    kind := .object
    fields :=
      [plain "viewer" (TypeRef.object "User").nonNull,
        { name := "repository"
          type := TypeRef.object "Repository"
          arguments :=
            [argument "owner" stringType.nonNull,
             argument "name" stringType.nonNull] },
        byLogin "repositoryOwner" (TypeRef.interface "RepositoryOwner"),
        byLogin "user" (TypeRef.object "User"),
        byLogin "organization" (TypeRef.object "Organization"),
        connectionField "search"
          (TypeRef.object "SearchResultItemConnection").nonNull
          [argument "query" stringType.nonNull,
           argument "type" searchType.type.nonNull]] }

def updateTopicsPayload : CompositeDefinition :=
  { name := "UpdateTopicsPayload"
    kind := .object
    fields :=
      [plain "clientMutationId" stringType,
        plain "invalidTopicNames" stringType.nonNull.listOf,
        plain "repository" (TypeRef.object "Repository")] }

def mutationRoot : CompositeDefinition :=
  { name := "Mutation"
    kind := .object
    fields :=
      [{ name := "updateTopics"
         type := TypeRef.object "UpdateTopicsPayload"
         arguments :=
           [argument "input"
             (TypeRef.inputObject "UpdateTopicsInput").nonNull] }] }

def composites : List CompositeDefinition :=
  [queryRoot, mutationRoot, updateTopicsPayload, user, organization,
   repositoryOwner, repository, issue, label, pageInfo, searchResultItem,
   connectionOf "IssueConnection" "Issue",
   connectionOf "LabelConnection" "Label",
   connectionOf "RepositoryConnection" "Repository",
   connectionOf "FollowerConnection" "User", searchResultItemConnection]

def composite? (name : String) : Option CompositeDefinition :=
  composites.find? (·.name == name)

def enum? (name : String) : Option EnumDefinition :=
  enums.find? (·.name == name)

def input? (name : String) : Option InputDefinition :=
  inputs.find? (·.name == name)

namespace CompositeDefinition

def field? (definition : CompositeDefinition) (name : String) :
    Option FieldDefinition :=
  definition.fields.find? (·.name == name)

/-- A reference to the type without lists, which may be null. -/
def type (definition : CompositeDefinition) : TypeRef :=
  TypeRef.named definition.name definition.kind

end CompositeDefinition

end GraphPipeline.Github
