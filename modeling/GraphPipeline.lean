import GraphPipeline.Config.Reader
import GraphPipeline.Execution.FollowUps
import GraphPipeline.Execution.Script
import GraphPipeline.Github.Wrapper
import GraphPipeline.Github.Accessor
import GraphPipeline.Proofs.Pagination
import GraphPipeline.Proofs.Mirroring
import GraphPipeline.Proofs.Evaluation.ErrorPlaces
import GraphPipeline.Proofs.ErrorPlaces
import GraphPipeline.Proofs.Execution.Recording
import GraphPipeline.Proofs.Execution.Sessions
import GraphPipeline.Proofs.PageCompleteness
import GraphPipeline.Proofs.Evaluation.MappedLists
import GraphPipeline.Proofs.Compile.ListFilters
import GraphPipeline.Proofs.ListFilters
import GraphPipeline.Proofs.Compile.Upkeep
import GraphPipeline.Proofs.Execution.Requests
import GraphPipeline.Proofs.RequestProtocol
import GraphPipeline.Proofs.OrderIndependence
import GraphPipeline.Proofs.CursorPrivacy
import GraphPipeline.Proofs.SemanticPreservation
import GraphPipeline.Proofs.AllOrNothing
import GraphPipeline.Proofs.AlphaEquivalence
import GraphPipeline.Proofs.Compile.Sinks
import GraphPipeline.Proofs.ConnectionPaths
import GraphPipeline.Proofs.ClosedDocuments
import GraphPipeline.Proofs.Compile.Seams
import GraphPipeline.Proofs.Compile.Forms
import GraphPipeline.Proofs.ValueProjections
import GraphPipeline.Proofs.Evaluation.Shapes
import GraphPipeline.Proofs.ResultShapes
import GraphPipeline.Proofs.Compile.WellShaped
import GraphPipeline.Proofs.TypedChains
import GraphPipeline.Proofs.ValueTexts
import GraphPipeline.Proofs.DocumentTexts
import GraphPipeline.Proofs.Compile.NumberedKeys
import GraphPipeline.Proofs.QueryTexts
import GraphPipeline.Proofs.OperationKinds
import GraphPipeline.Proofs.InputValues
import GraphPipeline.Proofs.RepeatedSelections
import GraphPipeline.Proofs.Compile.Omissions
import GraphPipeline.Proofs.OmittedArguments
import GraphPipeline.Proofs.TypeTrees
import GraphPipeline.Proofs.LeafChecks
import GraphPipeline.Proofs.Evaluation.Agreement
import GraphPipeline.Proofs.Compile.Records
import GraphPipeline.Proofs.Records
import GraphPipeline.Proofs.Evaluation.Verdicts
import GraphPipeline.Proofs.Evaluation.Dictionaries
import GraphPipeline.Proofs.Compile.Dictionaries
import GraphPipeline.Proofs.Dictionaries
import GraphPipeline.Proofs.Evaluation.RestoredContexts
import GraphPipeline.Proofs.ReportedErrors
import GraphPipeline.Proofs.SelectionTrees
import GraphPipeline.Proofs.Compile.Stages
import GraphPipeline.Proofs.ListIndices
import GraphPipeline.Proofs.KeySearches
import GraphPipeline.Proofs.PackedTypes
