import RestScaffold.Artifact.Basic
import RestScaffold.Artifact.Error
import RestScaffold.Artifact.Names
import RestScaffold.Artifact.Rendering
import RestScaffold.Artifact.Subject
import RestScaffold.Catalog.Constraint
import RestScaffold.Catalog.Discovery
import RestScaffold.Catalog.Document
import RestScaffold.Catalog.Fingerprint
import RestScaffold.Catalog.Shape
import RestScaffold.Catalog.Snapshot
import RestScaffold.Catalog.Source
import RestScaffold.Client.Api
import RestScaffold.Client.Types
import RestScaffold.Code.GoField
import RestScaffold.Code.GoFile
import RestScaffold.Code.Line
import RestScaffold.Code.Package
import RestScaffold.Decimal.Double
import RestScaffold.Decimal.Numeral
import RestScaffold.Digest
import RestScaffold.Endpoint.Descriptor
import RestScaffold.Endpoint.Document
import RestScaffold.Endpoint.Kind
import RestScaffold.Endpoint.Plan
import RestScaffold.FileTree.Basic
import RestScaffold.FileTree.Path
import RestScaffold.Generation.Error
import RestScaffold.Generation.Files
import RestScaffold.Generation.Manifest
import RestScaffold.Generation.Pass
import RestScaffold.Generation.Report
import RestScaffold.GoType
import RestScaffold.Http.Error
import RestScaffold.Http.Route
import RestScaffold.Http.Service
import RestScaffold.Json.Basic
import RestScaffold.Json.Printer
import RestScaffold.Json.Reader
import RestScaffold.Json.Record
import RestScaffold.Layout
import RestScaffold.Naming
import RestScaffold.Policy.Document
import RestScaffold.Policy.Load
import RestScaffold.Policy.Record
import RestScaffold.Policy.Resolution
import RestScaffold.Policy.Resolved
import RestScaffold.Policy.Settings
import RestScaffold.Policy.Validation
import RestScaffold.Proofs.Artifact.Agreement
import RestScaffold.Proofs.Artifact.Comments
import RestScaffold.Proofs.Artifact.FieldNames
import RestScaffold.Proofs.Artifact.LegalNames
import RestScaffold.Proofs.Artifact.Paths
import RestScaffold.Proofs.Artifact.PlanFollowed
import RestScaffold.Proofs.Artifact.Separation
import RestScaffold.Proofs.Artifact.Sorting
import RestScaffold.Proofs.Artifact.UnknownColumns
import RestScaffold.Proofs.Artifact.Wire
import RestScaffold.Proofs.Catalog.Arrival
import RestScaffold.Proofs.Catalog.Discovery
import RestScaffold.Proofs.Catalog.Document
import RestScaffold.Proofs.Catalog.Fingerprint
import RestScaffold.Proofs.Catalog.Secondary
import RestScaffold.Proofs.Client.Exports
import RestScaffold.Proofs.Client.Interfaces
import RestScaffold.Proofs.Client.Literals
import RestScaffold.Proofs.Client.Members
import RestScaffold.Proofs.Client.References
import RestScaffold.Proofs.Client.Tokens
import RestScaffold.Proofs.Code.Collect
import RestScaffold.Proofs.Code.Declarations
import RestScaffold.Proofs.Code.Outline
import RestScaffold.Proofs.Code.Reading
import RestScaffold.Proofs.Endpoint.Descriptors
import RestScaffold.Proofs.Endpoint.Names
import RestScaffold.Proofs.Endpoint.Parameters
import RestScaffold.Proofs.Endpoint.Routes
import RestScaffold.Proofs.FileTree.Path
import RestScaffold.Proofs.FileTree.Walk
import RestScaffold.Proofs.Generation.Accounting
import RestScaffold.Proofs.Generation.Binding
import RestScaffold.Proofs.Generation.Clearing
import RestScaffold.Proofs.Generation.Confinement
import RestScaffold.Proofs.Generation.Contents
import RestScaffold.Proofs.Generation.Failure
import RestScaffold.Proofs.Generation.Files
import RestScaffold.Proofs.Generation.Isolation
import RestScaffold.Proofs.Generation.Manifest
import RestScaffold.Proofs.Generation.Pass
import RestScaffold.Proofs.Generation.Planned
import RestScaffold.Proofs.Generation.Record
import RestScaffold.Proofs.Generation.Repetition
import RestScaffold.Proofs.Generation.Replay
import RestScaffold.Proofs.Generation.Sequence
import RestScaffold.Proofs.Generation.Tracking
import RestScaffold.Proofs.Http.Listing
import RestScaffold.Proofs.Json.Record
import RestScaffold.Proofs.Json.RoundTrip
import RestScaffold.Proofs.Json.Strings
import RestScaffold.Proofs.Policy.Layers
import RestScaffold.Proofs.Policy.Lookup
import RestScaffold.Proofs.Policy.Validated
import RestScaffold.Proofs.Server.Bindings
import RestScaffold.Proofs.Server.Closure
import RestScaffold.Proofs.Server.Columns
import RestScaffold.Proofs.Server.Enumerations
import RestScaffold.Proofs.Server.HandlerReferences
import RestScaffold.Proofs.Server.ImportLines
import RestScaffold.Proofs.Server.Imports
import RestScaffold.Proofs.Server.Literals
import RestScaffold.Proofs.Server.Methods
import RestScaffold.Proofs.Server.OrderBy
import RestScaffold.Proofs.Server.Positions
import RestScaffold.Proofs.Server.References
import RestScaffold.Proofs.Server.RepositoryReferences
import RestScaffold.Proofs.Server.Sending
import RestScaffold.Proofs.Server.ShapeReferences
import RestScaffold.Proofs.Server.SoftDelete
import RestScaffold.Proofs.Server.Vocabulary
import RestScaffold.Proofs.Server.WhereClause
import RestScaffold.Proofs.SortedMap
import RestScaffold.Proofs.StorageType
import RestScaffold.Proofs.Text.Identifier
import RestScaffold.Proofs.Text.Layout
import RestScaffold.Proofs.Text.Lower
import RestScaffold.Proofs.Text.NormalForm
import RestScaffold.Proofs.Text.Occurrence
import RestScaffold.Proofs.Watch.Deletion
import RestScaffold.Proofs.Watch.Exclusion
import RestScaffold.Proofs.Watch.Finality
import RestScaffold.Proofs.Watch.Gatehouse
import RestScaffold.Proofs.Watch.Lasting
import RestScaffold.Proofs.Watch.Ownership
import RestScaffold.Proofs.Watch.Quiescence
import RestScaffold.Proofs.Watch.Registration
import RestScaffold.Proofs.Watch.Secondary
import RestScaffold.Proofs.Watch.Unchanged
import RestScaffold.Proofs.Watch.Watchroom
import RestScaffold.Proofs.Watch.Workshop
import RestScaffold.ScriptType
import RestScaffold.Server.Criteria
import RestScaffold.Server.Dto
import RestScaffold.Server.Handler
import RestScaffold.Server.Model
import RestScaffold.Server.Repository
import RestScaffold.Server.Routes
import RestScaffold.SortedMap
import RestScaffold.Sql
import RestScaffold.StorageType
import RestScaffold.Target
import RestScaffold.Text.Alphanumeric
import RestScaffold.Text.Blank
import RestScaffold.Text.CaseClass
import RestScaffold.Text.CaseMap
import RestScaffold.Text.GoString
import RestScaffold.Text.Hex
import RestScaffold.Text.Lines
import RestScaffold.Text.Ranges
import RestScaffold.Text.ScriptString
import RestScaffold.Text.Spelled
import RestScaffold.Text.Visible
import RestScaffold.Watch.Document
import RestScaffold.Watch.Gate
import RestScaffold.Watch.Registration
import RestScaffold.Watch.Registry
import RestScaffold.Watch.Session
import RestScaffold.Watch.Turn
import RestScaffold.Watch.Watcher
