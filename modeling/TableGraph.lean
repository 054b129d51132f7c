import TableGraph.Text.CaseTable
import TableGraph.Text.Printable
import TableGraph.Text.Unicode
import TableGraph.Text.Naming
import TableGraph.Number.Binary
import TableGraph.Number.Extended
import TableGraph.Number.Shortest
import TableGraph.Number.Decimal
import TableGraph.Number.Parse
import TableGraph.Time.Calendar
import TableGraph.Time.Iso
import TableGraph.Value.Basic
import TableGraph.Value.Literal
import TableGraph.Value.Names
import TableGraph.Json.Basic
import TableGraph.Json.Read
import TableGraph.Value.Json
import TableGraph.Failure
import TableGraph.Value.Equality
import TableGraph.Settings
import TableGraph.Backend
import TableGraph.Schema.SqlType
import TableGraph.Value.Exchange
import TableGraph.Service.Basic
import TableGraph.Service
import TableGraph.Value.Coerce
import TableGraph.Schema.Column
import TableGraph.Api.Type
import TableGraph.Registry.Basic
import TableGraph.Registry.Resolve
import TableGraph.Registry.Remap
import TableGraph.Schema.Catalog
import TableGraph.Schema.Model
import TableGraph.Samples
import TableGraph.Service.Models
import TableGraph.Registry.Rows
import TableGraph.Query.Order
import TableGraph.Api.Graph
import TableGraph.Query.Predicate
import TableGraph.Query.Filter
import TableGraph.GraphQL.Schema
import TableGraph.GraphQL.Sdl
import TableGraph.GraphQL.Builtins
import TableGraph.Api.Generate
import TableGraph.Api.Build
import TableGraph.GraphQL.Syntax
import TableGraph.GraphQL.Lexer
import TableGraph.GraphQL.Parser
import TableGraph.GraphQL.Suggest
import TableGraph.GraphQL.Coerce
import TableGraph.GraphQL.Introspect
import TableGraph.GraphQL.Execute
import TableGraph.Store.RealText
import TableGraph.Store.Cell
import TableGraph.Store.Codec
import TableGraph.Store.Table
import TableGraph.Store.Bind
import TableGraph.Query.Spec
import TableGraph.Store.Fetch
import TableGraph.Api.Resolve
import TableGraph.GraphQL.Validate
import TableGraph.GraphQL.Request
import TableGraph.Samples.Seeds
import TableGraph.Proofs.Outcome
import TableGraph.Proofs.Predicate
import TableGraph.Proofs.FilterMeaning
import TableGraph.Proofs.Conversions
import TableGraph.Proofs.RoundTrip
import TableGraph.Proofs.ArgumentForms
import TableGraph.Proofs.FilterContext
import TableGraph.Proofs.FailedMutations
import TableGraph.Proofs.MutationEffects
import TableGraph.Proofs.ChildRows
import TableGraph.Proofs.RelationLoads
import TableGraph.Proofs.GraphLevels
import TableGraph.Proofs.OutputValues
import TableGraph.Proofs.TypeNames
import TableGraph.Proofs.FieldNames
import TableGraph.Proofs.ExecutionSimulation
import TableGraph.Proofs.RegistryLife
import TableGraph.Proofs.CatalogLookups
import TableGraph.Api.Lock
import TableGraph.Proofs.SessionLock
import TableGraph.Proofs.DepthBudget
import TableGraph.Proofs.LevelledApis
import TableGraph.Proofs.DepthModes
import TableGraph.Proofs.ConverterChoice
import TableGraph.Proofs.MemberNames
import TableGraph.Proofs.ConversionFaults
import TableGraph.Proofs.SelectionLoads
import TableGraph.Proofs.DepthLimitQueries
import TableGraph.Proofs.SortOrders
