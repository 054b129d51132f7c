import TableGraph.Api.Generate
import TableGraph.Schema.Model

/-!
# Compiling models into an API

`CompiledSchema.compile` takes the steps of a compile in order: it selects
the backend, sets the registry's geometry mode and freezes the registry,
loads the catalog (classifying column types on the backend), checks the
relation depth limit, generates the API and refuses it when two of the
types it reaches share a name. A failure to select the backend
or to set the geometry mode leaves the registry as it was; any later failure
leaves it frozen. The registry as the compile leaves it is returned with the
outcome.
-/

namespace TableGraph

/-- An API compiled from models, with everything its requests need. -/
structure CompiledSchema where
  api : GeneratedApi
  catalog : Catalog
  graph : RelationGraph
  registry : Registry
  backend : Backend
  settings : BuildSettings
  deriving Inhabited

namespace CompiledSchema

/-- How deep a query may nest relation fields, when the relation graph does
not bound it already. -/
def depthBudget (s : CompiledSchema) : Option Nat :=
  match s.graph.depthLimit with
  | some _ => none
  | none => some s.settings.maxRelationDepth

/-- The refusal of a schema two of whose types share a name. -/
def duplicatedTypeName (name : String) : Failure :=
  ⟨.duplicatedTypeName, "Duplicated type name `" ++ name ++ "` found"⟩

/-- Compiles models on a backend with a registry and settings. -/
def compile (reg : Registry) (backend : Outcome Backend) (src : ModelSource) (settings : BuildSettings) :
    Registry × Outcome CompiledSchema :=
  match backend with
  | .error e => (reg, .error e)
  | .ok b =>
    match reg.configure (.str settings.geometryMode.name) with
    | .error e => (reg, .error e)
    | .ok configured =>
      let reg := configured.freeze
      (reg, do
        let catalog ← Catalog.load src (some b)
        if catalog.tables.isEmpty then
          .error (.schemaBuild "No tables found in the provided models")
        let limit ← RelationGraph.depthLimitOf settings.depthLimit
        let graph ← RelationGraph.make catalog limit
        let api ← GeneratedApi.generate reg graph b settings
        if let some name := api.schema.sharedName? then
          .error (duplicatedTypeName name)
        pure { api, catalog, graph, registry := reg, backend := b, settings })

end CompiledSchema

namespace Registry

/-- What a caller does with a registry: registers an API type or a
conversion under a key, sets the geometry mode, freezes it, or compiles
models with it. -/
inductive Op where
  | registerType (key : String) (t : Resolved)
  | registerToWire (key : String) (c : Conversion)
  | registerFromWire (key : String) (c : Conversion)
  | configure (mode : Value)
  | freeze
  | build (backend : Outcome Backend) (src : ModelSource) (settings : BuildSettings)

/-- The registry after a change and its outcome: the changed registry, or
the registry as it was and the refusal. -/
def settle (r : Registry) : Outcome Registry → Registry × Outcome (Option CompiledSchema)
  | .ok r' => (r', .ok none)
  | .error e => (r, .error e)

/-- Performs an operation: the registry after it and its outcome, the
compiled schema of a build. -/
def perform (r : Registry) : Op → Registry × Outcome (Option CompiledSchema)
  | .registerType key t => r.settle (r.registerType key t)
  | .registerToWire key c => r.settle (r.registerToWire key c)
  | .registerFromWire key c => r.settle (r.registerFromWire key c)
  | .configure mode => r.settle (r.configure mode)
  | .freeze => (r.freeze, .ok none)
  | .build backend src settings =>
    let (r', o) := CompiledSchema.compile r backend src settings
    (r', some <$> o)

/-- The registry after operations performed in order. -/
def performAll (r : Registry) (ops : List Op) : Registry :=
  ops.foldl (fun r op => (r.perform op).1) r

end Registry

end TableGraph
