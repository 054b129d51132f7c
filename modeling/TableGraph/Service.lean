import TableGraph.Service.Basic
import TableGraph.Service.Models
import TableGraph.Registry.Rows
import TableGraph.Query.Order
import TableGraph.Api.Graph
import TableGraph.Query.Filter
import TableGraph.Api.Build
import TableGraph.GraphQL.Sdl
import TableGraph.Settings
import TableGraph.Schema.SqlType
import TableGraph.Value.Names
import TableGraph.Api.Resolve
import TableGraph.GraphQL.Request
import TableGraph.Samples.Seeds

/-!
# Serving requests

`Service.answer` answers one request object: it reads the operation and its
arguments, calls the library and writes the answer. Each operation has a
function of its own below.
-/

namespace TableGraph.Service

/-- The `naming` operation: one of the name conversions, applied to the
value given (null when none is). -/
def naming (r : Request) : Outcome Json := do
  let fn := (textArg? r "fn").getD ""
  let name ← valueArg r "arg"
  let result ← match fn with
    | "camel_to_snake" => Value.camelToSnakeName name
    | "snake_to_camel" => Value.snakeToCamelName name (flagArg r "upper_first" false)
    | "pascal_case" => Value.pascalCaseName name
    | "capitalize" => Value.capitalizeName name
    | "is_graphql_name" => Value.bool <$> Value.isApiName name
    | "enum_member_name" =>
      let index ← match arg? r "index" with
        | some j => Value.ofExchange j
        | none => pure (Value.int 0)
      Value.enumMemberName name index
    | _ => .error (badRequest ("unknown naming fn " ++ textLiteral fn))
  pure result.toExchange

/-- Build settings as JSON. -/
def settingsJson (s : BuildSettings) : Json :=
  .object [("relations_depth_limit", s.depthLimit.toExchange), ("mutations", s.mutations.toExchange),
    ("geometry_mode", .string s.geometryMode.name), ("max_relation_depth", .number (toString s.maxRelationDepth))]

/-- The arguments of an object argument as values. -/
def membersArg (r : Request) (key : String) : Outcome (List (String × Value)) := do
  match ← valueArg r key with
  | .dict es => pure es
  | _ => pure []

/-- The `config` operation: settings from named arguments, which must come
as an object when given. -/
def config (r : Request) : Outcome Json := do
  let args ← match ← valueArg r "args" with
    | .dict es => pure es
    | .none => pure []
    | other => .error ⟨.badType, "tableql.config.BuildSchemaConfig() argument after ** must be a mapping, not " ++
        other.kindName⟩
  settingsJson <$> BuildSettings.ofArgs args

/-- The `config_env` operation: settings from environment variables. -/
def configEnv (r : Request) : Outcome Json := do
  let env ← membersArg r "env"
  let pre := (textArg? r "prefix").getD "TABLEQL_"
  let vars ← env.foldlM (fun (e : Environment) (k, v) => e.set (pre ++ k) v) []
  settingsJson <$> BuildSettings.ofEnv vars.get? pre

/-- The `adapter` operation: the backend a dialect selects. -/
def adapter (r : Request) : Outcome Json :=
  backendJson <$> backendOf (arg? r "dialect")

/-- A column type named by a request: a class name, or a class name with
arguments. -/
def sqlTypeOf (j : Option Json) : Outcome SqlType :=
  let named (n : String) (args : List String) : Outcome SqlType :=
    match buildSqlType? n args with
    | some t => .ok t
    | none => .error (badRequest ("unknown type " ++ textLiteral n))
  match j with
  | some (.string n) => named n []
  | some (.object ms) =>
    let r : Request := ms
    let args := match arg? r "args" with
      | some (.array items) => items.filterMap fun
        | .string s => some s
        | _ => none
      | _ => []
    named ((textArg? r "type").getD "") args
  | _ => .error (badRequest "missing type")

/-- The `classify` operation: the tag of a column type on a backend. -/
def classify (r : Request) : Outcome Json := do
  let t ← sqlTypeOf (arg? r "sa_type")
  let b ← match arg? r "adapter" with
    | some .null | none => pure none
    | some j => some <$> backendOf (some j)
  pure (.string (t.tag b))

/-- The column argument of a request. -/
def columnArg (r : Request) : Outcome Column :=
  match arg? r "column" with
  | some j => columnOf j
  | none => .error (badRequest "missing column")

/-- The `to_wire` operation: a stored value towards the API. -/
def toWire (r : Request) : Outcome Json := do
  let mode ← geometryModeOf r
  let reg ← registryOf r none (Registry.ofMode mode)
  let c ← columnArg r
  let v ← valueArg r "value"
  Value.toExchange <$> reg.toWire v c

/-- The `from_wire` operation: a value from the API towards storage. -/
def fromWire (r : Request) : Outcome Json := do
  let reg ← registryOf r none {}
  let c ← columnArg r
  let v ← valueArg r "value"
  Value.toExchange <$> reg.fromWire v c

/-- A resolved type as JSON: its spelling, description and enumeration. -/
def typeJson (t : ApiType) (nullable : Bool) (description : Option String) : Json :=
  let base := [("type", Json.string (t.spell nullable)), ("description", optText description)]
  match t.enumOf? with
  | some e =>
    .object (base ++ [("enum", .object [("name", .string e.name),
      ("members", .array (e.members.map fun (m, v) => .array [.string m, .string v]))])])
  | none => .object base

/-- The `resolve` operation: the API type of a column. -/
def resolve (r : Request) : Outcome Json := do
  let mode ← geometryModeOf r
  let reg ← registryOf r (some "type") (Registry.ofMode mode)
  let c ← columnArg r
  let t ← reg.resolve c (flagArg r "is_input" false)
  pure (typeJson t.type false t.description)

/-- The `annotate` operation: the API type of a column with nullability. -/
def annotate (r : Request) : Outcome Json := do
  let mode ← geometryModeOf r
  let reg ← registryOf r none (Registry.ofMode mode)
  let c ← columnArg r
  let t ← reg.annotate c (flagArg r "is_input" false) (flagArg r "force_nullable" false)
    (flagArg r "default_is_nullable" false)
  pure (typeJson t.type t.nullable t.description)

/-- The `catalog` operation: the tables loaded from models. -/
def catalog (r : Request) : Outcome Json := do
  let src ← modelSourceOf r
  let b ← optionalBackendOf r
  let c ← Catalog.load src b
  pure (.array (c.tables.map tableJson))

/-- The table a request names, loaded from its models without a backend. -/
def tableArg (r : Request) : Outcome Table := do
  let src ← modelSourceOf r
  let c ← Catalog.load src none
  c.table ((textArg? r "table").getD "")

/-- The row argument of a request. -/
def rowArg (r : Request) : Outcome Row := do
  match ← valueArg r "row" with
  | .dict es => pure es
  | _ => .error (badRequest "row must be an object")

/-- The `input_row` operation: an input row towards storage. -/
def inputRow (r : Request) : Outcome Json := do
  let t ← tableArg r
  let reg ← registryOf r none {}
  let row ← rowArg r
  let out ← reg.inputRow t row
  pure (Value.dict out).toExchange

/-- The `row_to_wire` operation: a stored row towards the API. -/
def rowToWire (r : Request) : Outcome Json := do
  let t ← tableArg r
  let mode ← geometryModeOf r
  let row ← rowArg r
  let columns := match arg? r "columns" with
    | some (.array names) => some (names.filterMap fun
      | .string n => some n
      | _ => none)
    | _ => none
  let out ← (Registry.ofMode mode).rowToWire t row columns
  pure (Value.dict out).toExchange

/-- The `order` operation: the sort clauses of an `orderBy` argument. -/
def order (r : Request) : Outcome Json := do
  let t ← tableArg r
  let orderBy ← valueArg r "order_by"
  let clauses ← OrderClause.compile t orderBy
  pure (.array (clauses.map fun c => .object [("column", .string c.column.name),
    ("direction", .string c.direction.name),
    ("priority", match c.priority with
      | some p => .number (toString p)
      | none => .null)]))

/-- The `graph` operation: the nodes of a relation graph with their edges. -/
def graph (r : Request) : Outcome Json := do
  let src ← modelSourceOf r
  let c ← Catalog.load src none
  let limit ← RelationGraph.depthLimitOf (← valueArg r "depth_limit")
  let g ← RelationGraph.make c limit
  pure (.array (g.nodes.map fun n => .object [("name", .string n.name), ("table", .string n.table.name),
    ("level", match n.level with
      | some l => .number (toString l)
      | none => .null),
    ("edges", .array ((g.edges n).map fun (rel, m) => .array [.string rel.name, .string m.name]))]))

/-- The `filter_sql` operation: the query text and parameters of a filter. -/
def filterSql (r : Request) : Outcome Json := do
  let t ← tableArg r
  let reg ← registryOf r none {}
  let p ← Filter.compile reg t (← valueArg r "where")
  let sql := p.render
  pure (.object [("sql", .string sql.text), ("params", .array (sql.params.map Value.toExchange))])

/-- The build settings of a request's `config` argument. -/
def settingsOf (r : Request) : Outcome BuildSettings := do
  match ← valueArg r "config" with
  | .dict args => BuildSettings.ofArgs args
  | _ => pure {}

/-- The backend a compile selects: the request's `dialect`, SQLite when
none is named. -/
def compileBackendOf (r : Request) : Outcome Backend :=
  match arg? r "dialect" with
  | some j => backendOf (some j)
  | none => Backend.ofName "sqlite"

/-- A list of names as JSON. -/
def namesJson (names : List String) : Json := .array (names.map .string)

/-- The `build` operation: the names an API generates, and optionally its
schema text. -/
def build (r : Request) : Outcome Json := do
  let settings ← settingsOf r
  let reg ← registryOf r none {}
  let src ← modelSourceOf r
  let s ← (CompiledSchema.compile reg (compileBackendOf r) src settings).2
  let e := s.api.entities
  let names := [("queries", namesJson e.queries), ("mutations", namesJson e.mutations),
    ("types", namesJson e.types), ("inputs", namesJson e.inputs)]
  pure (.object (names ++ if flagArg r "sdl" false then [("sdl", .string s.api.schema.sdl)] else []))

/-- One step on a registry: the registry after it and the step's answer; a
step the service does not know fails the whole request. -/
def registryStep (reg : Registry) (step : Request) : Outcome (Registry × Outcome Json) :=
  let keep (o : Outcome Json) : Outcome (Registry × Outcome Json) :=
    match o with
    | .error f => if f.kind == .badRequest then .error f else .ok (reg, o)
    | .ok _ => .ok (reg, o)
  -- an operation on the registry, answered with null or a build's type names
  let perform (op : Outcome Registry.Op) : Outcome (Registry × Outcome Json) :=
    match op with
    | .error f => keep (.error f)
    | .ok op =>
      let (reg', o) := reg.perform op
      match o with
      | .ok none => .ok (reg', .ok .null)
      | .ok (some s) => .ok (reg', .ok (namesJson s.api.entities.types))
      | .error f => if f.kind == .badRequest then .error f else .ok (reg', .error f)
  match textArg? step "do" with
  | some "register_type" => perform (registrationOf (.object step) (some "type"))
  | some "register_to_wire" => perform (registrationOf (.object step) (some "to_wire"))
  | some "register_from_wire" => perform (registrationOf (.object step) (some "from_wire"))
  | some "configure" => perform (.configure <$> valueArg step "geometry_mode")
  | some "freeze" => perform (.ok .freeze)
  | some "frozen" => .ok (reg, .ok (.bool reg.frozen))
  | some "build" =>
    perform (do
      let settings ← settingsOf step
      let src ← modelSourceOf step
      pure (.build (compileBackendOf step) src settings))
  | some "resolve" => keep (do
      let c ← columnArg step
      let t ← reg.resolve c (flagArg step "is_input" false)
      pure (typeJson t.type false t.description))
  | some "to_wire" => keep (do
      let c ← columnArg step
      Value.toExchange <$> reg.toWire (← valueArg step "value") c)
  | some "from_wire" => keep (do
      let c ← columnArg step
      Value.toExchange <$> reg.fromWire (← valueArg step "value") c)
  | some other => .error (badRequest ("unknown registry step " ++ textLiteral other))
  | none => .error (badRequest "unknown registry step None")

/-- The `registry` operation: steps on one registry, each answered. -/
def registry (r : Request) : Outcome Json := do
  let steps := match arg? r "steps" with
    | some (.array xs) => xs
    | _ => []
  let (_, answers) ← steps.foldlM (fun (acc : Registry × List Json) j => do
    let step : Request := match j with
      | .object ms => ms
      | _ => []
    let (reg', o) ← registryStep acc.1 step
    pure (reg', acc.2 ++ [answerJson o])) (({} : Registry), [])
  pure (.array answers)

/-- The context keys a request's database is looked up under, in order. -/
def sessionKeys : List String := ["db_session", "db", "session", "async_session"]

/-- Whether a step's context holds the database: under its `context_key`
(`db_session` by default, none for null), in a context of its
`context_kind` (a mapping by default; an object; an object with room only
for `db_session`; or no context at all). -/
def stepConnected (step : Request) : Bool :=
  let key : Option String := match arg? step "context_key" with
    | none => some "db_session"
    | some (.string k) => some k
    | some _ => none
  match (textArg? step "context_kind").getD "dict" with
  | "none" => false
  | "slots" => key == some "db_session"
  | _ => match key with
    | some k => sessionKeys.contains k
    | none => false

/-- A response path as JSON. -/
def pathJson (path : List GraphQL.PathSeg) : Json :=
  .array (path.map fun
    | .key k => .string k
    | .index i => .number (toString i))

/-- A request error as JSON: its message, path and, when it has one, the
name of its cause. -/
def errorJson (e : GraphQL.RequestError) : Json :=
  .object ([("message", .string e.message),
    ("path", match e.path with
      | some p => pathJson p
      | none => .null)] ++
    match e.kind with
    | some k => [("kind", .string k)]
    | none => [])

/-- A response as JSON: the data, and the errors when there are some. -/
def responseJson (r : GraphQL.Response) : Json :=
  .object ([("data", r.data.getD .null)] ++
    if r.errors.isEmpty then [] else [("errors", .array (r.errors.map errorJson))])

/-- The refusal of a step without a document. -/
def missingQuery : Failure := ⟨.missingQuery, "Request data is missing a \"query\" value"⟩

/-- A database with the tables of a model set, seeded with sample rows. -/
def seedDatabase (s : CompiledSchema) (decls : List TableDecl) (rows : List (String × List Row)) :
    Outcome Store.Database :=
  rows.foldlM (fun db (name, rs) =>
    match s.catalog.table? name with
    | some t => (Store.insertRows false t rs db).1.map fun _ => (Store.insertRows false t rs db).2
    | none => .ok db) (Store.Database.empty decls)

/-- Runs one step: answers its document against the session, which rolls
back when the answer has errors. -/
def graphqlStep (s : CompiledSchema) (hasDatabase : Bool) (session : Session) (step : Request) :
    Outcome (Json × Session) := do
  let query := (textArg? step "query").getD ""
  if query.isEmpty then .error missingQuery
  let variableValues := match arg? step "variables" with
    | some (.object ms) => ms.map fun (k, j) => (k, Value.ofJson j)
    | _ => []
  let sub : GraphQL.Submission := { query, operationName := textArg? step "operation", variableValues }
  let (resp, session) ← match GraphQL.respond s.api.schema (s.resolvers (hasDatabase && stepConnected step)) sub session with
    | .ok answer => pure answer
    | .error name => .error ⟨.noOperation, name⟩
  pure (responseJson resp, if resp.errors.isEmpty then session else session.rollback)

/-- The `graphql` operation: compiles the models, seeds a database and
answers the steps in order against it. -/
def graphql (r : Request) : Outcome Json := do
  let settings ← settingsOf r
  let reg ← registryOf r none {}
  let src ← modelSourceOf r
  let s ← (CompiledSchema.compile reg (compileBackendOf r) src settings).2
  let models ← modelSetOf r
  let seedName := (textArg? r "seed").getD (Samples.defaultSeed (modelsName r))
  let (hasDatabase, db) ← if seedName == "nodb" then pure (false, Store.Database.empty []) else
    match Samples.seedRows? seedName with
    | some rows => do pure (true, ← seedDatabase s models.tables rows)
    | none => .error (badRequest ("unknown seed " ++ textLiteral seedName))
  let steps := match arg? r "steps" with
    | some (.array xs) => xs
    | _ => []
  let (answers, _) ← steps.foldlM (fun (acc : List Json × Session) j => do
    let step : Request := match j with
      | .object ms => ms
      | _ => []
    let (answer, session) ← graphqlStep s hasDatabase acc.2 step
    pure (acc.1 ++ [answer], session)) ([], Session.start db)
  pure (.array answers)

/-- Answers one request. -/
def answer (r : Request) : Json :=
  answerJson <|
    match textArg? r "op" with
    | some "naming" => naming r
    | some "config" => config r
    | some "config_env" => configEnv r
    | some "adapter" => adapter r
    | some "classify" => classify r
    | some "to_wire" => toWire r
    | some "from_wire" => fromWire r
    | some "resolve" => resolve r
    | some "annotate" => annotate r
    | some "catalog" => catalog r
    | some "input_row" => inputRow r
    | some "row_to_wire" => rowToWire r
    | some "order" => order r
    | some "graph" => graph r
    | some "filter_sql" => filterSql r
    | some "build" => build r
    | some "registry" => registry r
    | some "graphql" => graphql r
    | some op => .error (badRequest ("unknown op " ++ textLiteral op))
    | none => .error (badRequest "unknown op None")

end TableGraph.Service
