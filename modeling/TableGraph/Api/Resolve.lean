import TableGraph.Store.Fetch
import TableGraph.GraphQL.Execute
import TableGraph.Api.Build
import TableGraph.Api.Lock

/-!
# Resolving the fields of a compiled API

The root fields of the API read and write a database held in a `Session`:
the live state of its open transaction and the state last committed.

* A list field or a `Single` field checks that the request has a database,
  builds the spec of what its selection reads (its filter, order and page
  first, then the selection), and then reads the rows with their relations
  and turns them into `Entity` values, the objects the API's output types
  are read from. Each row keeps the values of the columns its selection
  asked for, converted for the API, and the rows of each relation under the
  response key that selected it.
* An insert checks its rows (there must be some, each converted from the
  API and naming every required column), then that the request has a
  database, and inserts them; an update converts its values (there must be
  some) and compiles its filter; a delete compiles its filter. Every
  mutation commits when its statements succeed, and answers with the rows it
  touched, or only with its success on a backend that cannot return rows.

The fields of an entity are read without touching the database: a column's
value (null when the selection did not read it), the rows of a relation
under the field's response key (none when absent), a coordinate of a point,
or the success of a mutation.
-/

namespace TableGraph

open GraphQL Store

/-- An object of the API as its fields are read: a row with its values by
attribute key and the rows of its relations by response key (with whether
the relation is to many rows), a point, or the outcome of a mutation. -/
inductive Entity where
  | row (values : Row) (related : List (String × Bool × List Entity))
  | point (x y : Value)
  | outcome (success : Bool)
  deriving Inhabited

/-- The database of a request: the state of its open transaction and the
state last committed. -/
structure Session where
  live : Database
  committed : Database
  deriving Inhabited

namespace Session

/-- A session that starts from a database. -/
def start (db : Database) : Session := ⟨db, db⟩

/-- Makes the open transaction's changes permanent. -/
def commit (s : Session) : Session := ⟨s.live, s.live⟩

/-- Discards the open transaction's changes. -/
def rollback (s : Session) : Session := ⟨s.committed, s.committed⟩

end Session

/-- The refusal of a request without a database. -/
def noSession : Failure :=
  .validation "No database session found in GraphQL context (expected 'db_session')"

namespace CompiledSchema

/-- Turns a row read for a query into an entity of a graph node: its values
converted for the API, and the rows of the relations the node has an edge
for, turned into entities of the edge's target. -/
def hydrate (s : CompiledSchema) : Nat → GraphNode → LoadSpec → LoadedRow → Outcome Entity
  | 0, _, _, _ => .ok (.row [] [])
  | fuel + 1, node, spec, row => do
    let values ← s.registry.rowToWire spec.table row.values (some spec.columns)
    let edges := s.graph.edges node
    let related ← spec.relations.foldlM (fun acc (key, r, child) => do
      match edges.find? (·.1.name == r.name) with
      | none => pure acc
      | some (_, target) =>
        let data := ((row.related.find? (·.1 == key)).map (·.2)).getD []
        let items ← data.mapM (s.hydrate fuel target child)
        pure (acc ++ [(key, r.isMany, items)])) []
    pure (.row values related)

/-- The nesting of relations that hydration follows. -/
def hydrateFuel : Nat := 1000

/-- An argument of a root call, as resolvers see it; null when absent. -/
def callArgument (call : RootCall) (key : String) : Value :=
  resolverInput ((Value.lookup? call.args key).getD .none)

/-- What collecting the selection of a root call reads besides the spec. -/
def selectionContext (s : CompiledSchema) (call : RootCall) : SelectionContext :=
  { catalog := s.catalog, registry := s.registry, document := call.document, variableValues := call.variableValues
    depthBudget := s.depthBudget, plain := resolverInput }

/-- The spec of a root read: its filter, order and page, then its
selection. -/
def rootSpec (s : CompiledSchema) (t : Table) (call : RootCall) (paged : Bool) : Outcome LoadSpec := do
  let arg := callArgument call
  let spec ← LoadSpec.build s.registry t (arg "where") (arg "order_by") (arg "offset")
    (if paged then arg "limit" else .none)
  (s.selectionContext call).collect SelectionContext.collectFuel 0 spec call.selections

/-- Runs a statement on the session; on success the transaction commits. -/
def runStatement (run : Database → Outcome (List Row) × Database) (session : Session) :
    Outcome (List Row) × Session :=
  let (out, db) := run session.live
  match out with
  | .ok rows => (.ok rows, Session.commit { session with live := db })
  | .error e => (.error e, { session with live := db })

/-- The answer of a mutation: its rows as items, one of them for a single
row, or only its success on a backend that cannot return rows. -/
def mutationAnswer (s : CompiledSchema) (t : Table) (single : Bool) (rows : List Row) : Outcome (Source Entity) :=
  if !s.backend.canReportAffectedRows then .ok (.object (.outcome true))
  else do
    let items ← rows.mapM fun r => do
      let values ← s.registry.rowToWire t r none
      pure (Entity.row values [])
    if single then
      match items.head? with
      | some e => pure (.object e)
      | none => pure .null
    else pure (.list (items.map .object))

/-- Runs a mutation's statements and answers. -/
def mutate (s : CompiledSchema) (t : Table) (single : Bool) (run : Database → Outcome (List Row) × Database)
    (session : Session) : Outcome (Source Entity) × Session :=
  let (out, session) := runStatement run session
  match out with
  | .ok rows => (s.mutationAnswer t single rows, session)
  | .error e => (.error e, session)

/-- The rows of an insert argument: one row, or a list of them. -/
def insertInputs (single : Bool) (raw : Value) : List Value :=
  if single then [raw]
  else
    match raw with
    | .none => []
    | v => v.asItems

/-- An input row's entries. -/
def inputEntries : Value → Row
  | .dict es => es
  | _ => []

/-- Checks the rows of an insert. -/
def insertRowsOf (s : CompiledSchema) (t : Table) (inputs : List Value) : Outcome (List Row) := do
  if inputs.isEmpty then .error (.validation "No values were provided!")
  inputs.mapM fun raw => do
    let row ← s.registry.inputRow t (inputEntries raw)
    let missing := t.columns.filter fun c => c.requiredOnInsert && (Value.lookup? row c.name).isNone
    if !missing.isEmpty then
      .error (.validation ("Missing values for required columns: " ++ ", ".intercalate (missing.map (·.fieldName))))
    pure row

/-- Makes the checks of a root call and gives the run that touches the
session. -/
def prepare (s : CompiledSchema) (connected : Bool) (call : RootCall) :
    Outcome (Session → Outcome (Source Entity) × Session) := do
  let windows := s.backend.supportsWindowFunctions
  let returning := s.backend.canReportAffectedRows
  let arg := callArgument call
  match s.api.role? call.rootType call.field with
  | some (.readMany t) => do
    if !connected then .error noSession
    let spec ← s.rootSpec t call true
    pure fun session =>
      let out := do
        let rows ← findMany session.live windows spec
        let items ← rows.mapM (s.hydrate hydrateFuel (s.graph.root t) spec)
        pure (Source.list (items.map .object))
      (out, session)
  | some (.readFirst t) => do
    if !connected then .error noSession
    let spec ← s.rootSpec t call false
    let spec := { spec with limit := some 1 }
    pure fun session =>
      let out := do
        let rows ← findMany session.live windows spec
        match rows.head? with
        | some row => do
          let e ← s.hydrate hydrateFuel (s.graph.root t) spec row
          pure (Source.object e)
        | none => pure .null
      (out, session)
  | some (.insert t single) => do
    let rows ← s.insertRowsOf t (insertInputs single (arg "values"))
    if !connected then .error noSession
    pure (s.mutate t single (insertRows returning t rows))
  | some (.update t) => do
    let values ← s.registry.inputRow t (inputEntries (arg "set_"))
    if values.isEmpty then .error (.validation "Unable to update with no values specified!")
    let p ← Filter.compile s.registry t (arg "where")
    if !connected then .error noSession
    pure (s.mutate t false (updateRows returning t values p))
  | some (.delete t) => do
    let p ← Filter.compile s.registry t (arg "where")
    if !connected then .error noSession
    pure (s.mutate t false (deleteRows returning t p))
  | _ => pure fun session => (.ok .null, session)

/-- Whether a field of a type is of an object type. -/
def returnsObject (s : CompiledSchema) (parentType fieldName : String) : Bool :=
  match (Schema.fieldDef? s.api.schema parentType fieldName).bind
      (fun f => s.api.schema.definition? f.type.baseName) with
  | some nt => nt.isObject
  | none => false

/-- Reads a field of an entity. -/
def readField (s : CompiledSchema) (e : Entity) (parentType fieldName key : String) : Outcome (Source Entity) :=
  match e with
  | .outcome ok => .ok (if fieldName == "isSuccess" then .leaf (.bool ok) else .null)
  | .point x y =>
    match fieldName with
    | "x" => (fun f => .leaf (.float f)) <$> x.toFloat
    | "y" => (fun f => .leaf (.float f)) <$> y.toFloat
    | _ => .ok .null
  | .row values related =>
    match s.api.role? parentType fieldName with
    | some (.column c) =>
      let v := (Value.lookup? values c.name).getD .none
      match v with
      | .dict es =>
        if s.returnsObject parentType fieldName then
          .ok (.object (.point ((Value.lookup? es "x").getD .none) ((Value.lookup? es "y").getD .none)))
        else .ok (.leaf v)
      | v => .ok (.leaf v)
    | some (.relation r _) =>
      match related.find? (·.1 == key) with
      | some (_, many, items) =>
        if many then .ok (.list (items.map .object))
        else .ok ((items.head?.map Source.object).getD .null)
      | none => .ok (if r.isMany then .list [] else .null)
    | _ => .ok .null

/-- The actions a root call's resolver takes on the request's lock and
session, when its run issues `count` statements and commits when `commits`
holds. A read checks that the request has a database, looks the lock up
and only then builds its spec, so a spec that fails leaves the lookup
behind; a mutation makes every check before it looks the lock up. A
resolver that passes its checks runs its statements, and a mutation its
commit, holding the lock. -/
def lockActions (s : CompiledSchema) (connected : Bool) (call : RootCall) (count : Nat) (commits : Bool) :
    List Lock.Action :=
  let locked (work : List Lock.Action) : List Lock.Action := .lookup :: .acquire :: work ++ [.release]
  match s.api.role? call.rootType call.field, s.prepare connected call with
  | some (.readMany _), .ok _ | some (.readFirst _), .ok _ => locked (Lock.statements count false)
  | some (.readMany _), .error _ | some (.readFirst _), .error _ => if connected then [.lookup] else []
  | some (.insert _ _), .ok _ | some (.update _), .ok _ | some (.delete _), .ok _ =>
    locked (Lock.statements count commits)
  | _, _ => []

/-- The resolvers of the API for a request that has a database or not. -/
def resolvers (s : CompiledSchema) (connected : Bool) : Resolvers Session Entity :=
  { prepare := s.prepare connected, field := s.readField }

end CompiledSchema

end TableGraph
