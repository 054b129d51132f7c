import TableGraph.Api.Graph
import TableGraph.Registry.Resolve
import TableGraph.GraphQL.Builtins
import TableGraph.Query.Filter
import TableGraph.Settings
import TableGraph.Backend

/-!
# Generating the API of a catalog

For every table the API has input types for filters (one per column, with
an `Or` twin for the column's alternatives), for sort orders, and for the
rows to insert and the values to update; an output type per node of the
relation graph, whose fields are the table's columns followed by its
relations; and an output type for the rows a mutation returns, unless the
backend cannot return rows, in which case every mutation returns only
whether it succeeded. The query root has, per table, a list field and a
`Single` field; the mutation root, unless mutations are turned off, has an
insert of many rows, an insert of one row, an update and a delete per table.

`GeneratedApi.generate` resolves column types in a fixed order (the filter
inputs of every table, then each table's write inputs, then the output
types) so that of several unresolvable columns the same one is reported.
It also records the names it generates in the order it generates them, and
what each field of an output type gives when a query selects it.
-/

namespace TableGraph

open GraphQL

/-- What a field of an output type gives. -/
inductive FieldRole where
  /-- The value of a column of the row at hand. -/
  | column (c : Column)
  /-- The rows of a relation of the row at hand, read at a graph node. -/
  | relation (r : Relation) (target : GraphNode)
  /-- The rows of a table. -/
  | readMany (t : Table)
  /-- The first row of a table. -/
  | readFirst (t : Table)
  /-- Rows inserted into a table: a list of them, or a single one. -/
  | insert (t : Table) (single : Bool)
  /-- The rows of a table updated. -/
  | update (t : Table)
  /-- The rows of a table deleted. -/
  | delete (t : Table)
  /-- A coordinate of a point: `x` or `y`. -/
  | coordinate (axis : String)
  /-- Whether a mutation succeeded. -/
  | success
  deriving Inhabited

/-- The names an API generates, by kind, in the order generated. -/
structure Entities where
  queries : List String := []
  mutations : List String := []
  types : List String := []
  inputs : List String := []
  deriving Repr, Inhabited

/-- The API generated for a catalog. -/
structure GeneratedApi where
  schema : Schema
  entities : Entities
  /-- What the fields of output types give, by type name and field name. -/
  roles : List ((String × String) × FieldRole)
  deriving Inhabited

namespace ApiType

/-- The type reference of an API type; items of lists are never null. -/
def toRef : ApiType → TypeRef
  | .list t => .list (.nonNull t.toRef)
  | t => .named t.baseName

/-- The type reference of an API type with its nullability. -/
def refOf (t : ApiType) (nullable : Bool) : TypeRef :=
  if nullable then t.toRef else .nonNull t.toRef

end ApiType

namespace Generate

/-- The description of a `where` argument. -/
def whereText : String := "Filter rows; column conditions, AND, OR and NOT are combined with AND"

/-- The description of an `orderBy` argument. -/
def orderByText : String := "Sort by columns; lower priority values sort first"

/-- The description of an `offset` argument. -/
def offsetText : String := "Number of rows to skip"

/-- The description of a `limit` argument. -/
def limitText : String := "Maximum number of rows to return"

/-- An optional argument with a description, defaulting to null. -/
def optionalArg (name : String) (type : TypeRef) (description : String) : InputValue :=
  { name, description := some description, type, defaultValue := some "null" }

/-- The filter argument over a table's rows. -/
def whereArg (t : Table) : InputValue := optionalArg "where" (ref (t.typeName ++ "Filters")) whereText

/-- The arguments of a list of rows: filter, order, offset and limit. -/
def listArgs (t : Table) : List InputValue :=
  [whereArg t,
   { optionalArg "orderBy" (ref (t.typeName ++ "OrderBy")) orderByText with resolverKey := some "order_by" },
   optionalArg "offset" (ref "Int") offsetText,
   optionalArg "limit" (ref "Int") limitText]

/-- The name of the filter input type of a column. -/
def columnFiltersName (t : Table) (c : Column) : String :=
  t.typeName ++ Text.pascalCase c.name ++ "Filters"

/-- The operator fields of a column's filter input, over the column's
input type. -/
def operatorFields (valueType : ApiType) : List InputValue :=
  FilterOperator.all.map fun op =>
    let type : TypeRef := match op with
      | .like | .notLike | .ilike | .notIlike => ref "String"
      | .inArray | .notInArray => .list (.nonNull valueType.toRef)
      | .isNull | .isNotNull => ref "Boolean"
      | _ => valueType.toRef
    { name := op.fieldName, type, resolverKey := some op.key }

/-- The filter input types of a column: the alternatives type, then the
column's own type. -/
def columnFilterTypes (reg : Registry) (t : Table) (c : Column) : Outcome (List NamedType) := do
  let valueType ← (·.type) <$> reg.resolve c true
  let name := columnFiltersName t c
  let ops := operatorFields valueType
  pure [{ name := name ++ "Or", definition := .inputObject ops },
    { name, description := some ("Conditions on " ++ t.name ++ "." ++ c.name)
      definition := .inputObject (ops ++ [{ name := "OR", type := optionalList (name ++ "Or") }]) }]

/-- The filter input type of a table. -/
def filtersType (t : Table) : NamedType :=
  let name := t.typeName ++ "Filters"
  { name, description := t.description
    definition := .inputObject (t.columns.map (fun c =>
        { name := c.fieldName, type := ref (columnFiltersName t c), resolverKey := some c.name }) ++
      [{ name := "AND", type := optionalList name }, { name := "OR", type := optionalList name },
       { name := "NOT", type := ref name }]) }

/-- The sort order input type of a table. -/
def orderByType (t : Table) : NamedType :=
  { name := t.typeName ++ "OrderBy"
    definition := .inputObject (t.columns.map fun c =>
      { name := c.fieldName, type := ref "InnerOrder", resolverKey := some c.name }) }

/-- A field of a column with its annotated type. -/
def columnInput (c : Column) (a : Annotated) : InputValue :=
  { name := c.fieldName, description := a.description, type := a.type.refOf a.nullable, resolverKey := some c.name }

/-- The input type of rows to insert (`insert`) or of values to update. -/
def writeType (reg : Registry) (t : Table) (insert : Bool) : Outcome NamedType := do
  let fields ← t.columns.mapM fun c => do
    let a ← if insert then reg.annotate c true false true else reg.annotate c true true false
    pure (columnInput c a)
  pure { name := t.typeName ++ (if insert then "InsertInput" else "UpdateInput"), definition := .inputObject fields }

/-- The input types of a table, in the order generated. -/
def tableInputs (reg : Registry) (t : Table) : Outcome (List NamedType) := do
  let columnTypes ← t.columns.mapM (columnFilterTypes reg t)
  let insertType ← writeType reg t true
  let updateType ← writeType reg t false
  pure (columnTypes.flatten ++ [filtersType t, orderByType t, insertType, updateType])

/-- The output fields of a table's columns. -/
def columnFields (reg : Registry) (t : Table) : Outcome (List Field) :=
  t.columns.mapM fun c => do
    let a ← reg.annotate c false false false
    pure { name := c.fieldName, description := a.description, type := a.type.refOf a.nullable }

/-- The field of a relation edge. -/
def relationField (g : RelationGraph) (r : Relation) (target : GraphNode) : Field :=
  match g.catalog.table? r.target with
  | some tt =>
    if r.isMany then
      { name := r.fieldName, description := r.description, args := listArgs tt, type := requiredList target.name }
    else
      { name := r.fieldName, description := r.description, args := [whereArg tt]
        type := ref target.name }
  | none => { name := r.fieldName, type := ref target.name }

/-- The output type of a graph node, with the roles of its fields. -/
def nodeType (reg : Registry) (g : RelationGraph) (n : GraphNode) :
    Outcome (NamedType × List ((String × String) × FieldRole)) := do
  let cols ← columnFields reg n.table
  let edges := g.edges n
  let rels := edges.map fun (r, m) => relationField g r m
  let roles := (n.table.columns.map fun c => ((n.name, c.fieldName), FieldRole.column c)) ++
    edges.map fun (r, m) => ((n.name, r.fieldName), FieldRole.relation r m)
  pure ({ name := n.name, description := n.table.description, definition := .object (cols ++ rels) }, roles)

/-- The output type of the rows a mutation returns. -/
def itemType (reg : Registry) (t : Table) : Outcome (NamedType × List ((String × String) × FieldRole)) := do
  let cols ← columnFields reg t
  let name := t.typeName ++ "Item"
  pure ({ name, description := t.description, definition := .object cols },
    t.columns.map fun c => ((name, c.fieldName), FieldRole.column c))

/-- The outcome type of mutations on a backend that cannot return rows. -/
def mutationReturnType : NamedType :=
  { name := "MutationReturn", description := some "Outcome of a mutation on a backend that cannot return rows"
    definition := .object [{ name := "isSuccess", type := required "Boolean" }] }

/-- The input type of one column's sort entry. -/
def innerOrderType : NamedType :=
  { name := "InnerOrder", description := some "Sort direction and priority of one column; lower priority sorts first"
    definition := .inputObject [{ name := "direction", type := required "OrderDirection" },
      { name := "priority", type := ref "Int" }] }

/-- The sort directions. -/
def orderDirectionType : NamedType :=
  { name := "OrderDirection", definition := .enum [plainValue "asc" none, plainValue "desc" none] }

/-- The point types, for output and for input. -/
def pointTypes : List NamedType :=
  let coords : List Field := [{ name := "x", type := required "Float" }, { name := "y", type := required "Float" }]
  [{ name := "GeometryXY", description := some "Geometry point with x and y coordinates", definition := .object coords },
   { name := "GeometryXYInput", description := some "Geometry point with x and y coordinates"
     definition := .inputObject (coords.map fun f => { name := f.name, type := f.type }) }]

/-- The enumerations a resolved type is made of. -/
def enumsOf : ApiType → List EnumType
  | .enumeration e => [e]
  | .list t => enumsOf t
  | _ => []

/-- The enumeration types the columns of a catalog resolve to, each once. -/
def enumTypes (reg : Registry) (c : Catalog) : List NamedType :=
  let all := c.tables.flatMap fun t => t.columns.flatMap fun col =>
    [true, false].flatMap fun isInput =>
      match reg.resolve col isInput with
      | .ok r => enumsOf r.type
      | .error _ => []
  let distinct := all.foldl (fun acc e => if acc.any (·.name == e.name) then acc else acc ++ [e]) []
  distinct.map fun e =>
    { name := e.name, definition := .enum (e.members.map fun (m, v) => { name := m, value := v }) }

/-- The query root's fields of a table, with their roles. -/
def queryFields (g : RelationGraph) (t : Table) : List (Field × FieldRole) :=
  let root := (g.root t).name
  [({ name := t.fieldName, description := t.description, args := listArgs t, type := requiredList root },
    .readMany t),
   ({ name := t.fieldName ++ "Single", description := t.description, args := (listArgs t).take 3
      type := ref root }, .readFirst t)]

/-- The mutation root's fields of a table, with their roles. -/
def mutationFields (returnless : Bool) (t : Table) : List (Field × FieldRole) :=
  let many : TypeRef := if returnless then required "MutationReturn" else requiredList (t.typeName ++ "Item")
  let single : TypeRef := if returnless then required "MutationReturn" else ref (t.typeName ++ "Item")
  [({ name := "insertInto" ++ t.typeName
      args := [{ name := "values", description := some "Rows to insert"
                 type := requiredList (t.typeName ++ "InsertInput") }], type := many }, .insert t false),
   ({ name := "insertInto" ++ t.typeName ++ "Single"
      args := [{ name := "values", description := some "Row to insert", type := required (t.typeName ++ "InsertInput") }]
      type := single }, .insert t true),
   ({ name := "update" ++ t.typeName
      args := [{ name := "set", resolverKey := some "set_", description := some "Values to assign", type := required (t.typeName ++ "UpdateInput") },
        whereArg t], type := many }, .update t),
   ({ name := "deleteFrom" ++ t.typeName, args := [whereArg t], type := many }, .delete t)]

end Generate

namespace GeneratedApi

open Generate

/-- Generates the API of a catalog over a relation graph. -/
def generate (reg : Registry) (g : RelationGraph) (b : Backend) (settings : BuildSettings) :
    Outcome GeneratedApi := do
  let c := g.catalog
  let returnless := !b.canReportAffectedRows
  let inputs ← c.tables.mapM (tableInputs reg)
  let nodes ← g.nodes.mapM (nodeType reg g)
  let items ← if returnless then pure [] else c.tables.mapM (itemType reg)
  let queries := c.tables.flatMap (queryFields g)
  let mutations := if settings.mutations.truthy then c.tables.flatMap (mutationFields returnless) else []
  let rootRoles (root : String) (fs : List (Field × FieldRole)) :=
    fs.map fun (f, role) => ((root, f.name), role)
  let queryType : NamedType := { name := "Query", definition := .object (queries.map (·.1)) }
  let mutationType : List NamedType :=
    if mutations.isEmpty then [] else [{ name := "Mutation", definition := .object (mutations.map (·.1)) }]
  let own := inputs.flatten ++ nodes.map (·.1) ++ items.map (·.1) ++ [queryType] ++ mutationType ++
    [mutationReturnType, innerOrderType, orderDirectionType] ++ pointTypes ++ enumTypes reg c
  let schema : Schema :=
    { query := "Query", mutation := if mutations.isEmpty then none else some "Mutation"
      definitions := own ++ scalarTypes ++ introspectionTypes, directives := specifiedDirectives }
  let roles := nodes.flatMap (·.2) ++ items.flatMap (·.2) ++ rootRoles "Query" queries ++
    rootRoles "Mutation" mutations ++
    [(("GeometryXY", "x"), .coordinate "x"), (("GeometryXY", "y"), .coordinate "y"),
     (("MutationReturn", "isSuccess"), .success)]
  pure { schema, roles
         entities := { queries := queries.map (·.1.name), mutations := mutations.map (·.1.name)
                       types := nodes.map (·.1.name) ++ items.map (·.1.name)
                       inputs := inputs.flatten.map (·.name) } }

/-- What a field of an output type gives, if the API generated it. -/
def role? (api : GeneratedApi) (typeName fieldName : String) : Option FieldRole :=
  (api.roles.find? (·.1 == (typeName, fieldName))).map (·.2)

end GeneratedApi

end TableGraph
