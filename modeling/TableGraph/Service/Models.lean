import TableGraph.Service.Basic
import TableGraph.Schema.Model
import TableGraph.Samples

/-!
# Models named by requests, and catalogs as JSON

A request names the models it works on by `classes`, a list of sample class
names (any other value is handed to the loader as it is), or else by
`models`, the name of a sample model set (the blog models by default).
-/

namespace TableGraph.Service

/-- The name of the model set a request names. -/
def modelsName (r : Request) : String := (textArg? r "models").getD "blog"

/-- The model set a request names. -/
def modelSetOf (r : Request) : Outcome ModelSet :=
  let name := modelsName r
  match Samples.modelSet? name with
  | some m => .ok m
  | none => .error (badRequest ("unknown models " ++ textLiteral name))

/-- The mapped class of a name in a `classes` list. -/
def mappedClassOf (j : Json) : Outcome MappedClass :=
  match j with
  | .string n => match Samples.mappedClass? n with
    | some c => .ok c
    | none => .error (badRequest ("unknown class " ++ textLiteral n))
  | _ => .error (badRequest "class names must be strings")

/-- The source of models a request names. -/
def modelSourceOf (r : Request) : Outcome ModelSource :=
  match arg? r "classes" with
  | some (.array items) => .classes <$> items.mapM mappedClassOf
  | some j => .other <$> Value.ofExchange j
  | none => .modelSet <$> modelSetOf r

/-- The backend a request's optional `dialect` selects. -/
def optionalBackendOf (r : Request) : Outcome (Option Backend) :=
  match arg? r "dialect" with
  | some j => some <$> backendOf (some j)
  | none => .ok none

/-- Enumeration values as JSON, or null. -/
def enumValuesJson : Option (List String) → Json
  | some vs => .array (vs.map .string)
  | none => .null

/-- The item column of an array column as JSON. -/
def itemJson : Option Column → Json
  | some i => .object [("tag", .string i.tag), ("column_type", .string i.columnType),
      ("nullable", .bool i.nullable), ("enum_values", enumValuesJson i.enumValues), ("item", .null)]
  | none => .null

/-- A column as JSON. -/
def columnJson (c : Column) : Json :=
  .object [("name", .string c.name), ("field_name", .string c.fieldName), ("tag", .string c.tag),
    ("column_type", .string c.columnType), ("nullable", .bool c.nullable),
    ("has_default", .bool c.hasDefault), ("primary_key", .bool c.primaryKey),
    ("enum_values", enumValuesJson c.enumValues), ("options", (Value.dict c.options).toExchange),
    ("description", optText c.description), ("item", itemJson c.item)]

/-- A relation as JSON. -/
def relationJson (r : Relation) : Json :=
  .object [("name", .string r.name), ("field_name", .string r.fieldName),
    ("kind", .string r.kind.name), ("target", .string r.target),
    ("pairs", .array (r.pairs.map fun (l, x) => .array [.string l, .string x]))]

/-- A table as JSON. -/
def tableJson (t : Table) : Json :=
  .object [("name", .string t.name), ("field_name", .string t.fieldName),
    ("type_name", .string t.typeName), ("description", optText t.description),
    ("columns", .array (t.columns.map columnJson)), ("relations", .array (t.relations.map relationJson))]

end TableGraph.Service
