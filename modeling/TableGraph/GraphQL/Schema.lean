import TableGraph.Text.Naming

/-!
# GraphQL type systems

A schema is a set of named types and the names of its root types. A named
type is a scalar, an object type with fields, an input object type with
input fields, or an enumeration; a field has arguments, and arguments and
input fields are input values, which may carry a default. Types are referred
to by name, wrapped in list and non-null markers.

The types of a schema are those reachable from its root types, the types of
the built-in directives' arguments and the introspection types, collected
depth first: a type, then for an object type the type of each field followed
by the types of that field's arguments, for an input object type the type
of each input field. `Schema.typeMap` lists them in that order, which is
also the order introspection reports them in.
-/

namespace TableGraph.GraphQL

/-- A reference to a type: a named type, a list of a type, or a non-null
type. -/
inductive TypeRef where
  | named (name : String)
  | list (of : TypeRef)
  | nonNull (of : TypeRef)
  deriving Repr, BEq, DecidableEq, Inhabited

namespace TypeRef

/-- The type as the query language writes it. -/
def render : TypeRef → String
  | .named n => n
  | .list t => "[" ++ t.render ++ "]"
  | .nonNull t => t.render ++ "!"

/-- The name of the named type inside the wrappers. -/
def baseName : TypeRef → String
  | .named n => n
  | .list t => t.baseName
  | .nonNull t => t.baseName

/-- Whether the type admits null. -/
def isNullable : TypeRef → Bool
  | .nonNull _ => false
  | _ => true

/-- The type without an outer non-null marker. -/
def nullable : TypeRef → TypeRef
  | .nonNull t => t
  | t => t

end TypeRef

/-- An argument of a field, or a field of an input object type. -/
structure InputValue where
  name : String
  description : Option String := none
  type : TypeRef
  /-- The default value as the query language writes it, if there is one. -/
  defaultValue : Option String := none
  /-- The key under which resolvers receive the value, when it differs
  from the name. -/
  resolverKey : Option String := none
  deriving Repr, BEq, Inhabited

/-- The key under which resolvers receive an input value. -/
def InputValue.key (v : InputValue) : String := v.resolverKey.getD v.name

/-- A field of an object type. -/
structure Field where
  name : String
  description : Option String := none
  args : List InputValue := []
  type : TypeRef
  deprecationReason : Option String := none
  deriving Repr, BEq, Inhabited

/-- A value of an enumeration: its name and the stored value it stands for. -/
structure EnumValue where
  name : String
  description : Option String := none
  value : String
  deriving Repr, BEq, Inhabited

/-- The kinds of named types with their parts. -/
inductive TypeDef where
  | scalar
  | object (fields : List Field)
  | inputObject (fields : List InputValue)
  | enum (values : List EnumValue)
  deriving Repr, BEq, Inhabited

/-- A named type. -/
structure NamedType where
  name : String
  description : Option String := none
  definition : TypeDef
  deriving Repr, BEq, Inhabited

namespace NamedType

/-- The fields of an object type (none for other types). -/
def fields (t : NamedType) : List Field :=
  match t.definition with
  | .object fs => fs
  | _ => []

/-- The input fields of an input object type (none for other types). -/
def inputFields (t : NamedType) : List InputValue :=
  match t.definition with
  | .inputObject fs => fs
  | _ => []

/-- The values of an enumeration (none for other types). -/
def enumValues (t : NamedType) : List EnumValue :=
  match t.definition with
  | .enum vs => vs
  | _ => []

/-- The field of a name. -/
def field? (t : NamedType) (name : String) : Option Field :=
  t.fields.find? (·.name == name)

/-- Whether the type is an object type. -/
def isObject (t : NamedType) : Bool := t.definition matches .object _

/-- Whether the type is an input object type. -/
def isInputObject (t : NamedType) : Bool := t.definition matches .inputObject _

/-- Whether the type is a scalar or an enumeration. -/
def isLeaf (t : NamedType) : Bool := t.definition matches .scalar | .enum _

/-- Whether values of the type may be given as input. -/
def isInput (t : NamedType) : Bool := t.definition matches .scalar | .enum _ | .inputObject _

/-- The introspection name of the type's kind. -/
def kindName (t : NamedType) : String :=
  match t.definition with
  | .scalar => "SCALAR"
  | .object _ => "OBJECT"
  | .inputObject _ => "INPUT_OBJECT"
  | .enum _ => "ENUM"

/-- The names of the types a type refers to directly, in collection order. -/
def references (t : NamedType) : List String :=
  match t.definition with
  | .object fs => fs.flatMap fun f => f.type.baseName :: f.args.map (·.type.baseName)
  | .inputObject fs => fs.map (·.type.baseName)
  | _ => []

end NamedType

/-- A directive a query may carry. -/
structure Directive where
  name : String
  description : Option String := none
  locations : List String
  args : List InputValue := []
  isRepeatable : Bool := false
  deriving Repr, BEq, Inhabited

/-- A schema: its root types and every type it defines. -/
structure Schema where
  query : String
  mutation : Option String := none
  /-- The defined types, built-in scalars and introspection types included. -/
  definitions : List NamedType
  directives : List Directive := []
  deriving Repr, Inhabited

namespace Schema

/-- The definition of a type name. -/
def definition? (s : Schema) (name : String) : Option NamedType :=
  s.definitions.find? (·.name == name)

/-- Collects the types reachable from a name, depth first, after those
already collected; `fuel` bounds the number of types visited. -/
def collect (s : Schema) : Nat → List String → String → List String
  | 0, seen, _ => seen
  | fuel + 1, seen, name =>
    if seen.contains name then seen
    else
      match s.definition? name with
      | none => seen
      | some t => t.references.foldl (collect s fuel) (seen ++ [name])

/-- The root names collection starts from: the root types, the types of the
directives' arguments, then the introspection schema type. -/
def roots (s : Schema) : List String :=
  [s.query] ++ s.mutation.toList ++ s.directives.flatMap (fun d => d.args.map (·.type.baseName)) ++
    ["__Schema"]

/-- The names of the schema's types, in collection order. -/
def typeNames (s : Schema) : List String :=
  s.roots.foldl (s.collect (s.definitions.length + 1)) []

/-- The schema's types, in collection order. -/
def typeMap (s : Schema) : List NamedType :=
  s.typeNames.filterMap s.definition?

/-- The first name, in collection order, that two of the defined types
bear. -/
def sharedName? (s : Schema) : Option String :=
  s.typeNames.find? fun name => 1 < s.definitions.countP (·.name == name)

/-- The type of a name, if the schema has it. -/
def type? (s : Schema) (name : String) : Option NamedType :=
  if s.typeNames.contains name then s.definition? name else none

end Schema

end TableGraph.GraphQL
