import TableGraph.GraphQL.Coerce
import TableGraph.GraphQL.Builtins

/-!
# Resolved values and introspection

A resolver hands the executor a `Source`: null, a leaf value still to be
serialized, a list, an object of the application's own kind `ω`, or a part
of the schema itself (`SchemaPart`) when a query introspects the schema.

`SchemaPart.resolve` answers the fields of the introspection types: the schema's
types in collection order, its root types and directives; for a type its
kind, name, description, fields, input fields, enumeration values, the
type a list or non-null type wraps, and whether an input object takes exactly
one field (none of this schema's do); for fields, arguments and input fields
their names, descriptions, types, defaults and deprecation. Deprecated
members are left out unless `includeDeprecated` is true.
-/

namespace TableGraph.GraphQL

/-- A part of a schema seen through introspection. -/
inductive SchemaPart where
  | schema
  | type (t : TypeRef)
  | field (f : Field)
  | inputValue (v : InputValue)
  | enumValue (v : EnumValue)
  | directive (d : Directive)
  deriving Repr, Inhabited

/-- A value as a resolver produced it, before completion. -/
inductive Source (ω : Type) where
  | null
  | leaf (v : Value)
  | list (items : List (Source ω))
  | object (o : ω)
  | part (m : SchemaPart)
  deriving Inhabited

namespace Source

/-- A text leaf, or null. -/
def text? {ω : Type} : Option String → Source ω
  | some s => .leaf (.str s)
  | none => .null

/-- A list of introspection objects. -/
def metas {ω : Type} (ms : List SchemaPart) : Source ω := .list (ms.map .part)

end Source

namespace SchemaPart

/-- Whether an `includeDeprecated` argument asks for deprecated members. -/
def includeDeprecated (args : List (String × Value)) : Bool :=
  Value.lookup? args "includeDeprecated" == some (.bool true)

/-- Resolves a field of an introspection object. -/
def resolve {ω : Type} (s : Schema) (m : SchemaPart) (field : String) (args : List (String × Value)) : Source ω :=
  match m, field with
  | .schema, "description" => .null
  | .schema, "types" => Source.metas (s.typeMap.map fun t => .type (.named t.name))
  | .schema, "queryType" => .part (.type (.named s.query))
  | .schema, "mutationType" =>
    match s.mutation with
    | some m => .part (.type (.named m))
    | none => .null
  | .schema, "subscriptionType" => .null
  | .schema, "directives" => Source.metas (s.directives.map .directive)
  | .type t, "kind" =>
    match t with
    | .list _ => .leaf (.str "LIST")
    | .nonNull _ => .leaf (.str "NON_NULL")
    | .named n =>
      match s.definition? n with
      | some nt => .leaf (.str nt.kindName)
      | none => .null
  | .type (.named n), "name" => .leaf (.str n)
  | .type (.named n), "description" => Source.text? ((s.definition? n).bind (·.description))
  | .type (.named n), "fields" =>
    match s.definition? n with
    | some { definition := .object fs, .. } =>
      Source.metas ((fs.filter fun f => includeDeprecated args || f.deprecationReason.isNone).map .field)
    | _ => .null
  | .type (.named n), "interfaces" =>
    match s.definition? n with
    | some { definition := .object _, .. } => .list []
    | _ => .null
  | .type (.named n), "enumValues" =>
    match s.definition? n with
    | some { definition := .enum vs, .. } => Source.metas (vs.map .enumValue)
    | _ => .null
  | .type (.named n), "inputFields" =>
    match s.definition? n with
    | some { definition := .inputObject fs, .. } => Source.metas (fs.map .inputValue)
    | _ => .null
  | .type (.named n), "isOneOf" =>
    match s.definition? n with
    | some { definition := .inputObject _, .. } => .leaf (.bool false)
    | _ => .null
  | .type (.list t), "ofType" => .part (.type t)
  | .type (.nonNull t), "ofType" => .part (.type t)
  | .field f, "name" => .leaf (.str f.name)
  | .field f, "description" => Source.text? f.description
  | .field f, "args" => Source.metas (f.args.map .inputValue)
  | .field f, "type" => .part (.type f.type)
  | .field f, "isDeprecated" => .leaf (.bool f.deprecationReason.isSome)
  | .field f, "deprecationReason" => Source.text? f.deprecationReason
  | .inputValue v, "name" => .leaf (.str v.name)
  | .inputValue v, "description" => Source.text? v.description
  | .inputValue v, "type" => .part (.type v.type)
  | .inputValue v, "defaultValue" => Source.text? v.defaultValue
  | .inputValue _, "isDeprecated" => .leaf (.bool false)
  | .enumValue v, "name" => .leaf (.str v.name)
  | .enumValue v, "description" => Source.text? v.description
  | .enumValue _, "isDeprecated" => .leaf (.bool false)
  | .directive d, "name" => .leaf (.str d.name)
  | .directive d, "description" => Source.text? d.description
  | .directive d, "isRepeatable" => .leaf (.bool d.isRepeatable)
  | .directive d, "locations" => .list (d.locations.map fun l => .leaf (.str l))
  | .directive d, "args" => Source.metas (d.args.map .inputValue)
  | _, _ => .null

end SchemaPart

end TableGraph.GraphQL
