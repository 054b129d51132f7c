import TableGraph.GraphQL.Schema

/-!
# Built-in types and directives

Every schema has the built-in scalars, the directives a query may use
(`@include`, `@skip`) and those a schema may use (`@deprecated`,
`@specifiedBy`, `@oneOf`), and the introspection types through which a
query reads the schema itself.
-/

namespace TableGraph.GraphQL

/-- A scalar type. -/
def scalarType (name : String) (description : Option String) : NamedType :=
  { name, description, definition := .scalar }

/-- A nullable named type reference. -/
def ref (name : String) : TypeRef := .named name

/-- A non-null named type reference. -/
def required (name : String) : TypeRef := .nonNull (.named name)

/-- A non-null list of non-null named types. -/
def requiredList (name : String) : TypeRef := .nonNull (.list (.nonNull (.named name)))

/-- A nullable list of non-null named types. -/
def optionalList (name : String) : TypeRef := .list (.nonNull (.named name))

/-- The built-in scalar types. -/
def scalarTypes : List NamedType :=
  [scalarType "Int" (some ("The `Int` scalar type represents non-fractional signed whole numeric values. " ++
      "Int can represent values between -(2^31) and 2^31 - 1.")),
   scalarType "Float" none,
   scalarType "String" (some ("The `String` scalar type represents textual data, represented as UTF-8 " ++
      "character sequences. The String type is most often used by GraphQL to represent free-form " ++
      "human-readable text.")),
   scalarType "Boolean" (some "The `Boolean` scalar type represents `true` or `false`."),
   scalarType "ID" (some ("The `ID` scalar type represents a unique identifier, often used to refetch an " ++
      "object or as key for a cache. The ID type appears in a JSON response as a String; however, it " ++
      "is not intended to be human-readable. When expected as an input type, any string (such as " ++
      "`\"4\"`) or integer (such as `4`) input value will be accepted as an ID."))]

/-- The `includeDeprecated` argument of introspection fields. -/
def includeDeprecatedArg : InputValue :=
  { name := "includeDeprecated", type := ref "Boolean", defaultValue := some "false" }

/-- An enumeration value standing for its own name. -/
def plainValue (name : String) (description : Option String) : EnumValue :=
  { name, description, value := name }

/-- The introspection types. -/
def introspectionTypes : List NamedType :=
  [{ name := "__Schema"
     description := some ("A GraphQL Schema defines the capabilities of a GraphQL server. It exposes all " ++
       "available types and directives on the server, as well as the entry points for query, mutation, " ++
       "and subscription operations.")
     definition := .object [
       { name := "description", type := ref "String" },
       { name := "types", description := some "A list of all types supported by this server.",
         type := requiredList "__Type" },
       { name := "queryType", description := some "The type that query operations will be rooted at.",
         type := required "__Type" },
       { name := "mutationType",
         description := some "If this server supports mutation, the type that mutation operations will be rooted at.",
         type := ref "__Type" },
       { name := "subscriptionType",
         description := some ("If this server support subscription, the type that subscription operations " ++
           "will be rooted at."),
         type := ref "__Type" },
       { name := "directives", description := some "A list of all directives supported by this server.",
         type := requiredList "__Directive" }] },
   { name := "__Type"
     description := some ("The fundamental unit of any GraphQL Schema is the type. There are many kinds of " ++
       "types in GraphQL as represented by the `__TypeKind` enum.\n\nDepending on the kind of a type, " ++
       "certain fields describe information about that type. Scalar types provide no information beyond " ++
       "a name, description and optional `specifiedByURL`, while Enum types provide their values. Object " ++
       "and Interface types provide the fields they describe. Abstract types, Union and Interface, provide " ++
       "the Object types possible at runtime. List and NonNull types compose other types.")
     definition := .object [
       { name := "kind", type := required "__TypeKind" },
       { name := "name", type := ref "String" },
       { name := "description", type := ref "String" },
       { name := "specifiedByURL", type := ref "String" },
       { name := "fields", args := [includeDeprecatedArg], type := optionalList "__Field" },
       { name := "interfaces", type := optionalList "__Type" },
       { name := "possibleTypes", type := optionalList "__Type" },
       { name := "enumValues", args := [includeDeprecatedArg], type := optionalList "__EnumValue" },
       { name := "inputFields", args := [includeDeprecatedArg], type := optionalList "__InputValue" },
       { name := "ofType", type := ref "__Type" },
       { name := "isOneOf", type := ref "Boolean" }] },
   { name := "__TypeKind"
     description := some "An enum describing what kind of type a given `__Type` is."
     definition := .enum [
       plainValue "SCALAR" (some "Indicates this type is a scalar."),
       plainValue "OBJECT" (some ("Indicates this type is an object. `fields` and `interfaces` are valid " ++
         "fields.")),
       plainValue "INTERFACE" (some ("Indicates this type is an interface. `fields`, `interfaces`, and " ++
         "`possibleTypes` are valid fields.")),
       plainValue "UNION" (some "Indicates this type is a union. `possibleTypes` is a valid field."),
       plainValue "ENUM" (some "Indicates this type is an enum. `enumValues` is a valid field."),
       plainValue "INPUT_OBJECT" (some ("Indicates this type is an input object. `inputFields` is a valid " ++
         "field.")),
       plainValue "LIST" (some "Indicates this type is a list. `ofType` is a valid field."),
       plainValue "NON_NULL" (some "Indicates this type is a non-null. `ofType` is a valid field.")] },
   { name := "__Field"
     description := some ("Object and Interface types are described by a list of Fields, each of which has " ++
       "a name, potentially a list of arguments, and a return type.")
     definition := .object [
       { name := "name", type := required "String" },
       { name := "description", type := ref "String" },
       { name := "args", args := [includeDeprecatedArg], type := requiredList "__InputValue" },
       { name := "type", type := required "__Type" },
       { name := "isDeprecated", type := required "Boolean" },
       { name := "deprecationReason", type := ref "String" }] },
   { name := "__InputValue"
     description := some ("Arguments provided to Fields or Directives and the input fields of an " ++
       "InputObject are represented as Input Values which describe their type and optionally a default " ++
       "value.")
     definition := .object [
       { name := "name", type := required "String" },
       { name := "description", type := ref "String" },
       { name := "type", type := required "__Type" },
       { name := "defaultValue",
         description := some "A GraphQL-formatted string representing the default value for this input value.",
         type := ref "String" },
       { name := "isDeprecated", type := required "Boolean" },
       { name := "deprecationReason", type := ref "String" }] },
   { name := "__EnumValue"
     description := some ("One possible value for a given Enum. Enum values are unique values, not a " ++
       "placeholder for a string or numeric value. However an Enum value is returned in a JSON response " ++
       "as a string.")
     definition := .object [
       { name := "name", type := required "String" },
       { name := "description", type := ref "String" },
       { name := "isDeprecated", type := required "Boolean" },
       { name := "deprecationReason", type := ref "String" }] },
   { name := "__Directive"
     description := some ("A Directive provides a way to describe alternate runtime execution and type " ++
       "validation behavior in a GraphQL document.\n\nIn some cases, you need to provide options to " ++
       "alter GraphQL's execution behavior in ways field arguments will not suffice, such as " ++
       "conditionally including or skipping a field. Directives provide this by describing additional " ++
       "information to the executor.")
     definition := .object [
       { name := "name", type := required "String" },
       { name := "description", type := ref "String" },
       { name := "isRepeatable", type := required "Boolean" },
       { name := "locations", type := requiredList "__DirectiveLocation" },
       { name := "args", args := [includeDeprecatedArg], type := requiredList "__InputValue" }] },
   { name := "__DirectiveLocation"
     description := some ("A Directive can be adjacent to many parts of the GraphQL language, a " ++
       "__DirectiveLocation describes one such possible adjacencies.")
     definition := .enum [
       plainValue "QUERY" (some "Location adjacent to a query operation."),
       plainValue "MUTATION" (some "Location adjacent to a mutation operation."),
       plainValue "SUBSCRIPTION" (some "Location adjacent to a subscription operation."),
       plainValue "FIELD" (some "Location adjacent to a field."),
       plainValue "FRAGMENT_DEFINITION" (some "Location adjacent to a fragment definition."),
       plainValue "FRAGMENT_SPREAD" (some "Location adjacent to a fragment spread."),
       plainValue "INLINE_FRAGMENT" (some "Location adjacent to an inline fragment."),
       plainValue "VARIABLE_DEFINITION" (some "Location adjacent to a variable definition."),
       plainValue "SCHEMA" (some "Location adjacent to a schema definition."),
       plainValue "SCALAR" (some "Location adjacent to a scalar definition."),
       plainValue "OBJECT" (some "Location adjacent to an object type definition."),
       plainValue "FIELD_DEFINITION" (some "Location adjacent to a field definition."),
       plainValue "ARGUMENT_DEFINITION" (some "Location adjacent to an argument definition."),
       plainValue "INTERFACE" (some "Location adjacent to an interface definition."),
       plainValue "UNION" (some "Location adjacent to a union definition."),
       plainValue "ENUM" (some "Location adjacent to an enum definition."),
       plainValue "ENUM_VALUE" (some "Location adjacent to an enum value definition."),
       plainValue "INPUT_OBJECT" (some "Location adjacent to an input object type definition."),
       plainValue "INPUT_FIELD_DEFINITION" (some "Location adjacent to an input object field definition.")] }]

/-- The directives every schema has. -/
def specifiedDirectives : List Directive :=
  [{ name := "include"
     description := some "Directs the executor to include this field or fragment only when the `if` argument is true."
     locations := ["FIELD", "FRAGMENT_SPREAD", "INLINE_FRAGMENT"]
     args := [{ name := "if", description := some "Included when true.", type := required "Boolean" }] },
   { name := "skip"
     description := some "Directs the executor to skip this field or fragment when the `if` argument is true."
     locations := ["FIELD", "FRAGMENT_SPREAD", "INLINE_FRAGMENT"]
     args := [{ name := "if", description := some "Skipped when true.", type := required "Boolean" }] },
   { name := "deprecated"
     description := some "Marks an element of a GraphQL schema as no longer supported."
     locations := ["FIELD_DEFINITION", "ARGUMENT_DEFINITION", "INPUT_FIELD_DEFINITION", "ENUM_VALUE"]
     args := [{ name := "reason", type := ref "String", defaultValue := some "\"No longer supported\"" }] },
   { name := "specifiedBy"
     description := some "Exposes a URL that specifies the behavior of this scalar."
     locations := ["SCALAR"]
     args := [{ name := "url", description := some "The URL that specifies the behavior of this scalar.",
                type := required "String" }] },
   { name := "oneOf"
     description := some "Indicates exactly one field must be supplied and this field must not be `null`."
     locations := ["INPUT_OBJECT"] }]

end TableGraph.GraphQL
