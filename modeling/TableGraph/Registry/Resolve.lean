import TableGraph.Registry.Basic

/-!
# Resolving column types

`Registry.resolve` gives a column its API type and description: a type
registered for the column's type class, else one registered for its tag,
else the built-in type of its tag. A tag with none of these fails to
compile.

The built-in types: integers and doubles are `Int` and `Float`, truth values
`Boolean`; big integers, decimals, dates, times, UUIDs and JSON documents
travel as `String` described by their kind; bytes and vectors are lists of
`Int` and `Float`; an array is a list of its item column's type; a geometry
is a point object, or a list of two `Float` in tuple mode; a text or
enumeration column with stored values gets a generated enumeration, one
member per value.

The members follow the rules of the runtime's enumeration classes
(`EnumClass`): a value repeated under a second name is an alias and not a
member of its own, names with double underscores at both ends and the class
settings (`_order_`, `_ignore_`, …) are attributes, other names with single
underscores at both ends and the name `mro` are refused, and a declared
`_order_` must list the members.

`Registry.annotate` adds nullability: a column is nullable when asked to be,
when it is nullable, or (when defaults count as absent) when it has a
default. Descriptions of the plain scalars are dropped and a column's own
description is appended.
-/

namespace TableGraph

/-- The member name of a stored enumeration value: the value itself when the
API can carry it, else `Option<index>`. -/
def enumMemberName (value : String) (index : Nat) : String :=
  Text.enumMemberName value index

/-- The name of the enumeration generated for a column. -/
def enumTypeName (c : Column) : String :=
  Text.pascalCase c.table ++ Text.pascalCase c.name ++ "Enum"

/-- Adds a member, a repeated member name keeping its first place and taking
the later value. -/
def addMember (ms : List (String × String)) (name value : String) : List (String × String) :=
  if ms.any (·.1 == name) then ms.map fun (n, v) => if n == name then (n, value) else (n, v)
  else ms ++ [(name, value)]

namespace EnumClass

/-- A name that starts and ends with one underscore and not two. -/
def isSunder (n : String) : Bool :=
  let cs := n.toList
  cs.length > 2 && cs.head? == some '_' && cs.getLast? == some '_' &&
    cs[1]? != some '_' && cs[cs.length - 2]? != some '_'

/-- A name that starts and ends with two underscores and not three. -/
def isDunder (n : String) : Bool :=
  let cs := n.toList
  cs.length > 4 && cs.take 2 == ['_', '_'] && cs.drop (cs.length - 2) == ['_', '_'] &&
    cs[2]? != some '_' && cs[cs.length - 3]? != some '_'

/-- A name private to the class `cls`: `_cls__name`, not ending in two
underscores. -/
def isPrivate (cls n : String) : Bool :=
  let p := "_" ++ cls ++ "__"
  n.length > p.length && n.startsWith p && !n.endsWith "__"

/-- The underscore names an enumeration class reads as settings. -/
def settingNames : List String :=
  ["_order_", "_generate_next_value_", "_numeric_repr_", "_missing_", "_ignore_",
    "_iter_member_", "_iter_member_by_value_", "_iter_member_by_def_"]

/-- The words of a setting written as text: split at commas and blanks. -/
def words (s : String) : List String :=
  ((s.map fun c => if c == ',' then ' ' else c).splitOn " ").filter (· ≠ "")

/-- A list of names in literal form. -/
def namesLiteral (ns : List String) : String :=
  "[" ++ ", ".intercalate (ns.map textLiteral) ++ "]"

/-- An enumeration class being defined, one name at a time. -/
structure Draft where
  /-- Every member name in order, aliases included. -/
  names : List String := []
  /-- The members with their values; a later name with an earlier value is
  an alias and not listed. -/
  members : List (String × String) := []
  /-- The declared member order, if any. -/
  order : Option String := none
  /-- Names that are not to become members. -/
  ignored : List String := []
  /-- Whether the constructor or initializer was replaced by a text. -/
  hooked : Bool := false

/-- Defines one name of the class: most names become members; a private
name, a setting, or a name with double underscores at both ends becomes a
plain attribute; any other name with single underscores at both ends is
refused. -/
def Draft.define (cls : String) (d : Draft) (name value : String) : Outcome Draft :=
  if isPrivate cls name then .ok d
  else if isSunder name then
    if !settingNames.contains name then
      .error ⟨.badValue, "_sunder_ names, such as " ++ textLiteral name ++
        ", are reserved for future Enum use"⟩
    else if name == "_order_" then .ok { d with order := some value }
    else if name == "_ignore_" then
      let ws := words value
      let already := d.names.filter ws.contains
      if already.isEmpty then .ok { d with ignored := ws }
      else .error ⟨.badValue, "_ignore_ cannot specify already set names: \x7b" ++
        ", ".intercalate (already.map textLiteral) ++ "\x7d"⟩
    else .ok d
  else if isDunder name then
    if name == "__order__" then .ok { d with order := some value }
    else if name == "__init__" || name == "__new__" then .ok { d with hooked := true }
    else .ok d
  else if d.ignored.contains name then .ok d
  else
    let members := if d.members.any (·.2 == value) then d.members else d.members ++ [(name, value)]
    .ok { d with names := d.names ++ [name], members }

/-- Completes the class: `mro` cannot be a member, members cannot be made
once the constructor or initializer is a text, and a declared order must
list the members (aliases aside) as defined. -/
def Draft.finish (d : Draft) : Outcome (List (String × String)) :=
  let memberNames := d.members.map (·.1)
  if d.names.contains "mro" then .error ⟨.badValue, "invalid enum member name(s) 'mro'"⟩
  else if d.hooked && !d.names.isEmpty then .error ⟨.badType, "'str' object is not callable"⟩
  else match d.order with
    | none => .ok d.members
    | some text =>
      let order := (words text).filter fun w => !d.names.contains w || memberNames.contains w
      if order == memberNames then .ok d.members
      else .error ⟨.badType, "member order does not match _order_:\n  " ++
        namesLiteral memberNames ++ "\n  " ++ namesLiteral order⟩

/-- The members of an enumeration class named `cls` defined by the given
names and values, in order. -/
def members (cls : String) (entries : List (String × String)) : Outcome (List (String × String)) := do
  let d ← entries.foldlM (fun d (n, v) => d.define cls n v) ({} : Draft)
  d.finish

end EnumClass

/-- The enumeration generated for a column with stored values: one entry per
member name (a repeated name keeps its first place and its last value),
made into members as the enumeration classes of the runtime do. -/
def enumTypeOf (c : Column) : Outcome EnumType := do
  let values := c.enumList
  let entries := values.zipIdx.foldl (fun ms (v, i) => addMember ms (enumMemberName v i) v) []
  let name := enumTypeName c
  let members ← EnumClass.members name entries
  pure { name, values, members }

/-- Tags whose descriptions add nothing to their API type. -/
def quietTags : List String := ["text", "boolean", "integer", "float"]

namespace Registry

/-- The built-in type of an enumeration column: a generated enumeration, or
`String` when it has no stored values. -/
def enumResolved (c : Column) : Outcome Resolved :=
  if c.enumList.isEmpty then .ok { type := .string }
  else do
    let e ← enumTypeOf c
    pure { type := .enumeration e, description := some ("Enum: " ++ ", ".intercalate c.enumList) }

/-- The refusal of an array column without an item column. -/
def noItemType (c : Column) : Failure :=
  .schemaBuild ("Array column '" ++ c.label ++ "' has no item type")

/-- Resolves a column to its API type. -/
def resolve (r : Registry) (c : Column) (isInput : Bool) : Outcome Resolved :=
  match find? r.types c.columnType <|> find? r.types c.tag with
  | some t => .ok t
  | none =>
    match c.tag with
    | "integer" => .ok { type := .int }
    | "float" => .ok { type := .float }
    | "bigint" => .ok { type := .string, description := some "BigInt" }
    | "decimal" => .ok { type := .string, description := some "Decimal" }
    | "text" => if c.enumList.isEmpty then .ok { type := .string } else enumResolved c
    | "enum" => enumResolved c
    | "boolean" => .ok { type := .boolean }
    | "timestamp" => .ok { type := .string, description := some "Date" }
    | "date" => .ok { type := .string, description := some "Date" }
    | "time" => .ok { type := .string, description := some "Time" }
    | "uuid" => .ok { type := .string, description := some "UUID" }
    | "binary" => .ok { type := .list .int, description := some "Buffer" }
    | "json" => .ok { type := .string, description := some "JSON" }
    | "vector" => .ok { type := .list .float, description := some "Vector" }
    | "geometry" =>
      if tupleGeometry r.typeRegistry.geometryMode c then .ok { type := .list .float, description := some "Geometry as [x, y]" }
      else .ok { type := if isInput then .pointInput else .point, description := some "Geometry as \x7bx, y\x7d" }
    | "array" =>
      match _h : c.item with
      | none => .error (noItemType c)
      | some item => do
        let inner ← resolve r item isInput
        pure { type := .list inner.type
               description := some (match inner.description with
                 | some d => if d.isEmpty then "Array" else "Array<" ++ d ++ ">"
                 | none => "Array") }
    | _ => .error (.schemaBuild ("No GraphQL type registered for column '" ++ c.label ++
        "' (type '" ++ c.columnType ++ "', tag '" ++ c.tag ++ "')"))
  termination_by sizeOf c
  decreasing_by exact Column.sizeOf_lt_of_item _h

/-- Resolves a column and decides its nullability. -/
def annotate (r : Registry) (c : Column) (isInput forceNullable defaultIsNullable : Bool) :
    Outcome Annotated := do
  let t ← r.resolve c isInput
  let nullable := forceNullable || c.nullable || (defaultIsNullable && c.hasDefault)
  let base := if quietTags.contains c.tag then none else t.description
  let description := match c.description with
    | some d =>
      if d.isEmpty then base
      else match base with
        | some b => if b.isEmpty then some d else some (b ++ ": " ++ d)
        | none => some d
    | none => base
  pure { type := t.type, nullable, description }

end Registry

end TableGraph
