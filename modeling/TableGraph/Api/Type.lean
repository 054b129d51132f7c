import TableGraph.Text.Naming

/-!
# Types of the generated API

The types a column can take in the API: the four scalars, lists, the point
object (with an input twin) and the enumerations generated for columns with
stored enumeration values. A list's items are never null; whether the
outermost type admits null is decided separately, by `ApiType.spell`.
-/

namespace TableGraph

/-- An enumeration of the API: its name, its stored values in order, and
its members, each a member name with the stored value it stands for. -/
structure EnumType where
  name : String
  values : List String
  members : List (String × String)
  deriving Repr, BEq, Inhabited

/-- A type of the API. -/
inductive ApiType where
  | int
  | float
  | string
  | boolean
  | list (item : ApiType)
  /-- The point object `GeometryXY`. -/
  | point
  /-- The point input object `GeometryXYInput`. -/
  | pointInput
  | enumeration (e : EnumType)
  /-- A type known by its name only. -/
  | named (name : String)
  deriving Repr, BEq, Inhabited

namespace ApiType

/-- The name of the named type at the bottom of a type. -/
def baseName : ApiType → String
  | .int => "Int"
  | .float => "Float"
  | .string => "String"
  | .boolean => "Boolean"
  | .list t => baseName t
  | .point => "GeometryXY"
  | .pointInput => "GeometryXYInput"
  | .enumeration e => e.name
  | .named n => n

/-- The type as the query language spells it, its items non-null and
the type itself non-null unless `nullable`. -/
def spell (nullable : Bool) : ApiType → String
  | .list t => "[" ++ spell false t ++ "]" ++ (if nullable then "" else "!")
  | t => t.baseName ++ (if nullable then "" else "!")

/-- The enumeration a type is made of, if any. -/
def enumOf? : ApiType → Option EnumType
  | .enumeration e => some e
  | .list t => enumOf? t
  | _ => none

end ApiType

/-- A resolved column type: the API type and its description. -/
structure Resolved where
  type : ApiType
  description : Option String := none
  deriving Repr, BEq, Inhabited

/-- A resolved type with its nullability. -/
structure Annotated where
  type : ApiType
  nullable : Bool
  description : Option String := none
  deriving Repr, BEq, Inhabited

end TableGraph
