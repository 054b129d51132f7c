import TableGraph.GraphQL.Sdl
import TableGraph.Value.Basic

/-!
# Executable documents

The syntax tree of a GraphQL request document: operations and fragments,
their selections, the arguments and directives those carry, and the values
written in them. Values keep their numbers as written, since a number is only
read once the type it is given to is known.

`Literal.print` writes a value back in the query language, the form error
messages quote: strings in double quotes with control characters escaped,
lists as `[a, b]`, objects as `{ a: 1 }`.
-/

namespace TableGraph.GraphQL

/-- A value written in a document. -/
inductive Literal where
  | variable (name : String)
  | int (text : String)
  | float (text : String)
  | string (value : String) (block : Bool)
  | boolean (b : Bool)
  | null
  | enum (name : String)
  | list (items : List Literal)
  | object (fields : List (String × Literal))
  deriving Repr, BEq, Inhabited

/-- A directive applied to a part of a document. -/
structure DirectiveUse where
  name : String
  arguments : List (String × Literal)
  deriving Repr, BEq, Inhabited

/-- A selection: a field, a fragment spread, or an inline fragment. -/
inductive Selection where
  | field (aliasName : Option String) (name : String) (arguments : List (String × Literal))
      (directives : List DirectiveUse) (selections : Option (List Selection))
  | spread (name : String) (directives : List DirectiveUse)
  | inline (typeCondition : Option String) (directives : List DirectiveUse) (selections : List Selection)
  deriving Repr, BEq, Inhabited

/-- The kinds of operations. -/
inductive OperationKind where
  | query
  | mutation
  | subscription
  deriving Repr, BEq, DecidableEq, Inhabited

/-- The keyword of an operation kind. -/
def OperationKind.keyword : OperationKind → String
  | .query => "query"
  | .mutation => "mutation"
  | .subscription => "subscription"

/-- A variable an operation declares. -/
structure VariableDefinition where
  name : String
  type : TypeRef
  defaultValue : Option Literal
  directives : List DirectiveUse
  deriving Repr, BEq, Inhabited

/-- An operation. -/
structure Operation where
  kind : OperationKind
  name : Option String
  variableDefinitions : List VariableDefinition
  directives : List DirectiveUse
  selections : List Selection
  deriving Repr, BEq, Inhabited

/-- A named fragment. -/
structure Fragment where
  name : String
  typeCondition : String
  directives : List DirectiveUse
  selections : List Selection
  deriving Repr, BEq, Inhabited

/-- A definition of a document: an operation, a fragment, or a definition
of the type system language, kept only by the name it defines (none for a
schema definition or extension). -/
inductive Definition where
  | operation (o : Operation)
  | fragment (f : Fragment)
  | typeSystem (name : Option String)
  deriving Repr, BEq, Inhabited

/-- A request document. -/
structure Document where
  definitions : List Definition
  deriving Repr, BEq, Inhabited

namespace Document

/-- The operations of a document, in order. -/
def operations (d : Document) : List Operation :=
  d.definitions.filterMap fun
    | .operation o => some o
    | _ => none

/-- The fragments of a document, in order. -/
def fragments (d : Document) : List Fragment :=
  d.definitions.filterMap fun
    | .fragment f => some f
    | _ => none

/-- The first fragment of a name. -/
def fragment? (d : Document) (name : String) : Option Fragment :=
  d.fragments.find? (·.name == name)

end Document

namespace Selection

/-- The response key of a field: its alias, else its name. -/
def responseKey (aliasName : Option String) (name : String) : String := aliasName.getD name

/-- The directives of a selection. -/
def directives : Selection → List DirectiveUse
  | .field _ _ _ ds _ => ds
  | .spread _ ds => ds
  | .inline _ ds _ => ds

end Selection

namespace Literal

mutual

/-- A value as the query language writes it. -/
def print : Literal → String
  | .variable n => "$" ++ n
  | .int t => t
  | .float t => t
  | .string v block => if block then Sdl.blockString v else printString v
  | .boolean b => if b then "true" else "false"
  | .null => "null"
  | .enum n => n
  | .list items => "[" ++ ", ".intercalate (printItems items) ++ "]"
  | .object fields =>
    if fields.isEmpty then "\x7b\x7d" else "\x7b " ++ ", ".intercalate (printFields fields) ++ " \x7d"

/-- The items of a list. -/
def printItems : List Literal → List String
  | [] => []
  | v :: rest => v.print :: printItems rest

/-- The fields of an object. -/
def printFields : List (String × Literal) → List String
  | [] => []
  | (k, v) :: rest => (k ++ ": " ++ v.print) :: printFields rest

end

end Literal

end TableGraph.GraphQL
