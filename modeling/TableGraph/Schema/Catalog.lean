import TableGraph.Schema.Column
import TableGraph.Failure

/-!
# Catalogs

A catalog is the ordered list of tables an API is generated for. A table
has its columns in declaration order, its relations to other tables, and a
description. A relation is a traversable edge from its source table to its
target table over pairs of join keys (a local column key and a remote one);
a `many` relation gives each source row a list of target rows, a `one`
relation at most one.

Columns are looked up by attribute key or by API field name, relations by
name or by field name.
-/

namespace TableGraph

/-- How many target rows a relation gives each source row. -/
inductive RelationKind where
  | one
  | many
  deriving Repr, BEq, DecidableEq, Inhabited

/-- The name of a relation kind. -/
def RelationKind.name : RelationKind → String
  | .one => "one"
  | .many => "many"

/-- A relation from one table to another. -/
structure Relation where
  name : String
  kind : RelationKind
  source : String
  target : String
  /-- The join keys: a local column key and a remote column key each. -/
  pairs : List (String × String)
  description : Option String := none
  deriving Repr, BEq, Inhabited

namespace Relation

/-- The field name of a relation in the API. -/
def fieldName (r : Relation) : String := Text.snakeToCamel r.name false

/-- Whether a relation gives a list of rows. -/
def isMany (r : Relation) : Bool := r.kind == .many

/-- The local join keys. -/
def localKeys (r : Relation) : List String := r.pairs.map (·.1)

/-- The remote join keys. -/
def remoteKeys (r : Relation) : List String := r.pairs.map (·.2)

end Relation

/-- A table of a catalog. -/
structure Table where
  name : String
  columns : List Column
  relations : List Relation := []
  description : Option String := none
  deriving Repr, Inhabited

namespace Table

/-- The field name of a table's list query. -/
def fieldName (t : Table) : String := Text.snakeToCamel t.name false

/-- The prefix of every type generated for a table. -/
def typeName (t : Table) : String := Text.pascalCase t.name

/-- The column under an attribute key. -/
def column? (t : Table) (key : String) : Option Column :=
  t.columns.find? (·.name == key)

/-- The column under an attribute key, else under a field name (the last
column with that field name). -/
def columnFor? (t : Table) (key : String) : Option Column :=
  match t.column? key with
  | some c => some c
  | none => t.columns.reverse.find? (·.fieldName == key)

/-- The relation under a name, else the first one with that field name. -/
def relationFor? (t : Table) (key : String) : Option Relation :=
  match t.relations.find? (·.name == key) with
  | some r => some r
  | none => t.relations.find? (·.fieldName == key)

/-- The position of a column among the table's columns. -/
def columnIndex (t : Table) (key : String) : Nat :=
  (t.columns.findIdx? (·.name == key)).getD t.columns.length

/-- The primary key columns. -/
def primaryKey (t : Table) : List Column := t.columns.filter (·.primaryKey)

/-- The attribute keys of the columns. -/
def keys (t : Table) : List String := t.columns.map (·.name)

end Table

/-- The tables an API is generated for, in order. -/
structure Catalog where
  tables : List Table
  deriving Repr, Inhabited

namespace Catalog

/-- The table of a name. -/
def table? (c : Catalog) (name : String) : Option Table :=
  c.tables.find? (·.name == name)

/-- The table of a name; an unknown name is refused. -/
def table (c : Catalog) (name : String) : Outcome Table :=
  match c.table? name with
  | some t => .ok t
  | none => .error (.schemaBuild ("Unknown table '" ++ name ++ "'"))

end Catalog

end TableGraph
