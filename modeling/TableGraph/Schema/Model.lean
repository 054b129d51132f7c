import TableGraph.Schema.Catalog
import TableGraph.Schema.SqlType
import TableGraph.Failure
import TableGraph.Value.Coerce

/-!
# Declared models

The declarations a catalog is loaded from: tables with their columns as
storage declares them, and mapped classes, each mapping a table and
declaring relations to other tables.

A declared column has an attribute key and a stored name, a declared type,
nullability, primary-key membership, whether a single integer primary key
draws its values from storage (`autoincrement`), a value the client supplies
when none is given (`default`), a value storage supplies (`serverDefault`,
as stored text), a comment and free-form options.

`Catalog.load` turns declarations into a catalog. Tables come in the order
of their classes (for a whole model set, the order in which its tables were
declared), each table once; every column is classified on the backend, and
relations are resolved to join keys after all tables are known. A relation
through an association table is left out, and a relation to a table that is
not loaded is refused.
-/

namespace TableGraph

/-- Whether a single integer primary key draws new values from storage. -/
inductive Autoincrement where
  | auto
  | always
  | never
  deriving Repr, BEq, DecidableEq, Inhabited

/-- A column as storage declares it. -/
structure ColumnDecl where
  key : String
  name : String
  type : SqlType
  nullable : Bool := true
  primaryKey : Bool := false
  autoincrement : Autoincrement := .auto
  default : Option Value := none
  serverDefault : Option String := none
  comment : Option String := none
  info : List (String × Value) := []
  deriving Repr, Inhabited

/-- A table as storage declares it. -/
structure TableDecl where
  name : String
  columns : List ColumnDecl
  comment : Option String := none
  deriving Repr, Inhabited

/-- A relation a class declares. -/
structure RelationDecl where
  key : String
  /-- The name of the target table. -/
  target : String
  many : Bool
  /-- Pairs of stored column names: one of the source table, one of the target. -/
  pairs : List (String × String)
  /-- Whether the relation goes through an association table. -/
  viaAssociation : Bool := false
  deriving Repr, Inhabited

/-- A mapped class: its name, its table and its relations. -/
structure MappedClass where
  name : String
  table : TableDecl
  relations : List RelationDecl := []
  deriving Repr, Inhabited

/-- A set of models: its tables in declaration order (association tables
included) and its classes. -/
structure ModelSet where
  tables : List TableDecl
  classes : List MappedClass
  deriving Repr, Inhabited

namespace ColumnDecl

/-- Whether storage or the client supplies a value when none is given. -/
def suppliesValue (c : ColumnDecl) (table : TableDecl) : Bool :=
  c.default.isSome || c.serverDefault.isSome ||
    (c.primaryKey && (table.columns.filter (·.primaryKey)).length == 1 &&
      (c.autoincrement == .always ||
        (c.autoincrement == .auto && ["integer", "bigint"].contains (c.type.tag none))))

/-- The column of a declared column, classified on a backend. -/
def describe (c : ColumnDecl) (table : TableDecl) (b : Option Backend) : Outcome Column := do
  let tag := c.type.tag b
  let item ← if tag == "array" then
      match c.type.itemType? with
      | some itemType =>
        let itemTag := itemType.tag b
        pure (some { name := c.key, table := table.name, tag := itemTag
                     columnType := itemType.className, nullable := false
                     enumValues := if itemTag == "enum" then some itemType.enumValues else none
                     options := c.info : Column })
      | none => .error (.schemaBuild ("Array column '" ++ table.name ++ "." ++ c.key ++ "' has no item type"))
    else pure none
  pure { name := c.key, table := table.name, tag, columnType := c.type.className
         nullable := c.nullable, hasDefault := c.suppliesValue table, primaryKey := c.primaryKey
         enumValues := if tag == "enum" then some c.type.enumValues else none
         item, options := c.info, description := c.comment
         storageName := if c.name == c.key then none else some c.name }

end ColumnDecl

/-- The table a declaration describes, with no relations yet: a table with
no columns is refused. -/
def TableDecl.describe (d : TableDecl) (b : Option Backend) : Outcome Table := do
  if d.columns.isEmpty then
    .error (.schemaBuild ("Table '" ++ d.name ++ "' declares no columns"))
  else
    let cols ← d.columns.mapM (·.describe d b)
    pure { name := d.name, columns := cols
           description := d.comment.filter (!·.isEmpty) : Table }

/-- Where a catalog is loaded from. -/
inductive ModelSource where
  /-- A whole model set. -/
  | modelSet (m : ModelSet)
  /-- A list of mapped classes. -/
  | classes (cs : List MappedClass)
  /-- Any other value given in place of models. -/
  | other (v : Value)
  deriving Inhabited

namespace Catalog

/-- The classes of a model set, ordered by the declaration of their tables. -/
def orderedClasses (m : ModelSet) : List MappedClass :=
  let index (c : MappedClass) : Nat := (m.tables.findIdx? (·.name == c.table.name)).getD m.tables.length
  m.classes.mergeSort (fun a b => index a ≤ index b)

/-- Sets a relation of a table: a relation of the same name is replaced in
place, a new one is appended. -/
def setRelation (rs : List Relation) (r : Relation) : List Relation :=
  if rs.any (·.name == r.name) then rs.map fun x => if x.name == r.name then r else x
  else rs ++ [r]

/-- The key of a stored column of a declared table. -/
def keyOf? (t : TableDecl) (stored : String) : Option String :=
  (t.columns.find? (·.name == stored)).map (·.key)

/-- Adds the relations a class declares to the loaded tables. -/
def addRelations (tables : List Table) (decls : List TableDecl) (cls : MappedClass) :
    Outcome (List Table) :=
  cls.relations.foldlM (fun tables rd => do
    if rd.viaAssociation then pure tables
    else
      let source := cls.table.name
      -- join keys are read from the tables loaded under the two names
      let sourceDecl := (decls.find? (·.name == source)).getD cls.table
      match decls.find? (·.name == rd.target) with
      | none => .error (.schemaBuild ("Relation '" ++ source ++ "." ++ rd.key ++
          "' references unknown table '" ++ rd.target ++ "'"))
      | some targetDecl =>
        let pairs := rd.pairs.map fun (l, r) => (keyOf? sourceDecl l, keyOf? targetDecl r)
        let keys ← pairs.mapM fun
          | (some l, some r) => pure (l, r)
          | _ => .error (.schemaBuild ("Relation '" ++ source ++ "." ++ rd.key ++
              "' joins on columns outside its tables"))
        let rel : Relation := { name := rd.key, kind := if rd.many then .many else .one
                                source, target := rd.target, pairs := keys }
        pure (tables.map fun t => if t.name == source then { t with relations := setRelation t.relations rel } else t))
    tables

/-- The table declarations of classes, the first one under each name. -/
def firstDecls (classes : List MappedClass) : List TableDecl :=
  classes.foldl (fun acc c => if acc.any (·.name == c.table.name) then acc else acc ++ [c.table]) []

/-- Loads the tables of a list of classes. -/
def ofClasses (classes : List MappedClass) (b : Option Backend) : Outcome Catalog := do
  let decls := firstDecls classes
  let tables ← decls.mapM (·.describe b)
  let tables ← classes.foldlM (fun ts c => addRelations ts decls c) tables
  if tables.isEmpty then .error (.schemaBuild "No tables found in the provided models")
  else pure { tables }

/-- Loads a catalog. -/
def load (src : ModelSource) (b : Option Backend) : Outcome Catalog :=
  match src with
  | .modelSet m => ofClasses (orderedClasses m) b
  | .classes cs => ofClasses cs b
  | .other v =>
    match v.items with
    | .ok [] => .error (.schemaBuild "No tables found in the provided models")
    | .ok (x :: _) => .error ⟨.notMapped, "No inspection system is available for object of type <class '" ++
        x.classPath ++ "'>"⟩
    | .error _ => .error (.schemaBuild ("Cannot load tables from " ++ v.literal))

end Catalog

end TableGraph
