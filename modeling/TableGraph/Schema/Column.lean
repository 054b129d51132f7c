import TableGraph.Value.Basic
import TableGraph.Text.Naming

/-!
# Columns

A column as the generated API sees it: its key within its table, the tag of
its type (the key that type resolution and value conversion go by) and the
name of its declared type class, its nullability, whether storage supplies a
value when none is given, its stored enumeration values, the column that
describes its items when it holds arrays, free-form options, and a
description.
-/

namespace TableGraph

/-- A column of a table. -/
structure Column where
  /-- The attribute key, in `snake_case`. -/
  name : String
  /-- The name of the table. -/
  table : String
  /-- The type tag. -/
  tag : String
  /-- The name of the declared type class. -/
  columnType : String
  nullable : Bool := true
  hasDefault : Bool := false
  primaryKey : Bool := false
  enumValues : Option (List String) := none
  /-- The column describing array items. -/
  item : Option Column := none
  options : List (String × Value) := []
  description : Option String := none
  /-- The name of the stored column, when it differs from the key. -/
  storageName : Option String := none
  deriving Repr, Inhabited

namespace Column

/-- The field name of a column in the API. -/
def fieldName (c : Column) : String := Text.snakeToCamel c.name false

/-- The name of the stored column. -/
def sqlName (c : Column) : String := c.storageName.getD c.name

/-- The label of a column in messages: `table.name`. -/
def label (c : Column) : String := c.table ++ "." ++ c.name

/-- A column that an insert must supply: not nullable and without default. -/
def requiredOnInsert (c : Column) : Bool := !c.nullable && !c.hasDefault

/-- The stored enumeration values, none and empty alike as empty. -/
def enumList (c : Column) : List String := c.enumValues.getD []

/-- The column that describes the items of an array column: its item column,
or the column itself when it names none. -/
def itemColumn (c : Column) : Column := c.item.getD c

/-- An item column is smaller than its array column, which lets definitions
recurse from a column into its items. -/
theorem sizeOf_lt_of_item {c i : Column} (h : c.item = some i) : sizeOf i < sizeOf c := by
  cases c
  simp only at h
  subst h
  simp
  omega

/-- An option of a column. -/
def option? (c : Column) (key : String) : Option Value := Value.lookup? c.options key

end Column

end TableGraph
