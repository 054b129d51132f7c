import TableGraph.Registry.Remap
import TableGraph.Schema.Catalog

/-!
# Rows between storage and the API

A row is an ordered mapping from keys to values. Towards the API, a stored
row keeps only the keys that name columns, each value converted for its
column. From the API, an input row names columns by attribute key or field
name; an explicit null for a column that may not be null is left out, so
that the column's default (or, for an update, the value it has) applies.
-/

namespace TableGraph

/-- A row: values under keys, in order. -/
abbrev Row := List (String × Value)

namespace Registry

/-- A stored row towards the API: the values of the given columns (every
column, in table order, when none are given) that the row holds. -/
def rowToWire (r : Registry) (t : Table) (row : Row) (columns : Option (List String)) : Outcome Row :=
  (columns.getD t.keys).foldlM (fun out name =>
    match t.column? name, Value.lookup? row name with
    | some c, some v => do pure (Value.setKey out name (← r.toWire v c))
    | _, _ => pure out) []

/-- An input row from the API towards storage, keyed by attribute key. -/
def inputRow (r : Registry) (t : Table) (row : Row) : Outcome Row :=
  row.foldlM (fun out (key, v) =>
    match t.columnFor? key with
    | none => .error (.validation ("Unknown column: " ++ key))
    | some c =>
      match v with
      | .none => if c.nullable then pure (Value.setKey out c.name .none) else pure out
      | _ => do pure (Value.setKey out c.name (← r.fromWire v c))) []

end Registry

end TableGraph
