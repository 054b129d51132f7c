import TableGraph.Schema.Catalog
import TableGraph.Value.Literal

/-!
# The graph of output types

Every output object type of the API is a table seen at a relation depth.
With a depth limit `N` each table has one node per level `0 … N`; a node
below level `N` has an edge for each relation of its table, to the target
table's node one level deeper, and a level-`N` node has none, so every chain
of relation fields has at most `N` hops. Without a limit each table has a
single node and the edges point back into the same nodes, so the graph of
types is finite even where relations form cycles.

Nodes are listed table by table in catalog order, each table's levels in
ascending order.
-/

namespace TableGraph

/-- The relation graph of a catalog under an optional depth limit. -/
structure RelationGraph where
  catalog : Catalog
  depthLimit : Option Nat
  deriving Inhabited

/-- A node: a table at a level (no level when depth is unlimited). -/
structure GraphNode where
  table : Table
  level : Option Nat
  deriving Inhabited

namespace GraphNode

/-- The name of a node's output type: the table's type name, then
`SelectItem`, then `Depth` and the level for levels above zero. -/
def name (n : GraphNode) : String :=
  match n.level with
  | some (k + 1) => n.table.typeName ++ "SelectItemDepth" ++ toString (k + 1)
  | _ => n.table.typeName ++ "SelectItem"

end GraphNode

/-- A depth limit given as a value: null, or a nonnegative integer. -/
def RelationGraph.depthLimitOf (v : Value) : Outcome (Option Nat) :=
  match v with
  | .none => .ok none
  | .int n => if n < 0 then .error (refuse v) else .ok (some n.toNat)
  | _ => .error (refuse v)
where
  /-- The refusal of a depth limit. -/
  refuse (v : Value) : Failure :=
    .schemaBuild ("relations_depth_limit must be a nonnegative integer or None, got " ++ v.literal)

namespace RelationGraph

/-- The largest count of levels a list may be given: the bound of the
platform's signed sizes. -/
def sizeLimit : Nat := 9223372036854775807

/-- The graph of a catalog under a depth limit. The levels are laid out once
there is a table to lay them out for, and a count of levels past
`sizeLimit` is an overflow. Memory is taken to hold every count below it. -/
def make (catalog : Catalog) (depthLimit : Option Nat) : Outcome RelationGraph :=
  let g : RelationGraph := { catalog, depthLimit }
  match depthLimit with
  | some n =>
    if catalog.tables.isEmpty then .ok g
    else if n + 1 > sizeLimit then .error ⟨.overflow, "Python int too large to convert to C ssize_t"⟩
    else .ok g
  | none => .ok g

/-- The levels every table has nodes at. -/
def levels (g : RelationGraph) : List (Option Nat) :=
  match g.depthLimit with
  | some n => (List.range (n + 1)).map some
  | none => [none]

/-- The nodes, table by table, each table's levels in ascending order. -/
def nodes (g : RelationGraph) : List GraphNode :=
  g.catalog.tables.flatMap fun t => g.levels.map fun l => ⟨t, l⟩

/-- The node a query of a table starts at. -/
def root (g : RelationGraph) (t : Table) : GraphNode :=
  ⟨t, g.depthLimit.map fun _ => 0⟩

/-- The edges of a node: each relation of its table with the node of the
target table one level deeper; none at the depth limit. -/
def edges (g : RelationGraph) (n : GraphNode) : List (Relation × GraphNode) :=
  let next : Option (Option Nat) := match n.level, g.depthLimit with
    | some l, some limit => if l < limit then some (some (l + 1)) else none
    | _, _ => some none
  match next with
  | none => []
  | some level => n.table.relations.filterMap fun r =>
    (g.catalog.table? r.target).map fun t => (r, ⟨t, level⟩)

end RelationGraph

end TableGraph
