import TableGraph.Store.Bind
import TableGraph.Query.Spec
import TableGraph.Registry.Rows

/-!
# Reading and writing through specs

`findMany` runs a `LoadSpec` against a database: the rows of its table that
satisfy its predicate, in its order and page, read under the attribute keys
it needs. Relations are then followed one level at a time, one read per
relation for all parent rows at once: the child rows whose remote key is one
of the parents' local keys (parents with a null in their key have none) and
that satisfy the child's own predicate. Children are matched back to their
parents by key and keep the order of the child read. A paged relation is
paged per parent: with window functions, by numbering each parent's
children in the child order (the primary key when none is given); without,
by counting each parent's children in the order read.

`insertRows`, `updateRows` and `deleteRows` are the statements of
mutations; each returns the rows it touched, read back under every column,
or fails as a whole. Inserted rows that all name the same columns go in one
statement, others one statement a row.
-/

namespace TableGraph.Store

/-- A row read for a query: its values by attribute key and the rows of
its relations by response key (at most one for a relation to one row). -/
structure LoadedRow where
  values : Row
  related : List (String × List LoadedRow) := []
  deriving Inhabited

/-- Whether two values are equal as keys: numbers by value. -/
def keyValueEq (a b : Value) : Bool :=
  match a, b with
  | .int m, .float x => Number.floatOfInt m == x
  | .float x, .int m => Number.floatOfInt m == x
  | .bool p, .int m => (if p then 1 else 0) == m
  | .int m, .bool p => (if p then 1 else 0) == m
  | _, _ => a == b

/-- Whether two keys are equal, part by part. -/
def keyEq (a b : List Value) : Bool :=
  a.length == b.length && (a.zip b).all fun (x, y) => keyValueEq x y

/-- The values of a row under some keys. -/
def keyOf (values : Row) (keys : List String) : List Value :=
  keys.map fun k => (Value.lookup? values k).getD .none

/-- Appends names not yet present. -/
def appendNew (names more : List String) : List String :=
  more.foldl (fun ns k => if ns.contains k then ns else ns ++ [k]) names

/-- The attribute keys a read of a spec needs: its columns, the local keys
of its relations, the extra keys given, else the table's first column. -/
def specKeys (s : LoadSpec) (extra : List String) : List String :=
  let names := s.relations.foldl (fun ns (_, r, _) => appendNew ns r.localKeys) s.columns
  let names := appendNew names extra
  if names.isEmpty then (s.table.columns.head?.map (·.name)).toList else names

namespace StoredTable

/-- The values of a stored row under attribute keys. -/
def readValues (t : StoredTable) (keys : List String) (row : StoredRow) : Outcome Row :=
  keys.mapM fun k =>
    match t.keyPosition? k with
    | some i => do
      let v ← (t.columnAt i).readCell (row.cell i)
      pure (k, v)
    | none => .ok (k, .none)

/-- The sort keys of order clauses. -/
def sortKeys (t : StoredTable) (order : List OrderClause) : List (Nat × Direction) :=
  order.filterMap fun c => (t.position? c.column.sqlName).map (·, c.direction)

/-- The sort keys of the primary key, ascending. -/
def keyOrder (t : StoredTable) : List (Nat × Direction) := t.keyPositions.map (·, .asc)

end StoredTable

namespace Database

/-- The stored table of a table. -/
def tableOf (db : Database) (t : Table) : Outcome StoredTable :=
  match db.table? t.name with
  | some st => .ok st
  | none => .error ⟨.operational, "no such table: " ++ t.name⟩

end Database

/-- Groups rows by the cells at some positions, groups in order of first
appearance and rows in order within each. -/
def partitionRows (positions : List Nat) (rows : List StoredRow) : List (List StoredRow) :=
  let sameKey (a b : StoredRow) : Bool :=
    positions.all fun i => Cell.order (a.cell i) (b.cell i) == .eq
  let groups := rows.foldl (fun (gs : List (StoredRow × List StoredRow)) r =>
    if gs.any (fun g => sameKey g.1 r) then gs.map fun g => if sameKey g.1 r then (g.1, g.2 ++ [r]) else g
    else gs ++ [(r, [r])]) []
  groups.map (·.2)

/-- The rows of a page: skips `offset` rows and keeps at most `limit`. -/
def page {α : Type} (offset : Nat) (limit : Option Nat) (rows : List α) : List α :=
  match limit with
  | some l => (rows.drop offset).take l
  | none => rows.drop offset

/-- Reads the children of parents along a relation, under a child spec. -/
def fetchChildren (db : Database) (windows : Bool) (r : Relation) (child : LoadSpec)
    (parentKeys : List (List Value)) : Outcome (List LoadedRow) := do
  let t ← db.tableOf child.table
  let readKeys := specKeys child r.remoteKeys
  let (keyCond, pos) ← (t.bindKeys r.remoteKeys parentKeys).run 0
  let (filterCond, _) ← (t.bindPredicate child.predicate).run pos
  let cond : Condition := .all [keyCond, filterCond]
  let order := t.sortKeys child.order
  let paged := r.isMany && (child.limit.isSome || child.offset.isSome)
  let offset := child.offset.getD 0
  let remote := r.remoteKeys.filterMap t.keyPosition?
  let rows :=
    if !paged then t.selectRows cond order 0 none
    else if !windows then
      (partitionRows remote (t.selectRows cond order 0 none)).flatMap (page offset child.limit)
    else
      let windowOrder := if order.isEmpty then t.keyOrder else order
      (partitionRows remote (t.selectRows cond [] 0 none)).flatMap fun part =>
        page offset child.limit (part.mergeSort fun a b => compareRows windowOrder a b != .gt)
  rows.mapM fun row => do
    let values ← t.readValues readKeys row
    pure { values }

/-- Follows the relations of a spec from rows read under it; `fuel` bounds
the nesting of relations. -/
def loadRelations (db : Database) (windows : Bool) : Nat → LoadSpec → List LoadedRow → Outcome (List LoadedRow)
  | 0, _, rows => .ok rows
  | fuel + 1, s, rows =>
    s.relations.foldlM (fun rows (key, r, child) => do
      let parentKeys := rows.foldl (fun (ks : List (List Value)) p =>
        let k := keyOf p.values r.localKeys
        if k.any (· == .none) || ks.any (keyEq k) then ks else ks ++ [k]) []
      let children ← if parentKeys.isEmpty then pure [] else do
        let cs ← fetchChildren db windows r child parentKeys
        loadRelations db windows fuel child cs
      pure (rows.map fun p =>
        let k := keyOf p.values r.localKeys
        let matched := children.filter fun c => keyEq (keyOf c.values r.remoteKeys) k
        let matched := if r.isMany then matched else matched.take 1
        { p with related := p.related ++ [(key, matched)] })) rows

/-- The nesting of relations that reads follow. -/
def relationFuel : Nat := 1000

/-- Reads the rows a spec selects, with their relations. -/
def findMany (db : Database) (windows : Bool) (s : LoadSpec) : Outcome (List LoadedRow) := do
  let t ← db.tableOf s.table
  let (cond, _) ← (t.bindPredicate s.predicate).run 0
  let rows := t.selectRows cond (t.sortKeys s.order) (s.offset.getD 0) s.limit
  let keys := specKeys s []
  let loaded ← rows.mapM fun row => do
    let values ← t.readValues keys row
    pure ({ values } : LoadedRow)
  loadRelations db windows relationFuel s loaded

namespace StoredTable

/-- The cells of a row to insert: the values given, then the defaults of
the columns left out, then the defaults storage supplies, else null. -/
def insertCells (t : StoredTable) (values : Row) : Outcome (List Cell) := do
  let (cells, _) ← t.decl.columns.foldlM (fun (acc : List Cell × Nat) c => do
    let (cells, pos) := acc
    match Value.lookup? values c.key, c.default, c.serverDefault with
    | some v, _, _ => do
      let cell ← c.storeValue (pos + 1) v
      pure (cells ++ [cell], pos + 1)
    | none, some d, _ => do
      let cell ← c.storeValue (pos + 1) d
      pure (cells ++ [cell], pos + 1)
    | none, none, some s => pure (cells ++ [c.affinity.store (.text s)], pos)
    | none, none, none => pure (cells ++ [.null], pos)) ([], 0)
  pure cells

end StoredTable

/-- Whether rows all name the same columns (and name some). -/
def sameColumns (rows : List Row) : Bool :=
  match rows with
  | [] => false
  | first :: rest =>
    let keys (r : Row) := (r.map (·.1)).mergeSort (fun a b => decide (a ≤ b))
    !first.isEmpty && rest.all fun r => keys r == keys first

/-- Reads back the rows a statement touched, when it returns them. -/
def returnedRows (st : StoredTable) (t : Table) (returning : Bool) (rows : List StoredRow) : Outcome (List Row) :=
  if returning then rows.mapM (st.readValues t.keys) else .ok []

/-- Runs one insert statement and reads back the rows it inserted. -/
def insertStatement (returning : Bool) (db : Database) (t : Table) (rows : List Row) :
    Outcome (Database × List Row) := do
  let st ← db.tableOf t
  let cells ← rows.mapM st.insertCells
  let (st, inserted) ← st.insertRows cells
  let returned ← returnedRows st t returning inserted
  pure (db.put st, returned)

/-- Inserts rows: one statement when they all name the same columns, else
one a row. Statements that ran before a failing one keep their rows. -/
def insertRows (returning : Bool) (t : Table) (rows : List Row) (db : Database) : Outcome (List Row) × Database :=
  let batches := if sameColumns rows then [rows] else rows.map fun r => [r]
  batches.foldl (fun (acc : Outcome (List Row) × Database) batch =>
    match acc with
    | (.error e, db) => (.error e, db)
    | (.ok out, db) =>
      match insertStatement returning db t batch with
      | .ok (db, returned) => (.ok (out ++ returned), db)
      | .error e => (.error e, db)) (.ok [], db)

/-- Updates the rows a predicate selects with values by attribute key, and
reads them back. -/
def updateRows (returning : Bool) (t : Table) (values : Row) (p : Predicate) (db : Database) :
    Outcome (List Row) × Database :=
  let run : Outcome (Database × List Row) := do
    let st ← db.tableOf t
    let given := st.decl.columns.zipIdx.filterMap fun (c, i) => (Value.lookup? values c.key).map (c, i, ·)
    let (assign, pos) ← given.foldlM (fun (acc : List (Nat × Cell) × Nat) (c, i, v) => do
      let cell ← c.storeValue (acc.2 + 1) v
      pure (acc.1 ++ [(i, cell)], acc.2 + 1)) ([], 0)
    let (cond, _) ← (st.bindPredicate p).run pos
    let (st, updated) ← st.updateRows assign cond
    let returned ← returnedRows st t returning updated
    pure (db.put st, returned)
  match run with
  | .ok (db', rows) => (.ok rows, db')
  | .error e => (.error e, db)

/-- Deletes the rows a predicate selects and returns them. -/
def deleteRows (returning : Bool) (t : Table) (p : Predicate) (db : Database) : Outcome (List Row) × Database :=
  let run : Outcome (Database × List Row) := do
    let st ← db.tableOf t
    let (cond, _) ← (st.bindPredicate p).run 0
    let (st', gone) := st.deleteRows cond
    let returned ← returnedRows st t returning gone
    pure (db.put st', returned)
  match run with
  | .ok (db', rows) => (.ok rows, db')
  | .error e => (.error e, db)

end TableGraph.Store
