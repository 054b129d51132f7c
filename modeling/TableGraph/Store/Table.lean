import TableGraph.Store.Codec
import TableGraph.Query.Predicate
import TableGraph.Query.Order

/-!
# Stored tables

A stored table keeps its rows in row-id order. When the table's primary key
is a single column declared `INTEGER`, that column *is* the row id: a row
stored without it gets one more than the largest row id, and two rows can
never share it. Every other table numbers its rows the same way behind the
scenes and checks its primary key columns together.

A statement either changes a table as a whole or fails and leaves it as it
was. Its checks, row by row in statement order, are:

* a column that may not be null holds a value
  (`NOT NULL constraint failed: table.column`);
* the row id, or the primary key, is not taken
  (`UNIQUE constraint failed: table.columns`).

Predicates are evaluated in three-valued logic: a comparison with null is
unknown, a conjunction is false when a part is false and unknown when a part
is unknown, and a row is selected only when its predicate is true. Rows are
sorted stably, nulls first in ascending order, so ties keep row-id order.
-/

namespace TableGraph.Store

/-- A stored row: its row id and its cells, one per column of its table. -/
structure StoredRow where
  rowid : Int
  cells : List Cell
  deriving Repr, Inhabited

/-- The cell of a row at a column position; null past the end. -/
def StoredRow.cell (r : StoredRow) (i : Nat) : Cell := r.cells.getD i .null

/-- A three-valued truth: a truth value, or none for unknown. -/
abbrev Truth := Option Bool

namespace Truth

/-- Three-valued conjunction. -/
def conj : Truth → Truth → Truth
  | some false, _ => some false
  | _, some false => some false
  | some true, t => t
  | none, _ => none

/-- Three-valued disjunction. -/
def disj : Truth → Truth → Truth
  | some true, _ => some true
  | _, some true => some true
  | some false, t => t
  | none, _ => none

end Truth

/-- Whether an ordering satisfies a comparison operator. -/
def comparisonHolds : Comparison → Ordering → Bool
  | .eq, o => o == .eq
  | .ne, o => o != .eq
  | .lt, o => o == .lt
  | .le, o => o != .gt
  | .gt, o => o == .gt
  | .ge, o => o != .lt

/-- A predicate ready to test rows: columns as positions, operands as
cells. -/
inductive Condition where
  | truth (b : Bool)
  | compare (column : Nat) (op : Comparison) (operand : Cell)
  | like (column : Nat) (pattern : Cell) (caseless negated : Bool)
  | oneOf (column : Nat) (values : List Cell) (negated : Bool)
  | isNull (column : Nat) (negated : Bool)
  /-- The columns, as a tuple, equal one of the keys. -/
  | keyIn (columns : List Nat) (keys : List (List Cell))
  | all (parts : List Condition)
  | any (parts : List Condition)
  | not (c : Condition)
  deriving Repr, Inhabited

/-- Whether a cell equals an operand: unknown when either is null. -/
def cellEquals (x y : Cell) : Truth :=
  if x.isNull || y.isNull then none else some (Cell.order x y == .eq)

/-- Whether the cells of a row at some positions equal a key, position by
position. -/
def keyEquals (row : StoredRow) : List Nat → List Cell → Truth
  | i :: is, k :: ks => Truth.conj (cellEquals (row.cell i) k) (keyEquals row is ks)
  | _, _ => some true

mutual

/-- The truth of a condition for a row. -/
def Condition.eval (row : StoredRow) : Condition → Truth
  | .truth b => some b
  | .compare i op c =>
    let x := row.cell i
    if x.isNull || c.isNull then none else some (comparisonHolds op (Cell.order x c))
  | .like i p caseless negated =>
    match (row.cell i).text?, p.text? with
    | some s, some pat =>
      let (s, pat) := if caseless then (Text.asciiLower s, Text.asciiLower pat) else (s, pat)
      some (likeMatch pat.toList s.toList != negated)
    | _, _ => none
  | .oneOf i vs negated =>
    let x := row.cell i
    if vs.isEmpty then some negated
    else if x.isNull then none
    else if vs.any (fun v => cellEquals x v == some true) then some !negated
    else if vs.any Cell.isNull then none
    else some negated
  | .isNull i negated => some ((row.cell i).isNull != negated)
  | .keyIn cols keys => keys.foldl (fun acc k => Truth.disj acc (keyEquals row cols k)) (some false)
  | .all ps => Condition.evalAll row ps
  | .any ps => Condition.evalAny row ps
  | .not c => (c.eval row).map (!·)

/-- The conjunction of conditions for a row. -/
def Condition.evalAll (row : StoredRow) : List Condition → Truth
  | [] => some true
  | c :: cs => Truth.conj (c.eval row) (Condition.evalAll row cs)

/-- The disjunction of conditions for a row. -/
def Condition.evalAny (row : StoredRow) : List Condition → Truth
  | [] => some false
  | c :: cs => Truth.disj (c.eval row) (Condition.evalAny row cs)

end

/-- Whether a condition selects a row. -/
def Condition.selects (c : Condition) (row : StoredRow) : Bool := c.eval row == some true

/-- Compares two rows by sort keys: column positions with directions. -/
def compareRows (keys : List (Nat × Direction)) (a b : StoredRow) : Ordering :=
  match keys with
  | [] => .eq
  | (i, dir) :: rest =>
    let o := Cell.order (a.cell i) (b.cell i)
    let o := if dir == .desc then o.swap else o
    if o == .eq then compareRows rest a b else o

/-- A stored table: its declaration and its rows in row-id order. -/
structure StoredTable where
  decl : TableDecl
  rows : List StoredRow := []
  deriving Inhabited

/-- Inserts a row into a list of rows in row-id order. -/
def insertByRowid (r : StoredRow) : List StoredRow → List StoredRow
  | [] => [r]
  | x :: xs => if r.rowid < x.rowid then r :: x :: xs else x :: insertByRowid r xs

/-- A fault of a violated constraint. -/
def constraintFault (message : String) : Failure := ⟨.integrity, message⟩

namespace StoredTable

/-- The position of a stored column, by its stored name. -/
def position? (t : StoredTable) (name : String) : Option Nat :=
  t.decl.columns.findIdx? (·.name == name)

/-- The position of a column, by its attribute key. -/
def keyPosition? (t : StoredTable) (key : String) : Option Nat :=
  t.decl.columns.findIdx? (·.key == key)

/-- The declaration of the column at a position. -/
def columnAt (t : StoredTable) (i : Nat) : ColumnDecl := t.decl.columns.getD i default

/-- The position of the column that is the row id: the lone primary key
column, when it is declared `INTEGER`. -/
def rowidColumn? (t : StoredTable) : Option Nat :=
  match (t.decl.columns.zipIdx.filter (·.1.primaryKey)) with
  | [(c, i)] => if isIntegerType c.type then some i else none
  | _ => none

/-- The positions of the primary key columns. -/
def keyPositions (t : StoredTable) : List Nat :=
  (t.decl.columns.zipIdx.filter (·.1.primaryKey)).map (·.2)

/-- The row id a new row gets: one more than the largest. -/
def nextRowid (t : StoredTable) : Int := t.rows.foldl (fun m r => max m r.rowid) 0 + 1

/-- The label of columns in constraint messages. -/
def columnsLabel (t : StoredTable) (positions : List Nat) : String :=
  ", ".intercalate (positions.map fun i => t.decl.name ++ "." ++ (t.columnAt i).name)

/-- Checks a row's cells against the constraints, given the other rows of
the table and the row id to use when the cells leave it open. -/
def checkRow (t : StoredTable) (others : List StoredRow) (cells : List Cell) (fallback : Int)
    (nullRowidFails : Bool) : Outcome StoredRow := do
  let (rowid, cells) ← match t.rowidColumn? with
    | some i =>
      match cells.getD i .null with
      | .null =>
        if nullRowidFails then .error (constraintFault "datatype mismatch")
        else pure (fallback, cells.set i (.integer fallback))
      | .integer n => pure (n, cells)
      | _ => .error (constraintFault "datatype mismatch")
    | none => pure (fallback, cells)
  for (c, i) in t.decl.columns.zipIdx do
    if (cells.getD i .null).isNull && !c.nullable && t.rowidColumn? != some i then
      .error (constraintFault ("NOT NULL constraint failed: " ++ t.decl.name ++ "." ++ c.name))
  match t.rowidColumn? with
  | some i =>
    if others.any (·.rowid == rowid) then .error (constraintFault ("UNIQUE constraint failed: " ++ t.columnsLabel [i]))
  | none =>
    let key := t.keyPositions
    let row : StoredRow := ⟨rowid, cells⟩
    if !key.isEmpty && others.any (fun o => keyEquals o key (key.map row.cell) == some true) then
      .error (constraintFault ("UNIQUE constraint failed: " ++ t.columnsLabel key))
  pure ⟨rowid, cells⟩

/-- Inserts rows in one statement: all of them, or none when one fails. The
inserted rows are returned in order. -/
def insertRows (t : StoredTable) (rows : List (List Cell)) : Outcome (StoredTable × List StoredRow) :=
  rows.foldlM (fun (acc : StoredTable × List StoredRow) cells => do
    let (t, done) := acc
    let r ← t.checkRow t.rows cells t.nextRowid false
    pure ({ t with rows := insertByRowid r t.rows }, done ++ [r])) (t, [])

/-- Updates the rows a condition selects, in row-id order, assigning cells
to column positions; all of them, or none when one fails. The updated rows
are returned in order. -/
def updateRows (t : StoredTable) (assign : List (Nat × Cell)) (cond : Condition) :
    Outcome (StoredTable × List StoredRow) :=
  let targets := t.rows.filter cond.selects
  targets.foldlM (fun (acc : StoredTable × List StoredRow) old => do
    let (t, done) := acc
    let cells := assign.foldl (fun cs (i, c) => cs.set i c) old.cells
    let others := t.rows.filter (·.rowid != old.rowid)
    let r ← t.checkRow others cells old.rowid true
    pure ({ t with rows := insertByRowid r others }, done ++ [r])) (t, [])

/-- Deletes the rows a condition selects; returns them in row-id order. -/
def deleteRows (t : StoredTable) (cond : Condition) : StoredTable × List StoredRow :=
  let (gone, kept) := t.rows.partition cond.selects
  ({ t with rows := kept }, gone)

/-- The rows a condition selects, sorted by keys, after skipping `offset`
rows and keeping at most `limit`. -/
def selectRows (t : StoredTable) (cond : Condition) (keys : List (Nat × Direction)) (offset : Nat)
    (limit : Option Nat) : List StoredRow :=
  let matching := t.rows.filter cond.selects
  let sorted := if keys.isEmpty then matching else matching.mergeSort fun a b => compareRows keys a b != .gt
  let rest := sorted.drop offset
  match limit with
  | some l => rest.take l
  | none => rest

end StoredTable

/-- The tables of a database. -/
structure Database where
  tables : List StoredTable := []
  deriving Inhabited

namespace Database

/-- The table of a name. -/
def table? (db : Database) (name : String) : Option StoredTable :=
  db.tables.find? (·.decl.name == name)

/-- Replaces the table of the same name. -/
def put (db : Database) (t : StoredTable) : Database :=
  { tables := db.tables.map fun u => if u.decl.name == t.decl.name then t else u }

/-- An empty database with tables for the declarations given. -/
def empty (decls : List TableDecl) : Database :=
  { tables := decls.map fun d => { decl := d } }

end Database

end TableGraph.Store
