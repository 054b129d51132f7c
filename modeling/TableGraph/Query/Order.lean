import TableGraph.Schema.Catalog
import TableGraph.Value.Coerce
import TableGraph.Number.Parse

/-!
# Sort orders

An `orderBy` argument maps columns (by attribute key or field name) to an
entry with a direction and an optional priority. It compiles to a list of
sort clauses: by ascending priority, clauses without a priority last, and
ties in the order the table declares its columns. A null entry is skipped.

A direction is `asc` or `desc` in any case (an enumeration member stands for
its value); a priority is an integer, or text that reads as one.
-/

namespace TableGraph

/-- The direction of a sort clause. -/
inductive Direction where
  | asc
  | desc
  deriving Repr, BEq, DecidableEq, Inhabited

/-- The name of a direction. -/
def Direction.name : Direction → String
  | .asc => "asc"
  | .desc => "desc"

/-- One sort clause: a column, a direction and an optional priority. -/
structure OrderClause where
  column : Column
  direction : Direction
  priority : Option Int := none
  deriving Repr, Inhabited

/-- The direction a word names. -/
def Direction.ofName? (w : String) : Option Direction :=
  if w = "asc" then some .asc else if w = "desc" then some .desc else none

namespace OrderClause

/-- The value an entry member stands for: an enumeration member stands for
its value. -/
def memberValue : Value → Value
  | .member _ v => v
  | v => v

/-- The word a direction is read as: its text in lower case, and the empty
word for null. -/
def directionWord (raw : Value) : String :=
  match raw with
  | .none => ""
  | v => Text.lower v.text

/-- The direction an entry gives. -/
def directionOf (raw : Value) : Outcome Direction :=
  let raw := memberValue raw
  match Direction.ofName? (directionWord raw) with
  | some d => .ok d
  | none => .error (.validation ("Invalid direction '" ++ raw.text ++ "'. Must be 'asc' or 'desc'"))

/-- The priority an entry gives for a column. -/
def priorityOf (key : String) (raw : Value) : Outcome (Option Int) :=
  let refuse : Outcome (Option Int) :=
    .error (.validation ("Invalid priority for column '" ++ key ++ "': " ++ raw.literal))
  match raw with
  | .none => .ok none
  | .int n => .ok (some n)
  | .str s => match Number.readInt? (Text.strip s) with
    | some n => .ok (some n)
    | none => refuse
  | _ => refuse

/-- A member of an entry; an entry that is not an object has none. -/
def entryField (entry : Value) (key : String) : Value :=
  match entry with
  | .dict es => (Value.lookup? es key).getD .none
  | _ => .none

/-- Whether a clause sorts no later than another: by priority (none last),
then by the position of the column in its table. -/
def precedes (t : Table) (a b : OrderClause) : Bool :=
  let key (c : OrderClause) : Bool × Int × Nat :=
    (c.priority.isNone, c.priority.getD 0, t.columnIndex c.column.name)
  let (a1, a2, a3) := key a
  let (b1, b2, b3) := key b
  (!a1 && b1) || (a1 == b1 && (a2 < b2 || (a2 == b2 && a3 ≤ b3)))

/-- Compiles an `orderBy` argument for a table. -/
def compile (t : Table) (orderBy : Value) : Outcome (List OrderClause) := do
  if !orderBy.truthy then return []
  let entries ← match orderBy with
    | .dict es => pure es
    | v => .error ⟨.missingAttribute, "'" ++ v.kindName ++ "' object has no attribute 'items'"⟩
  let clauses ← entries.foldlM (fun acc (key, entry) => do
    match entry with
    | .none => pure acc
    | _ =>
      match t.columnFor? key with
      | none => .error (.validation ("Unknown column in orderBy for table '" ++ t.name ++ "': " ++ key))
      | some column =>
        let direction ← directionOf (entryField entry "direction")
        let priority ← priorityOf key (entryField entry "priority")
        pure (acc ++ [{ column, direction, priority }])) []
  pure (clauses.mergeSort (precedes t))

end OrderClause

end TableGraph
