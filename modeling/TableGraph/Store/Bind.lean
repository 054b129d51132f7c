import TableGraph.Store.Table

/-!
# Binding predicates to a stored table

A predicate names columns and holds values; before it can test rows its
columns become positions in the stored table and its values become cells.

A value compared with a column is written the way the column's own type
writes values when the value is of the column's kind (a date for a date
column, a number for a numeric one, a text for a text one), when it has no
kind of its own (null, lists, objects), or when the column's type is a
decorator or a custom type; a value of another kind is written as it is.
Compared operands then take the column's affinity. Patterns are written the
same way but keep their text. Values are written in the order their
placeholders appear, and the first value that cannot be written fails the
statement, with its position.
-/

namespace TableGraph.Store

/-- The family of a value, as comparisons see it: none for a value without
a kind of its own. -/
def valueFamily : Value → Option String
  | .str _ => some "string"
  | .int _ => some "integer"
  | .float _ | .decimal _ => some "numeric"
  | .bool _ => some "boolean"
  | .datetime _ => some "datetime"
  | .date _ => some "date"
  | .time _ => some "time"
  | .bytes _ => some "binary"
  | .uuid _ => some "uuid"
  | _ => none

/-- The family of a column type, as comparisons see it: none for a
decorator or a custom type, which writes every value its own way. -/
def typeFamily : SqlType → Option String
  | .decorated _ _ => none
  | .enumeration _ _ => some "string"
  | .array _ _ => some "array"
  | .basic n f =>
    if classMentions n "vector" || classMentions n "geometry" then none
    else
      match f with
      | some .integer | some .bigint => some "integer"
      | some .text | some .enum => some "string"
      | some .float | some .decimal => some "numeric"
      | some .boolean => some "boolean"
      | some .timestamp => some "datetime"
      | some .date => some "date"
      | some .time => some "time"
      | some .binary => some "binary"
      | some .uuid => some "uuid"
      | some .json => some "json"
      | some .array => some "array"
      | none => some "other"

/-- The codec that writes a value compared with a column of a type. -/
def compareCodec (t : SqlType) (v : Value) : Codec :=
  match typeFamily t, valueFamily v with
  | none, _ => Codec.ofType t
  | _, none => Codec.ofType t
  | some tf, some vf =>
    if tf == vf || (tf == "uuid" && vf == "string") then Codec.ofType t else .plain

/-- Binding: a computation that numbers the placeholders it fills. -/
abbrev Binding := StateT Nat Outcome

/-- The position of the next placeholder. -/
def nextPosition : Binding Nat := modifyGet fun n => (n + 1, n + 1)

/-- Writes a value compared with a column. -/
def bindOperand (d : ColumnDecl) (v : Value) : Binding Cell := do
  let pos ← nextPosition
  let cell ← StateT.lift ((compareCodec d.type v).bind pos v)
  pure (d.affinity.operand cell)

/-- Writes a pattern matched against a column. -/
def bindPattern (d : ColumnDecl) (v : Value) : Binding Cell := do
  let pos ← nextPosition
  StateT.lift ((compareCodec d.type v).bind pos v)

/-- Writes a value of a list compared with a column, in the column's own
way. -/
def bindMember (d : ColumnDecl) (v : Value) : Binding Cell := do
  let pos ← nextPosition
  let cell ← StateT.lift ((Codec.ofType d.type).bind pos v)
  pure (d.affinity.operand cell)

namespace StoredTable

/-- The position and declaration of a column of the API. -/
def columnOf (t : StoredTable) (c : Column) : Binding (Nat × ColumnDecl) :=
  match t.position? c.sqlName with
  | some i => pure (i, t.columnAt i)
  | none => StateT.lift (.error ⟨.programming, "no such column: " ++ c.sqlName⟩)

mutual

/-- Binds a predicate to the table. -/
def bindPredicate (t : StoredTable) : Predicate → Binding Condition
  | .const b => pure (.truth b)
  | .test b => pure (.truth b)
  | .compare c op (.param v) => do
    let (i, d) ← t.columnOf c
    let cell ← bindOperand d v
    pure (.compare i op cell)
  | .compare c op (.truth b) => do
    let (i, d) ← t.columnOf c
    pure (.compare i op (d.affinity.operand (.integer (if b then 1 else 0))))
  | .like c p caseless negated => do
    let (i, d) ← t.columnOf c
    let cell ← bindPattern d p
    pure (.like i cell caseless negated)
  | .oneOf c vs negated => do
    let (i, d) ← t.columnOf c
    let cells ← vs.mapM (bindMember d)
    pure (.oneOf i cells negated)
  | .isNull c negated => do
    let (i, _) ← t.columnOf c
    pure (.isNull i negated)
  | .all ps => .all <$> t.bindPredicates ps
  | .any ps => .any <$> t.bindPredicates ps
  | .not p => .not <$> t.bindPredicate p

/-- Binds predicates to the table, in order. -/
def bindPredicates (t : StoredTable) : List Predicate → Binding (List Condition)
  | [] => pure []
  | p :: ps => do
    let c ← t.bindPredicate p
    let cs ← t.bindPredicates ps
    pure (c :: cs)

end

/-- Binds keys compared with columns given by attribute key, as a tuple. -/
def bindKeys (t : StoredTable) (keys : List String) (tuples : List (List Value)) : Binding Condition := do
  let cols := keys.map fun k => t.keyPosition? k
  let positions := cols.filterMap id
  let cells ← tuples.mapM fun tuple =>
    (tuple.zip positions).mapM fun (v, i) => bindMember (t.columnAt i) v
  pure (.keyIn positions cells)

end StoredTable

end TableGraph.Store
