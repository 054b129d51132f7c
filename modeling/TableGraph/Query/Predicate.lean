import TableGraph.Schema.Column
import TableGraph.Failure

/-!
# Row predicates

A predicate tests the rows of one table. Its leaves compare a column with a
bound value or a truth constant, match a column against a pattern, test a
column for membership in a list of values, or test it for null; inner nodes
are conjunctions, disjunctions and negations.

The constructors are those a query text can spell, and the smart
constructors below build them the way storage does:

* `Predicate.negate` pushes a negation into a leaf by its opposite operator
  (`=` and `!=`, `<` and `>=`, `<=` and `>`, `LIKE` and `NOT LIKE`, `IN` and
  `NOT IN`, `IS NULL` and `IS NOT NULL`) and swaps truth constants; a
  conjunction, disjunction or negation is wrapped in `NOT`.
* `Predicate.conj` and `Predicate.disj` drop the neutral constant, let the
  absorbing constant decide, flatten nested lists of the same connective, and
  return a lone operand as it is. A constant that ends up alone is *tested*:
  it is written `1 = 1` or `0 = 1` rather than `1` or `0`.

`Predicate.render` writes a predicate as query text with `?` placeholders and
lists the bound values in placeholder order. Operands of a connective are
parenthesized when they bind less tightly than it: a disjunction inside a
conjunction, and any connective inside a negation.
-/

namespace TableGraph

/-- Comparison operators. -/
inductive Comparison where
  | eq
  | ne
  | lt
  | le
  | gt
  | ge
  deriving Repr, BEq, DecidableEq, Inhabited

namespace Comparison

/-- The operator that holds exactly where this one fails on non-null operands. -/
def negate : Comparison → Comparison
  | .eq => .ne
  | .ne => .eq
  | .lt => .ge
  | .le => .gt
  | .gt => .le
  | .ge => .lt

/-- The symbol of an operator in query text. -/
def symbol : Comparison → String
  | .eq => "="
  | .ne => "!="
  | .lt => "<"
  | .le => "<="
  | .gt => ">"
  | .ge => ">="

/-- Whether an operator accepts a truth constant or null as its operand. -/
def isEquality : Comparison → Bool
  | .eq | .ne => true
  | _ => false

end Comparison

/-- The right side of a comparison: a bound value or a truth constant. -/
inductive Operand where
  | param (v : Value)
  | truth (b : Bool)
  deriving Repr, Inhabited

/-- Predicates over the rows of a table. -/
inductive Predicate where
  /-- A truth constant. -/
  | const (b : Bool)
  /-- A truth constant tested for truth. -/
  | test (b : Bool)
  /-- A column compared with an operand. -/
  | compare (column : Column) (op : Comparison) (rhs : Operand)
  /-- A column matched against a pattern, optionally ignoring case. -/
  | like (column : Column) (pattern : Value) (caseless negated : Bool)
  /-- A column tested for membership in a list of values. -/
  | oneOf (column : Column) (values : List Value) (negated : Bool)
  /-- A column tested for null. -/
  | isNull (column : Column) (negated : Bool)
  /-- All parts hold. -/
  | all (parts : List Predicate)
  /-- Some part holds. -/
  | any (parts : List Predicate)
  /-- The operand does not hold. -/
  | not (p : Predicate)
  deriving Repr, Inhabited

namespace Predicate

/-- The refusal of a truth value or null compared by an operator other than
equality. -/
def constantOperandRefused : Failure :=
  ⟨.badArgument, "Only '=', '!=', 'is_()', 'is_not()', 'is_distinct_from()', " ++
    "'is_not_distinct_from()' operators can be used with None/True/False"⟩

/-- A column compared with a value: a truth value becomes a constant and a
null an `IS NULL` test, both only under equality and inequality. -/
def comparison (c : Column) (op : Comparison) (v : Value) : Outcome Predicate :=
  match v with
  | .bool b => if op.isEquality then .ok (.compare c op (.truth b)) else .error constantOperandRefused
  | .none =>
    match op with
    | .eq => .ok (.isNull c false)
    | .ne => .ok (.isNull c true)
    | _ => .error constantOperandRefused
  | v => .ok (.compare c op (.param v))

/-- A column matched against a pattern; a truth value or null is refused. -/
def pattern (c : Column) (v : Value) (caseless negated : Bool) : Outcome Predicate :=
  match v with
  | .bool _ | .none => .error constantOperandRefused
  | v => .ok (.like c v caseless negated)

/-- The negation of a predicate. -/
def negate : Predicate → Predicate
  | .const b => .const (!b)
  | .test b => .const (!b)
  | .compare c op rhs => .compare c op.negate rhs
  | .like c p caseless negated => .like c p caseless (!negated)
  | .oneOf c vs negated => .oneOf c vs (!negated)
  | .isNull c negated => .isNull c (!negated)
  | p => .not p

/-- Whether a predicate is the truth constant `b`. -/
def isConst (b : Bool) : Predicate → Bool
  | .const c => b == c
  | _ => false

/-- The parts of a conjunction, with nested conjunctions spliced in. -/
def conjuncts (ps : List Predicate) : List Predicate :=
  ps.flatMap fun
    | .all qs => qs
    | p => [p]

/-- The parts of a disjunction, with nested disjunctions spliced in. -/
def disjuncts (ps : List Predicate) : List Predicate :=
  ps.flatMap fun
    | .any qs => qs
    | p => [p]

/-- The conjunction of predicates. -/
def conj (ps : List Predicate) : Predicate :=
  if ps.any (isConst false) then .test false
  else
    match ps.filter (fun p => !isConst true p) with
    | [] => .test true
    | [p] => p
    | qs => .all (conjuncts qs)

/-- The disjunction of predicates. -/
def disj (ps : List Predicate) : Predicate :=
  if ps.any (isConst true) then .test true
  else
    match ps.filter (fun p => !isConst false p) with
    | [] => .test false
    | [p] => p
    | qs => .any (disjuncts qs)

/-- Query text with the values bound to its placeholders, in order. -/
structure Sql where
  text : String
  params : List Value
  deriving Repr, Inhabited

/-- The reference to a column in query text: `table.column`. -/
def columnRef (c : Column) : String := c.table ++ "." ++ c.sqlName

/-- The text of a truth constant. -/
def truthText (b : Bool) : String := if b then "1" else "0"

/-- How tightly a predicate binds: a disjunction least, then a conjunction;
constants are never parenthesized. -/
def precedence : Predicate → Nat
  | .any _ => 2
  | .all _ => 3
  | .const _ | .test _ => 100
  | _ => 5

/-- Joins texts with a separator and concatenates their parameters. -/
def joinSql (sep : String) (parts : List Sql) : Sql :=
  { text := sep.intercalate (parts.map (·.text)), params := parts.flatMap (·.params) }

/-- Parenthesizes query text. -/
def Sql.paren (s : Sql) : Sql := { s with text := "(" ++ s.text ++ ")" }

mutual

/-- The query text of a predicate. -/
def render : Predicate → Sql
  | .const b => ⟨truthText b, []⟩
  | .test b => ⟨truthText b ++ " = 1", []⟩
  | .compare c op (.param v) => ⟨columnRef c ++ " " ++ op.symbol ++ " ?", [v]⟩
  | .compare c op (.truth b) => ⟨columnRef c ++ " " ++ op.symbol ++ " " ++ truthText b, []⟩
  | .like c p caseless negated =>
    let keyword := if negated then " NOT LIKE " else " LIKE "
    if caseless then ⟨"lower(" ++ columnRef c ++ ")" ++ keyword ++ "lower(?)", [p]⟩
    else ⟨columnRef c ++ keyword ++ "?", [p]⟩
  | .oneOf c vs negated =>
    let list := "(" ++ ", ".intercalate (vs.map fun _ => "?") ++ ")"
    if negated then ⟨"(" ++ columnRef c ++ " NOT IN " ++ list ++ ")", vs⟩
    else ⟨columnRef c ++ " IN " ++ list, vs⟩
  | .isNull c negated => ⟨columnRef c ++ (if negated then " IS NOT NULL" else " IS NULL"), []⟩
  | .all ps => joinSql " AND " (renderOperands 3 ps)
  | .any ps => joinSql " OR " (renderOperands 2 ps)
  | .not p =>
    let inner := render p
    let inner := if precedence p ≤ 5 then inner.paren else inner
    { inner with text := "NOT " ++ inner.text }

/-- The texts of the operands of a connective binding with strength `outer`;
an operand binding less tightly is parenthesized. -/
def renderOperands (outer : Nat) : List Predicate → List Sql
  | [] => []
  | p :: ps =>
    let s := render p
    (if precedence p < outer then s.paren else s) :: renderOperands outer ps

end

end Predicate

end TableGraph
