import TableGraph.Query.Filter
import TableGraph.Query.Order
import TableGraph.GraphQL.Syntax

/-!
# What a query reads

A `LoadSpec` says what to read from one table at one level of a query: the
columns the selection asks for, the predicate rows must satisfy, their
order, how many to skip and how many to keep, and the relations to follow,
each under the response key that selected it, with a spec of its own.

`LoadSpec.collect` walks a selection: fragments are entered where they
stand (their type conditions and directives do not matter here), meta
fields are skipped, a field that names a column adds it, and a field that
names a relation adds the relation under its response key — unless the
depth budget forbids going one level deeper. A relation selected twice under
one key keeps the arguments of its first selection and gathers the
selections of both.

Arguments of nested fields are read from the document as written: numbers
keep their text, enumeration values their names, and variables their
coerced values (null when the request did not give them).
-/

namespace TableGraph

open GraphQL

/-- A read request for one table at one level of a query. -/
structure LoadSpec where
  table : Table
  /-- Attribute keys of the columns to read, in order of first selection. -/
  columns : List String := []
  predicate : Predicate := .const true
  order : List OrderClause := []
  offset : Option Nat := none
  limit : Option Nat := none
  /-- The relations to follow, by response key, in order of first selection. -/
  relations : List (String × Relation × LoadSpec) := []
  deriving Inhabited

namespace LoadSpec

/-- A page argument: an integer, a text of one, or none; never a truth
value nor negative. -/
def pageValue (name : String) (v : Value) : Outcome (Option Nat) := do
  let n ← match v with
    | .none => return none
    | .bool _ => .error (.validation (name ++ " must be an integer"))
    | .int n => pure n
    | .str s =>
      match Number.readInt? s with
      | some n => pure n
      | none => .error (.validation (name ++ " must be an integer"))
    | .float x =>
      match Number.truncate x with
      | some n => pure n
      | none => .error (.validation (name ++ " must be an integer"))
    | _ => .error (.validation (name ++ " must be an integer"))
  if n < 0 then .error (.validation (name ++ " must be non-negative"))
  pure (some n.toNat)

/-- A spec for a table from its filter, order and page arguments, checked
in that order. -/
def build (reg : Registry) (t : Table) (filter orderBy offset limit : Value) : Outcome LoadSpec := do
  let predicate ← Filter.compile reg t filter
  let order ← OrderClause.compile t orderBy
  let offset ← pageValue "offset" offset
  let limit ← pageValue "limit" limit
  pure { table := t, predicate, order, offset, limit }

/-- Adds a column, once. -/
def addColumn (s : LoadSpec) (key : String) : LoadSpec :=
  if s.columns.contains key then s else { s with columns := s.columns ++ [key] }

/-- Follows a relation under a response key: an entry of the same key is
replaced in place, a new one is appended. -/
def setRelation (s : LoadSpec) (key : String) (rel : Relation) (child : LoadSpec) : LoadSpec :=
  let relations :=
    if s.relations.any (·.1 == key) then
      s.relations.map fun e => if e.1 == key then (key, rel, child) else e
    else s.relations ++ [(key, rel, child)]
  { s with relations }

end LoadSpec

mutual

/-- The value of an argument of a nested field, as written: numbers as
their text, enumeration values as their names, variables as coerced (null
when the request did not give them). -/
def argumentValue (variableValues : List (String × Value)) : Literal → Value
  | .variable n => (Value.lookup? variableValues n).getD .none
  | .int t => .str t
  | .float t => .str t
  | .string s _ => .str s
  | .boolean b => .bool b
  | .null => .none
  | .enum n => .str n
  | .list items => .list (argumentItems variableValues items)
  | .object fields => .dict (argumentFields variableValues fields)

/-- The values of list items, as written. -/
def argumentItems (variableValues : List (String × Value)) : List Literal → List Value
  | [] => []
  | l :: rest => argumentValue variableValues l :: argumentItems variableValues rest

/-- The values of object fields, as written. -/
def argumentFields (variableValues : List (String × Value)) : List (String × Literal) → List (String × Value)
  | [] => []
  | (k, l) :: rest => (k, argumentValue variableValues l) :: argumentFields variableValues rest

end

/-- What reading a selection needs besides the spec: the catalog, the
registry, the document's fragments, the coerced variables, the depth budget
and a way to read argument values as the resolvers see them. -/
structure SelectionContext where
  catalog : Catalog
  registry : Registry
  document : Document
  variableValues : List (String × Value)
  depthBudget : Option Nat
  /-- Turns a value as written into the value resolvers see. -/
  plain : Value → Value

namespace SelectionContext

/-- An argument of a nested field, as resolvers see it; none when absent. -/
def argument (c : SelectionContext) (args : List (String × Literal)) (names : List String) : Value :=
  match names.findSome? fun n => (args.find? (·.1 == n)).map (·.2) with
  | some l => c.plain (argumentValue c.variableValues l)
  | none => .none

/-- The spec of a relation from the arguments of the field that selects
it: a relation to one row takes only a filter. -/
def relationSpec (c : SelectionContext) (r : Relation) (args : List (String × Literal)) : Outcome LoadSpec := do
  let t ← c.catalog.table r.target
  let filter := c.argument args ["where"]
  if !r.isMany then LoadSpec.build c.registry t filter .none .none .none
  else
    LoadSpec.build c.registry t filter (c.argument args ["orderBy", "order_by"]) (c.argument args ["offset"])
      (c.argument args ["limit"])

/-- The refusal of a relation of a table that would go past the depth
budget. -/
def depthExceeded (table relation : String) (budget : Nat) : Failure :=
  .validation ("Relation '" ++ table ++ "." ++ relation ++ "' exceeds the maximum relation depth of " ++
    toString budget)

/-- Refuses to follow a relation from a spec at a depth when the depth
budget leaves no room for it. -/
def checkDepth (c : SelectionContext) (s : LoadSpec) (r : Relation) (depth : Nat) : Outcome Unit :=
  match c.depthBudget with
  | some budget =>
    if depth + 1 > budget then .error (depthExceeded s.table.name r.name budget)
    else pure ()
  | none => pure ()

/-- The relation and spec a relation selection extends: the entry already
under its response key, else a new spec of the relation. -/
def relationEntry (c : SelectionContext) (s : LoadSpec) (key : String) (r : Relation)
    (args : List (String × Literal)) : Outcome (Relation × LoadSpec) :=
  match s.relations.find? (·.1 == key) with
  | some (_, rel, child) => pure (rel, child)
  | none => do
    let child ← c.relationSpec r args
    pure (r, child)

/-- Collects one selection into a spec at a depth, with `collect` for the
selections it nests: those of a fragment at the same depth, those of a
relation field one level deeper. -/
def collectOne (c : SelectionContext) (collect : Nat → LoadSpec → List Selection → Outcome LoadSpec)
    (depth : Nat) (s : LoadSpec) : Selection → Outcome LoadSpec
  | .inline _ _ inner => collect depth s inner
  | .spread n _ =>
    match c.document.fragment? n with
    | some f => collect depth s f.selections
    | none => .error ⟨.missingKey, "'" ++ n ++ "'"⟩
  | .field aliasName name args _ sub =>
    if name.isEmpty || name.startsWith "__" then pure s
    else
      match s.table.columnFor? name with
      | some col => pure (s.addColumn col.name)
      | none =>
        match s.table.relationFor? name with
        | none => pure s
        | some r => do
          c.checkDepth s r depth
          let key := aliasName.getD name
          let entry ← c.relationEntry s key r args
          let child ← collect (depth + 1) entry.2 (sub.getD [])
          pure (s.setRelation key entry.1 child)

/-- Collects a selection into a spec at a depth, one selection after the
other; `fuel` bounds the nesting of fragments and of the selections of
fields. -/
def collect (c : SelectionContext) : Nat → Nat → LoadSpec → List Selection → Outcome LoadSpec
  | 0, _, s, _ => .ok s
  | fuel + 1, depth, s, sels => sels.foldlM (c.collectOne (c.collect fuel) depth) s

/-- The nesting of selections that collection follows. -/
def collectFuel : Nat := 100000

end SelectionContext

end TableGraph
