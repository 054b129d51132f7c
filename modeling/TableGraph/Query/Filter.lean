import TableGraph.Query.Predicate
import TableGraph.Registry.Remap
import TableGraph.Schema.Catalog

/-!
# Filters

A `where` argument is a filter: an object whose members are column entries
and the combinators `AND`, `OR` and `NOT`. A level of a filter holds, with
AND, every predicate of its column entries (in the order they are given),
every element of `AND`, the disjunction of the elements of `OR` (an empty
element matches every row) and the negation of `NOT`. A null member, and an
empty or absent filter, adds nothing; a filter that adds nothing compiles to
the constant true.

A column entry names a column by attribute key or field name and maps
operators to operands. An operator is named in camel case or snake case;
`isNull` and `isNotNull` apply only when their operand is `true`; `inArray`
and `notInArray` take a non-empty list (a single value stands for a list of
one); the pattern operators take their operand as it is, and every other
operand is converted from its API form first. An entry may instead hold an
`OR` list of operator objects, of which some must hold; it may not hold
other operators beside it.
-/

namespace TableGraph


/-- The operators of a column entry. -/
inductive FilterOperator where
  | eq | ne | lt | lte | gt | gte
  | like | notLike | ilike | notIlike
  | inArray | notInArray
  | isNull | isNotNull
  deriving Repr, BEq, DecidableEq, Inhabited

namespace FilterOperator

/-- The operator a key names, in camel case or snake case. -/
def ofKey? (key : String) : Option FilterOperator :=
  match Text.camelToSnake key with
  | "eq" => some .eq
  | "ne" => some .ne
  | "lt" => some .lt
  | "lte" => some .lte
  | "gt" => some .gt
  | "gte" => some .gte
  | "like" => some .like
  | "not_like" => some .notLike
  | "ilike" => some .ilike
  | "not_ilike" => some .notIlike
  | "in_array" => some .inArray
  | "not_in_array" => some .notInArray
  | "is_null" => some .isNull
  | "is_not_null" => some .isNotNull
  | _ => none

/-- The field name of an operator in the API. -/
def fieldName : FilterOperator → String
  | .eq => "eq" | .ne => "ne" | .lt => "lt" | .lte => "lte" | .gt => "gt" | .gte => "gte"
  | .like => "like" | .notLike => "notLike" | .ilike => "ilike" | .notIlike => "notIlike"
  | .inArray => "inArray" | .notInArray => "notInArray"
  | .isNull => "isNull" | .isNotNull => "isNotNull"

/-- The key of an operator in snake case. -/
def key : FilterOperator → String
  | .eq => "eq" | .ne => "ne" | .lt => "lt" | .lte => "lte" | .gt => "gt" | .gte => "gte"
  | .like => "like" | .notLike => "not_like" | .ilike => "ilike" | .notIlike => "not_ilike"
  | .inArray => "in_array" | .notInArray => "not_in_array"
  | .isNull => "is_null" | .isNotNull => "is_not_null"

/-- The operators in the order the API lists them. -/
def all : List FilterOperator :=
  [.eq, .ne, .lt, .lte, .gt, .gte, .like, .notLike, .ilike, .notIlike, .inArray, .notInArray,
   .isNull, .isNotNull]

/-- The predicate an operator gives for a column and a non-null operand,
if any. -/
def predicate (op : FilterOperator) (reg : Registry) (c : Column) (v : Value) :
    Outcome (Option Predicate) :=
  let compare (cmp : Comparison) : Outcome (Option Predicate) := do
    let w ← reg.fromWire v c
    some <$> Predicate.comparison c cmp w
  let members (negated : Bool) : Outcome (Option Predicate) := do
    match v.asItems with
    | [] => .error (.validation ("WHERE " ++ c.fieldName ++ ": " ++ op.fieldName ++
        " requires a non-empty array!"))
    | items =>
      let ws ← items.mapM (reg.fromWire · c)
      pure (some (.oneOf c ws negated))
  let flag (negated : Bool) : Outcome (Option Predicate) :=
    match v with
    | .bool true => .ok (some (.isNull c negated))
    | _ => .ok none
  match op with
  | .eq => compare .eq
  | .ne => compare .ne
  | .lt => compare .lt
  | .lte => compare .le
  | .gt => compare .gt
  | .gte => compare .ge
  | .like => some <$> Predicate.pattern c v false false
  | .notLike => some <$> Predicate.pattern c v false true
  | .ilike => some <$> Predicate.pattern c v true false
  | .notIlike => some <$> Predicate.pattern c v true true
  | .inArray => members false
  | .notInArray => members true
  | .isNull => flag false
  | .isNotNull => flag true

end FilterOperator

namespace Filter

/-- The predicates of the operators of a column entry, in order. -/
def operatorPredicates (reg : Registry) (c : Column) (ops : List (String × Value)) :
    Outcome (List Predicate) :=
  ops.foldlM (fun out (raw, v) => do
    match FilterOperator.ofKey? raw with
    | none => .error (.validation ("Unknown filter operator: " ++ raw))
    | some op =>
      match v with
      | .none => pure out
      | v => do
        let p? ← op.predicate reg c v
        pure (out ++ p?.toList)) []

/-- The conjunction of a list of predicates, if any. -/
def conjunctionOf : List Predicate → Option Predicate
  | [] => none
  | [p] => some p
  | ps => some (Predicate.conj ps)

/-- The predicates of a column entry: its operators, or the disjunction of
the operator objects of its `OR` list. -/
def columnPredicates (reg : Registry) (c : Column) (key : String) : Value → Outcome (List Predicate)
  | .dict es =>
    match _h : Value.lookup? es "OR" with
    | some variants =>
      let rest := es.filter (·.1 != "OR")
      if !variants.truthy then operatorPredicates reg c rest
      else if rest.any (fun e => !(e.2 matches .none)) then
        .error (.validation ("WHERE " ++ c.fieldName ++
          ": Cannot specify both fields and 'OR' in column operators!"))
      else do
        let alternatives ← variants.asItems.attach.mapM fun ⟨variant, _⟩ =>
          if variant.truthy then columnPredicates reg c key variant else pure []
        match alternatives.filterMap conjunctionOf with
        | [] => pure []
        | alts => pure [Predicate.disj alts]
    | none => operatorPredicates reg c es
  | _ => .error (.validation ("Filter for column '" ++ key ++ "' must be an object of operators"))
termination_by v => sizeOf v
decreasing_by
  exact Nat.lt_of_le_of_lt (Value.sizeOf_le_of_mem_asItems ‹_›) (Value.sizeOf_lookup_lt _h)

/-- Whether a key names a combinator rather than a column. -/
def isCombinator (key : String) : Bool := key == "AND" || key == "OR" || key == "NOT"

/-- The refusal of a filter that is not an object. -/
def notAnObject (v : Value) : Failure :=
  ⟨.missingAttribute, "'" ++ v.kindName ++ "' object has no attribute 'items'"⟩

/-- The predicate of one level of a filter; none when the level adds nothing. -/
def level (reg : Registry) (t : Table) : Value → Outcome (Option Predicate)
  | .dict es =>
    if es.isEmpty then .ok none
    else do
      let columns ← es.foldlM (fun acc (key, v) => do
        if isCombinator key then pure acc
        else
          match v with
          | .none => pure acc
          | v =>
            match t.columnFor? key with
            | none => .error (.validation ("Unknown column in filter for table '" ++ t.name ++ "': " ++ key))
            | some c => do pure (acc ++ (← columnPredicates reg c key v))) []
      let conjuncts ← match _hA : Value.lookup? es "AND" with
        | some items =>
          if items.truthy then do
            let ps ← items.asItems.attach.mapM fun ⟨item, _⟩ => level reg t item
            pure ps.reduceOption
          else pure []
        | none => pure []
      let alternatives ← match _hO : Value.lookup? es "OR" with
        | some items =>
          if items.truthy then do
            let ps ← items.asItems.attach.mapM fun ⟨item, _⟩ => level reg t item
            pure [Predicate.disj (ps.map (·.getD (.const true)))]
          else pure []
        | none => pure []
      let negation ← match _hN : Value.lookup? es "NOT" with
        | some item =>
          if item.truthy then do
            let p? ← level reg t item
            pure (p?.map Predicate.negate).toList
          else pure []
        | none => pure []
      pure (conjunctionOf (columns ++ conjuncts ++ alternatives ++ negation))
  | v => if v.truthy then .error (notAnObject v) else .ok none
termination_by v => sizeOf v
decreasing_by
  all_goals first
    | exact Value.sizeOf_lookup_lt ‹_›
    | exact Nat.lt_of_le_of_lt (Value.sizeOf_le_of_mem_asItems ‹_›) (Value.sizeOf_lookup_lt ‹_›)

/-- Compiles a filter for a table: the constant true when it adds nothing. -/
def compile (reg : Registry) (t : Table) (filter : Value) : Outcome Predicate := do
  pure ((← level reg t filter).getD (.const true))

end Filter

end TableGraph
