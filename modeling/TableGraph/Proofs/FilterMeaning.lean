import Mathlib
import TableGraph.Query.Filter
import TableGraph.Proofs.Outcome
import TableGraph.Proofs.Predicate

/-!
# What a filter means

A filter is an object whose keys name columns or the combinators `AND`,
`OR` and `NOT`. Its documented meaning on a row, in three-valued logic:

* a level is the conjunction of what its members contribute, and TRUE when
  they contribute nothing;
* a column entry contributes each of its operators whose operand is not
  null: a comparison with the operand converted from the API, a pattern
  match against the operand as given (`ilike` ignoring case), a membership
  test in the converted items, and a null test only when its flag is true;
  a column-level `OR` list contributes instead the disjunction of its
  alternatives, those that contribute nothing dropped;
* `AND` contributes those of its operands that contribute something, `OR`
  the disjunction of its operands with one that contributes nothing counting
  as TRUE, and `NOT` the negation of its operand when that contributes
  something.

How a comparison with a converted operand reads is a parameter, a
`Filter.Reading`. Storage compares a truth value as a constant and makes a
null operand of `eq` and `ne` the tests `IS NULL` and `IS NOT NULL`
(`Filter.storedReading`); a plain SQL comparison with null is UNKNOWN
(`Filter.sqlReading`).

## Main results

* `Filter.compile_eval`: whenever `Filter.compile` succeeds, the predicate
  it returns has, on every row, the truth of the filter's meaning under
  `storedReading`, all three values included.
* `Filter.compile_json_null_sql`: under `sqlReading` the two differ, since
  a JSON operand `"null"` of `eq` selects the rows where the column is null.

The proof follows the compiler: `level_dict` and `levelMeaning_dict` cut a
level into its column members and its three combinator members (`andPart`,
`orPart`, `notPart`), and `Predicate.eval` carries each part of the
compiled predicate to the same part of the meaning.
-/

namespace TableGraph

open Store

namespace Filter

/-- How a comparison of a column with an operand converted from the API
reads on a row. -/
abbrev Reading := Column → Comparison → Value → Truth

/-- The reading of storage: a truth value is compared as a constant, and a
null operand makes `eq` and `ne` the null tests. -/
def storedReading (env : RowEnv) : Reading
  | c, op, .bool b => env.compare c op (.truth b)
  | c, .eq, .none => some (env.null c)
  | c, .ne, .none => some (!env.null c)
  | _, _, .none => none
  | c, op, w => env.compare c op (.param w)

/-- The reading of plain SQL: a comparison with null is UNKNOWN. -/
def sqlReading (env : RowEnv) : Reading
  | c, op, .bool b => env.compare c op (.truth b)
  | _, _, .none => none
  | c, op, w => env.compare c op (.param w)

section Meaning

variable (reg : Registry) (t : Table) (env : RowEnv) (rd : Reading)

/-- What an operator with a non-null operand contributes, if anything. -/
def operatorMeaning (c : Column) (op : FilterOperator) (v : Value) : Outcome (Option Truth) :=
  let compared (cmp : Comparison) : Outcome (Option Truth) := do
    let w ← reg.fromWire v c
    pure (some (rd c cmp w))
  let listed (negated : Bool) : Outcome (Option Truth) := do
    let ws ← v.asItems.mapM (reg.fromWire · c)
    pure (some ((env.member c ws).map (· != negated)))
  let matched (caseless negated : Bool) : Outcome (Option Truth) :=
    pure (some ((env.like c v caseless).map (· != negated)))
  let flag (negated : Bool) : Outcome (Option Truth) :=
    pure (if v matches .bool true then some (some (env.null c != negated)) else none)
  match op with
  | .eq => compared .eq
  | .ne => compared .ne
  | .lt => compared .lt
  | .lte => compared .le
  | .gt => compared .gt
  | .gte => compared .ge
  | .like => matched false false
  | .notLike => matched false true
  | .ilike => matched true false
  | .notIlike => matched true true
  | .inArray => listed false
  | .notInArray => listed true
  | .isNull => flag false
  | .isNotNull => flag true

/-- What one operator of a column entry adds to what the operators before it
did: nothing for a null operand or an unknown operator. -/
def operatorStep (c : Column) (out : List Truth) : String × Value → Outcome (List Truth)
  | (raw, v) =>
    match FilterOperator.ofKey? raw with
    | none => pure out
    | some op =>
      match v with
      | .none => pure out
      | v => (out ++ ·.toList) <$> operatorMeaning reg env rd c op v

/-- What the operators of a column entry contribute, in order. -/
def operatorsMeaning (c : Column) (ops : List (String × Value)) : Outcome (List Truth) :=
  ops.foldlM (operatorStep reg env rd c) []

/-- What a column entry contributes: its operators, or the disjunction of
the alternatives of its `OR` list, those that contribute nothing dropped. -/
def entryMeaning (c : Column) : Value → Outcome (List Truth)
  | .dict es =>
    match _h : Value.lookup? es "OR" with
    | some variants =>
      if variants.truthy then do
        let alternatives ← variants.asItems.attach.mapM fun ⟨variant, _⟩ =>
          if variant.truthy then entryMeaning c variant else pure []
        let kept := alternatives.filter (!·.isEmpty)
        pure (if kept.isEmpty then [] else [Truth.any (kept.map Truth.all)])
      else operatorsMeaning reg env rd c (es.filter (·.1 != "OR"))
    | none => operatorsMeaning reg env rd c es
  | _ => pure []
termination_by v => sizeOf v
decreasing_by
  exact Nat.lt_of_le_of_lt (Value.sizeOf_le_of_mem_asItems ‹_›) (Value.sizeOf_lookup_lt _h)

/-- What one member of a level contributes, added to what the members
before it did: nothing for a combinator, a null or an unknown column. -/
def memberMeaning (acc : List Truth) : String × Value → Outcome (List Truth)
  | (key, v) =>
    if isCombinator key then pure acc
    else
      match v with
      | .none => pure acc
      | v =>
        match t.columnFor? key with
        | none => pure acc
        | some c => (acc ++ ·) <$> entryMeaning reg env rd c v

/-- What one level of a filter means; none when it contributes nothing. -/
def levelMeaning : Value → Outcome (Option Truth)
  | .dict es => do
    let columns ← es.foldlM (memberMeaning reg t env rd) []
    let conjuncts ← match _hA : Value.lookup? es "AND" with
      | some items =>
        if items.truthy then do
          let ts ← items.asItems.attach.mapM fun ⟨item, _⟩ => levelMeaning item
          pure ts.reduceOption
        else pure []
      | none => pure []
    let alternatives ← match _hO : Value.lookup? es "OR" with
      | some items =>
        if items.truthy then do
          let ts ← items.asItems.attach.mapM fun ⟨item, _⟩ => levelMeaning item
          pure [Truth.any (ts.map (·.getD (some true)))]
        else pure []
      | none => pure []
    let negation ← match _hN : Value.lookup? es "NOT" with
      | some item =>
        if item.truthy then do
          let t? ← levelMeaning item
          pure (t?.map Truth.neg).toList
        else pure []
      | none => pure []
    let parts := columns ++ conjuncts ++ alternatives ++ negation
    pure (if parts.isEmpty then none else some (Truth.all parts))
  | _ => pure none
termination_by v => sizeOf v
decreasing_by
  all_goals first
    | exact Value.sizeOf_lookup_lt ‹_›
    | exact Nat.lt_of_le_of_lt (Value.sizeOf_le_of_mem_asItems ‹_›) (Value.sizeOf_lookup_lt ‹_›)

/-- What a filter means: TRUE when it contributes nothing. -/
def meaning (filter : Value) : Outcome Truth :=
  (·.getD (some true)) <$> levelMeaning reg t env rd filter

end Meaning

/-! ### A level cut into its members -/

section Parts

variable {α : Type}

/-- What the `AND` member of a level adds, given what each operand gives:
the operands that give something. -/
def andPart (sub : Value → Outcome (Option α)) (es : List (String × Value)) :
    Outcome (List α) :=
  match Value.lookup? es "AND" with
  | some items => if items.truthy then (·.reduceOption) <$> items.asItems.mapM sub else pure []
  | none => pure []

/-- What the `OR` member of a level adds, given what each operand gives: the
disjunction of the operands, `top` for one that gives nothing. -/
def orPart (sub : Value → Outcome (Option α)) (top : α) (disj : List α → α)
    (es : List (String × Value)) : Outcome (List α) :=
  match Value.lookup? es "OR" with
  | some items =>
    if items.truthy then (fun ps => [disj (ps.map (·.getD top))]) <$> items.asItems.mapM sub
    else pure []
  | none => pure []

/-- What the `NOT` member of a level adds, given what its operand gives: the
negation of the operand when it gives something. -/
def notPart (sub : Value → Outcome (Option α)) (neg : α → α) (es : List (String × Value)) :
    Outcome (List α) :=
  match Value.lookup? es "NOT" with
  | some item => if item.truthy then (fun p? => (p?.map neg).toList) <$> sub item else pure []
  | none => pure []

end Parts

/-- The predicates of one member of a level, added to those of the members
before it: the step of `level` over the members. -/
def columnMember (reg : Registry) (t : Table) (acc : List Predicate) :
    String × Value → Outcome (List Predicate)
  | (key, v) =>
    if isCombinator key then pure acc
    else
      match v with
      | .none => pure acc
      | v =>
        match t.columnFor? key with
        | none => .error (.validation ("Unknown column in filter for table '" ++ t.name ++ "': " ++ key))
        | some c => do pure (acc ++ (← columnPredicates reg c key v))

/-- A level that is not empty compiles its column members, then its `AND`,
`OR` and `NOT` members, and conjoins what they give. -/
theorem level_dict (reg : Registry) (t : Table) {es : List (String × Value)}
    (hne : es.isEmpty = false) :
    level reg t (.dict es) = (do
      let columns ← es.foldlM (columnMember reg t) []
      let conjuncts ← andPart (level reg t) es
      let alternatives ← orPart (level reg t) (.const true) Predicate.disj es
      let negation ← notPart (level reg t) Predicate.negate es
      pure (conjunctionOf (columns ++ conjuncts ++ alternatives ++ negation))) := by
  rw [level.eq_1]
  simp only [hne, Bool.false_eq_true, if_false]
  refine congrArg (_ >>= ·) (funext fun columns => ?_)
  unfold andPart orPart notPart
  -- one case for each way the three combinator members can be present
  rcases Value.lookup? es "AND" with _ | items <;>
  rcases Value.lookup? es "OR" with _ | alts <;>
  rcases Value.lookup? es "NOT" with _ | item <;>
  simp only <;> split_ifs <;> simp

/-- The meaning of a level is cut the same way. -/
theorem levelMeaning_dict (reg : Registry) (t : Table) (env : RowEnv) (rd : Reading)
    (es : List (String × Value)) :
    levelMeaning reg t env rd (.dict es) = (do
      let columns ← es.foldlM (memberMeaning reg t env rd) []
      let conjuncts ← andPart (levelMeaning reg t env rd) es
      let alternatives ← orPart (levelMeaning reg t env rd) (some true) Truth.any es
      let negation ← notPart (levelMeaning reg t env rd) Truth.neg es
      let parts := columns ++ conjuncts ++ alternatives ++ negation
      pure (if parts.isEmpty then none else some (Truth.all parts))) := by
  rw [levelMeaning.eq_1]
  refine congrArg (_ >>= ·) (funext fun columns => ?_)
  unfold andPart orPart notPart
  rcases Value.lookup? es "AND" with _ | items <;>
  rcases Value.lookup? es "OR" with _ | alts <;>
  rcases Value.lookup? es "NOT" with _ | item <;>
  simp only <;> split_ifs <;> simp

/-! ### One member at a time

Each step of the compiler over the members of a level, or over the operators
of a column entry, is inverted once here, and each step of the meaning is
computed once; the proofs below use these lemmas and never unfold a step. -/

/-- The step of `operatorPredicates` over the operators of a column entry. -/
def operatorMember (reg : Registry) (c : Column) (out : List Predicate) :
    String × Value → Outcome (List Predicate)
  | (raw, v) =>
    match FilterOperator.ofKey? raw with
    | none => .error (.validation ("Unknown filter operator: " ++ raw))
    | some op =>
      match v with
      | .none => pure out
      | v => do
        let p? ← op.predicate reg c v
        pure (out ++ p?.toList)

theorem operatorPredicates_eq (reg : Registry) (c : Column) (ops : List (String × Value)) :
    operatorPredicates reg c ops = ops.foldlM (operatorMember reg c) [] := rfl

/-- A step over one operator succeeds by skipping a null operand, or by
adding what a known operator compiles to. -/
theorem operatorMember_ok {reg : Registry} {c : Column} {out out' : List Predicate}
    {raw : String} {v : Value} (h : operatorMember reg c out (raw, v) = .ok out') :
    (v = .none ∧ out' = out) ∨
      ∃ op p?, FilterOperator.ofKey? raw = some op ∧ v ≠ .none ∧
        op.predicate reg c v = .ok p? ∧ out' = out ++ p?.toList := by
  simp only [operatorMember] at h
  split at h
  · cases h
  · rename_i op hop
    split at h
    · cases h
      exact Or.inl ⟨rfl, rfl⟩
    · rename_i hv
      obtain ⟨p?, hp, rfl⟩ := by simpa using h
      exact Or.inr ⟨op, p?, hop, hv, hp, rfl⟩

/-- A step over one member of a level succeeds by skipping a combinator or a
null, or by adding what the column entry it names compiles to. -/
theorem columnMember_ok {reg : Registry} {t : Table} {acc acc' : List Predicate} {key : String}
    {v : Value} (h : columnMember reg t acc (key, v) = .ok acc') :
    (acc' = acc ∧ (isCombinator key = true ∨ v = .none)) ∨
      ∃ c ps, isCombinator key = false ∧ v ≠ .none ∧ t.columnFor? key = some c ∧
        columnPredicates reg c key v = .ok ps ∧ acc' = acc ++ ps := by
  simp only [columnMember] at h
  cases hkey : isCombinator key
  · simp only [hkey, Bool.false_eq_true, if_false] at h
    split at h
    · cases h
      exact Or.inl ⟨rfl, Or.inr rfl⟩
    · rename_i hv
      cases hc : t.columnFor? key with
      | none => simp [hc] at h
      | some c =>
        simp only [hc, Outcome.bind_eq_ok, Outcome.pure_eq_ok] at h
        obtain ⟨ps, hps, rfl⟩ := h
        exact Or.inr ⟨c, ps, rfl, hv, rfl, hps, rfl⟩
  · simp only [hkey, if_true, Outcome.pure_eq_ok] at h
    exact Or.inl ⟨h.symm, Or.inl rfl⟩

section Steps

variable {reg : Registry} {t : Table}

/-- A step over a known operator skips a null operand. -/
theorem operatorMember_null {c : Column} {raw : String} {op : FilterOperator}
    (hop : FilterOperator.ofKey? raw = some op) (out : List Predicate) :
    operatorMember reg c out (raw, .none) = pure out := by
  simp only [operatorMember, hop]

/-- The step over an operator that is known and has an operand adds what
the operator compiles to. -/
theorem operatorMember_operator {c : Column} {out : List Predicate} {raw : String}
    {op : FilterOperator} {v : Value} (hop : FilterOperator.ofKey? raw = some op)
    (hv : v ≠ .none) :
    operatorMember reg c out (raw, v) = (out ++ ·.toList) <$> op.predicate reg c v := by
  simp only [operatorMember, hop]
  cases op.predicate reg c v <;> rfl

/-- A member that is a combinator or null adds nothing to the column
predicates. -/
theorem columnMember_skip {acc : List Predicate} {key : String} {v : Value}
    (h : isCombinator key = true ∨ v = .none) : columnMember reg t acc (key, v) = pure acc := by
  simp only [columnMember]
  rcases h with hkey | rfl
  · simp [hkey]
  · split <;> rfl

/-- The step over a member that names a column and has an operand adds what
the column entry compiles to. -/
theorem columnMember_column {acc : List Predicate} {key : String} {v : Value} {c : Column}
    (hkey : isCombinator key = false) (hv : v ≠ .none) (hc : t.columnFor? key = some c) :
    columnMember reg t acc (key, v) = (acc ++ ·) <$> columnPredicates reg c key v := by
  simp only [columnMember, hkey, Bool.false_eq_true, if_false, hc]
  cases columnPredicates reg c key v <;> rfl

end Steps

/-- A value that is not an object is refused as a filter when truthy and
adds nothing otherwise. -/
theorem level_not_dict (reg : Registry) (t : Table) {v : Value} (hv : ∀ es, v ≠ .dict es) :
    level reg t v = if v.truthy then .error (notAnObject v) else .ok none := by
  rw [level.eq_def]
  split
  · exact absurd rfl (hv _)
  · rfl

section Steps

variable {reg : Registry} {t : Table} {env : RowEnv} {rd : Reading}

@[simp] theorem operatorStep_null (c : Column) (out : List Truth) (raw : String) :
    operatorStep reg env rd c out (raw, .none) = pure out := by
  cases hop : FilterOperator.ofKey? raw <;> simp [operatorStep, hop]

theorem operatorStep_of_ne {c : Column} {out : List Truth} {raw : String} {op : FilterOperator}
    {v : Value} (hop : FilterOperator.ofKey? raw = some op) (hv : v ≠ .none) :
    operatorStep reg env rd c out (raw, v) =
      (out ++ ·.toList) <$> operatorMeaning reg env rd c op v := by
  simp [operatorStep, hop]

theorem memberMeaning_skip {acc : List Truth} {key : String} {v : Value}
    (h : isCombinator key = true ∨ v = .none) :
    memberMeaning reg t env rd acc (key, v) = pure acc := by
  simp only [memberMeaning]
  rcases h with hkey | rfl
  · simp [hkey]
  · split <;> rfl

theorem memberMeaning_column {acc : List Truth} {key : String} {v : Value} {c : Column}
    (hkey : isCombinator key = false) (hv : v ≠ .none) (hc : t.columnFor? key = some c) :
    memberMeaning reg t env rd acc (key, v) = (acc ++ ·) <$> entryMeaning reg env rd c v := by
  simp [memberMeaning, hkey, hc]

theorem levelMeaning_not_dict {v : Value} (hv : ∀ es, v ≠ .dict es) :
    levelMeaning reg t env rd v = pure none := by
  rw [levelMeaning.eq_def]
  split
  · exact absurd rfl (hv _)
  · rfl

end Steps

/-! ### The compiler against the meaning -/

section Simulation

variable {reg : Registry} (env : RowEnv)

/-- A comparison compiled for a converted operand reads as storage reads it. -/
theorem comparison_eval {c : Column} {op : Comparison} {w : Value} {p : Predicate}
    (h : Predicate.comparison c op w = .ok p) : p.eval env = storedReading env c op w := by
  unfold Predicate.comparison at h
  split at h
  · split_ifs at h
    cases h
    rfl
  · split at h <;> cases h <;> simp [storedReading, Predicate.eval]
  · cases h
    cases w <;> simp_all [storedReading, Predicate.eval]

/-- A compiled pattern match reads as the match against the operand as given. -/
theorem pattern_eval {c : Column} {v : Value} {caseless negated : Bool} {p : Predicate}
    (h : Predicate.pattern c v caseless negated = .ok p) :
    p.eval env = (env.like c v caseless).map (· != negated) := by
  unfold Predicate.pattern at h
  split at h
  · cases h
  · cases h
  · cases h
    rfl

/-- A conjunction of compiled predicates, if any, reads as the conjunction of
their truths. -/
theorem eval_conjunctionOf (ps : List Predicate) :
    (conjunctionOf ps).map (·.eval env) =
      if ps.isEmpty then none else some (Truth.all (ps.map (·.eval env))) := by
  match ps with
  | [] => rfl
  | [p] => simp [conjunctionOf]
  | p :: q :: rest => simp [conjunctionOf, Predicate.eval_conj]

/-- Dropping the alternatives that give nothing and conjoining the others
reads as conjoining the truths of those that give something. -/
theorem filterMap_conjunctionOf (alts : List (List Predicate)) :
    (alts.filterMap conjunctionOf).map (·.eval env) =
      ((alts.map (·.map (·.eval env))).filter (!·.isEmpty)).map Truth.all := by
  induction alts with
  | nil => rfl
  | cons ps rest ih =>
    rcases ps with _ | ⟨p, ps⟩
    · simpa [List.filterMap_cons, conjunctionOf] using ih
    · have h := eval_conjunctionOf env (p :: ps)
      rw [if_neg (by simp)] at h
      obtain ⟨q, hq, hqe⟩ := Option.map_eq_some_iff.mp h
      simp [hq, hqe, ih]

/-- One operator with a non-null operand compiles to what it means. -/
theorem predicate_meaning {c : Column} {op : FilterOperator} {v : Value}
    {p? : Option Predicate} (h : op.predicate reg c v = .ok p?) :
    operatorMeaning reg env (storedReading env) c op v = .ok (p?.map (·.eval env)) := by
  cases op
  all_goals simp only [FilterOperator.predicate, operatorMeaning] at h ⊢
  case eq | ne | lt | lte | gt | gte =>
    obtain ⟨w, hw, p, hp, rfl⟩ := by simpa using h
    simp [hw, comparison_eval env hp]
  case like | notLike | ilike | notIlike =>
    obtain ⟨p, hp, rfl⟩ := by simpa using h
    simp [pattern_eval env hp]
  case inArray | notInArray =>
    split at h
    · cases h
    · obtain ⟨ws, hws, rfl⟩ := by simpa using h
      simp [hws, Predicate.eval]
  case isNull | isNotNull =>
    split at h <;> cases h <;> simp_all [Predicate.eval]

/-- The operators of a column entry compile to what they mean, in order. -/
theorem operatorPredicates_meaning {c : Column} {ops : List (String × Value)}
    {ps : List Predicate} (h : operatorPredicates reg c ops = .ok ps) :
    operatorsMeaning reg env (storedReading env) c ops = .ok (ps.map (·.eval env)) := by
  rw [operatorPredicates_eq] at h
  refine Outcome.foldlM_ok_map (List.map (·.eval env)) ?_ h
  rintro ⟨raw, v⟩ - out out' hstep
  rcases operatorMember_ok hstep with ⟨rfl, rfl⟩ | ⟨op, p?, hop, hv, hp, rfl⟩
  · exact operatorStep_null _ _ _
  · rw [operatorStep_of_ne hop hv, predicate_meaning env hp]
    simp [Option.toList_map]

/-- A column entry compiles to what it means. -/
theorem columnPredicates_meaning {c : Column} {key : String} (v : Value) {ps : List Predicate}
    (h : columnPredicates reg c key v = .ok ps) :
    entryMeaning reg env (storedReading env) c v = .ok (ps.map (·.eval env)) := by
  induction v using columnPredicates.induct generalizing ps with
  | case1 es variants hOr hfalsy =>
    -- a falsy `OR` list: the other operators
    rw [columnPredicates.eq_1, hOr] at h
    rw [entryMeaning.eq_1, hOr]
    simp only [hfalsy, if_true] at h
    simp only [Bool.not_eq_true'] at hfalsy
    simp only [hfalsy, Bool.false_eq_true, if_false]
    exact operatorPredicates_meaning env h
  | case2 es variants hOr rest htruthy =>
    -- operators beside a column-level `OR` list are refused
    rename_i hmixed
    simp only [rest, List.unattach_filter, List.unattach_attach] at hmixed
    rw [columnPredicates.eq_1, hOr] at h
    simp only [htruthy, hmixed, if_true] at h
    cases h
  | case3 es variants hOr rest htruthy hmixed =>
    -- a column-level `OR` list alone: the disjunction of its alternatives
    rename_i ih
    simp only [rest, List.unattach_filter, List.unattach_attach] at hmixed
    rw [columnPredicates.eq_1, hOr] at h
    rw [entryMeaning.eq_1, hOr]
    simp only [htruthy, hmixed, Bool.false_eq_true, if_false] at h
    simp only [Bool.not_eq_true, Bool.not_eq_false'] at htruthy
    simp only [htruthy, if_true, List.mapM_subtype, List.unattach_attach]
    obtain ⟨alternatives, halts, h⟩ := Outcome.bind_eq_ok.mp h
    simp only [List.mapM_subtype, List.unattach_attach] at halts
    rw [Outcome.mapM_ok_map (List.map (·.eval env)) ?_ halts]
    · have hkept := filterMap_conjunctionOf env alternatives
      simp only [bind, Except.bind]
      split at h
      · -- no alternative gives anything
        rename_i hnil
        cases h
        rw [hnil, List.map_nil] at hkept
        simp [List.map_eq_nil_iff.mp hkept.symm]
      · rename_i hne
        cases h
        have hkept_ne : (List.filter (fun x => !x.isEmpty)
            (alternatives.map (List.map (·.eval env)))).isEmpty = false := by
          rw [List.isEmpty_eq_false_iff]
          rintro hnil
          rw [hnil, List.map_nil, List.map_eq_nil_iff] at hkept
          exact hne hkept
        simp [hkept_ne, Predicate.eval_disj, hkept]
    · intro v hv qs hqs
      by_cases hvt : v.truthy = true
      · simp only [hvt, if_true] at hqs ⊢
        exact ih v hv hqs
      · simp only [hvt, Bool.false_eq_true, if_false, Outcome.pure_eq_ok] at hqs ⊢
        subst hqs
        rfl
  | case4 es hOr =>
    -- no column-level `OR`: the operators
    rw [columnPredicates.eq_1, hOr] at h
    rw [entryMeaning.eq_1, hOr]
    exact operatorPredicates_meaning env h
  | case5 v hv =>
    rw [columnPredicates.eq_def] at h
    split at h
    · exact absurd rfl (hv _)
    · cases h

/-- The column members of a level compile to what they mean. -/
theorem columns_meaning {t : Table} {es : List (String × Value)} {ps : List Predicate}
    (h : es.foldlM (columnMember reg t) [] = .ok ps) :
    es.foldlM (memberMeaning reg t env (storedReading env)) [] = .ok (ps.map (·.eval env)) := by
  refine Outcome.foldlM_ok_map (List.map (·.eval env)) ?_ h
  rintro ⟨key, v⟩ - acc acc' hstep
  rcases columnMember_ok hstep with ⟨rfl, hskip⟩ | ⟨c, qs, hkey, hv, hc, hqs, rfl⟩
  · rw [memberMeaning_skip hskip]
    rfl
  · rw [memberMeaning_column hkey hv hc, columnPredicates_meaning env v hqs]
    simp

section Parts

variable {α β : Type} {sub : Value → Outcome (Option α)} {sub' : Value → Outcome (Option β)}
  {es : List (String × Value)} (φ : α → β)

/-- The `AND` member of a level, under a map that each operand commutes with. -/
theorem andPart_map
    (hsub : ∀ items, Value.lookup? es "AND" = some items → ∀ v ∈ items.asItems,
      ∀ {p?}, sub v = .ok p? → sub' v = .ok (p?.map φ))
    {ps : List α} (h : andPart sub es = .ok ps) : andPart sub' es = .ok (ps.map φ) := by
  unfold andPart at h ⊢
  cases hA : Value.lookup? es "AND" with
  | none => simp_all
  | some items =>
    simp only [hA] at h ⊢
    split_ifs at h ⊢
    · obtain ⟨qs, hqs, rfl⟩ := Outcome.map_eq_ok.mp h
      rw [Outcome.mapM_ok_map (Option.map φ) (fun v hv _ => hsub items hA v hv) hqs]
      simp [List.reduceOption_map]
    · simp_all

/-- The `OR` member of a level, under a map that each operand and the
disjunction commute with. -/
theorem orPart_map {top : α} {top' : β} {disj : List α → α} {disj' : List β → β}
    (htop : φ top = top') (hdisj : ∀ xs, φ (disj xs) = disj' (xs.map φ))
    (hsub : ∀ items, Value.lookup? es "OR" = some items → ∀ v ∈ items.asItems,
      ∀ {p?}, sub v = .ok p? → sub' v = .ok (p?.map φ))
    {ps : List α} (h : orPart sub top disj es = .ok ps) :
    orPart sub' top' disj' es = .ok (ps.map φ) := by
  unfold orPart at h ⊢
  cases hO : Value.lookup? es "OR" with
  | none => simp_all
  | some items =>
    simp only [hO] at h ⊢
    split_ifs at h ⊢
    · obtain ⟨qs, hqs, rfl⟩ := Outcome.map_eq_ok.mp h
      rw [Outcome.mapM_ok_map (Option.map φ) (fun v hv _ => hsub items hO v hv) hqs]
      simp [hdisj, ← htop, Function.comp_def, Option.getD_map]
    · simp_all

/-- The `NOT` member of a level, under a map that its operand and negation
commute with. -/
theorem notPart_map {neg : α → α} {neg' : β → β} (hneg : ∀ a, φ (neg a) = neg' (φ a))
    (hsub : ∀ item, Value.lookup? es "NOT" = some item →
      ∀ {p?}, sub item = .ok p? → sub' item = .ok (p?.map φ))
    {ps : List α} (h : notPart sub neg es = .ok ps) : notPart sub' neg' es = .ok (ps.map φ) := by
  unfold notPart at h ⊢
  cases hN : Value.lookup? es "NOT" with
  | none => simp_all
  | some item =>
    simp only [hN] at h ⊢
    split_ifs at h ⊢
    · obtain ⟨q?, hq, rfl⟩ := Outcome.map_eq_ok.mp h
      rw [hsub item hN hq]
      cases q? <;> simp [hneg]
    · simp_all

end Parts

/-- Every level compiles to what it means. -/
theorem level_meaning {t : Table} (v : Value) {p? : Option Predicate}
    (h : level reg t v = .ok p?) :
    levelMeaning reg t env (storedReading env) v = .ok (p?.map (·.eval env)) := by
  induction v using level.induct generalizing p? with
  | case1 es hempty =>
    -- an empty level gives nothing
    rw [level.eq_1, if_pos hempty] at h
    cases h
    rw [List.isEmpty_iff] at hempty
    subst hempty
    simp [levelMeaning_dict, andPart, orPart, notPart, Value.lookup?]
  | case2 es hne ihNot ihOr ihAnd =>
    -- the members, each part carried over by `Predicate.eval`
    rw [level_dict reg t (by simpa using hne)] at h
    simp only [Outcome.bind_eq_ok, Outcome.pure_eq_ok] at h
    obtain ⟨columns, hcols, conjuncts, hand, alternatives, hor, negation, hnot, rfl⟩ := h
    rw [levelMeaning_dict, columns_meaning env hcols,
      andPart_map (·.eval env) ihAnd hand,
      orPart_map (·.eval env) (show (Predicate.const true).eval env = some true from rfl)
        (Predicate.eval_disj env) ihOr hor,
      notPart_map (·.eval env) (Predicate.eval_negate env) ihNot hnot]
    simp [eval_conjunctionOf]
  | case3 v hv htruthy =>
    -- a truthy value that is not an object is refused
    rw [level_not_dict reg t hv, if_pos htruthy] at h
    cases h
  | case4 v hv hfalsy =>
    -- a falsy one gives nothing
    rw [level_not_dict reg t hv, if_neg hfalsy] at h
    cases h
    rw [levelMeaning_not_dict hv]
    rfl

/-- Whenever the compiler accepts a filter, the predicate it returns has, on
every row, the truth of the filter's meaning, all three values included. -/
theorem compile_eval {t : Table} {filter : Value} {p : Predicate}
    (h : compile reg t filter = .ok p) :
    meaning reg t env (storedReading env) filter = .ok (p.eval env) := by
  unfold compile at h
  obtain ⟨p?, hp?, rfl⟩ := by simpa using h
  unfold meaning
  rw [level_meaning env filter hp?]
  cases p? <;> rfl

end Simulation

/-- A JSON column, as the blog models keep post metadata. -/
def jsonColumn : Column :=
  { name := "metadata_json", table := "posts", tag := "json", columnType := "JSON" }

/-- A table of that one column. -/
def jsonTable : Table := { name := "posts", columns := [jsonColumn] }

/-- The filter `{metadata_json: {eq: "null"}}`: the JSON text `null`. -/
def jsonNullFilter : Value := .dict [("metadata_json", .dict [("eq", .str "null")])]

/-- A row on which every column is null. -/
def nullRow : RowEnv where
  compare _ _ _ := none
  like _ _ _ := none
  member _ _ := none
  null _ := true
  compare_negate _ _ _ := rfl

/-- On a row where the column is null, the JSON text `null` under `eq`
means TRUE: storage reads it as the null test. -/
theorem meaning_jsonNullFilter :
    meaning {} jsonTable nullRow (storedReading nullRow) jsonNullFilter = .ok (some true) :=
  compile_eval nullRow
    (show compile {} jsonTable jsonNullFilter = .ok (.isNull jsonColumn false) by cbv)

/-- Plain SQL would read the same filter as UNKNOWN on that row, while the
compiled predicate holds there. -/
theorem compile_json_null_sql :
    compile {} jsonTable jsonNullFilter = .ok (.isNull jsonColumn false) ∧
      (Predicate.isNull jsonColumn false).eval nullRow = some true ∧
      meaning {} jsonTable nullRow (sqlReading nullRow) jsonNullFilter = .ok none :=
  ⟨by cbv, rfl, by cbv⟩

end Filter

end TableGraph
