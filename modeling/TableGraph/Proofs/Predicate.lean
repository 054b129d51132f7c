import TableGraph.Store.Table

/-!
# What a predicate means on a row

A `Predicate` is read on one row in three-valued logic: every part is true,
false or unknown (`none`). Conjunctions and disjunctions combine their parts
as SQL does — a false part makes a conjunction false whatever the others are,
a true part makes a disjunction true — and a negation flips a known truth and
keeps an unknown one.

The leaves are answered by a `RowEnv`: how the row's cell in a column
compares with an operand, matches a pattern, equals one of a list of values,
or is null. Every row obeys one law: the opposite comparison operator (`=`
and `!=`, `<` and `>=`, `<=` and `>`) gives the opposite answer, unknown
staying unknown. `NOT LIKE`, `NOT IN` and `IS NOT NULL` are read as the
negations of `LIKE`, `IN` and `IS NULL`.

## Main results

* `Predicate.eval_negate` — `Predicate.negate` denotes the negation of its
  operand, although it pushes the negation into a leaf by the opposite
  operator and turns a constant into the other constant.
* `Predicate.eval_conj`, `Predicate.eval_disj` — the folding constructors
  denote the plain conjunction and disjunction of their parts: the neutral
  constant is dropped, the absorbing one decides, nested lists of the same
  connective are spliced in, and a lone part stands for itself.
-/

namespace TableGraph

open Store

/-! ## Three-valued connectives over lists -/

namespace Store.Truth

/-- The negation of a three-valued truth. -/
def neg (t : Truth) : Truth := t.map (!·)

/-- The conjunction of a list of truths: true when it is empty. -/
def all (ts : List Truth) : Truth := ts.foldr conj (some true)

/-- The disjunction of a list of truths: false when it is empty. -/
def any (ts : List Truth) : Truth := ts.foldr disj (some false)

theorem conj_assoc (a b c : Truth) : conj (conj a b) c = conj a (conj b c) := by
  rcases a with _ | _ | _ <;> rcases b with _ | _ | _ <;> rcases c with _ | _ | _ <;> rfl

theorem disj_assoc (a b c : Truth) : disj (disj a b) c = disj a (disj b c) := by
  rcases a with _ | _ | _ <;> rcases b with _ | _ | _ <;> rcases c with _ | _ | _ <;> rfl

@[simp] theorem conj_true (a : Truth) : conj a (some true) = a := by
  rcases a with _ | _ | _ <;> rfl

@[simp] theorem true_conj (a : Truth) : conj (some true) a = a := by
  rcases a with _ | _ | _ <;> rfl

@[simp] theorem disj_false (a : Truth) : disj a (some false) = a := by
  rcases a with _ | _ | _ <;> rfl

@[simp] theorem false_disj (a : Truth) : disj (some false) a = a := by
  rcases a with _ | _ | _ <;> rfl

@[simp] theorem false_conj (a : Truth) : conj (some false) a = some false := by
  rcases a with _ | _ | _ <;> rfl

@[simp] theorem true_disj (a : Truth) : disj (some true) a = some true := by
  rcases a with _ | _ | _ <;> rfl

@[simp] theorem all_nil : all [] = some true := rfl

@[simp] theorem all_cons (t : Truth) (ts : List Truth) : all (t :: ts) = conj t (all ts) := rfl

@[simp] theorem any_nil : any [] = some false := rfl

@[simp] theorem any_cons (t : Truth) (ts : List Truth) : any (t :: ts) = disj t (any ts) := rfl

theorem all_append (xs ys : List Truth) : all (xs ++ ys) = conj (all xs) (all ys) := by
  induction xs with
  | nil => simp
  | cons x xs ih => simp [ih, conj_assoc]

theorem any_append (xs ys : List Truth) : any (xs ++ ys) = disj (any xs) (any ys) := by
  induction xs with
  | nil => simp
  | cons x xs ih => simp [ih, disj_assoc]

theorem conj_comm (a b : Truth) : conj a b = conj b a := by
  rcases a with _ | _ | _ <;> rcases b with _ | _ | _ <;> rfl

/-- The conjunction of truths does not depend on their order. -/
theorem all_perm {xs ys : List Truth} (h : xs.Perm ys) : all xs = all ys := by
  induction h with
  | nil => rfl
  | cons x _ ih => simp [ih]
  | swap x y l => simp only [all_cons, ← conj_assoc, conj_comm x y]
  | trans _ _ ih₁ ih₂ => exact ih₁.trans ih₂

/-- A known false part makes a conjunction false. -/
theorem all_eq_false {ts : List Truth} (h : some false ∈ ts) : all ts = some false := by
  induction ts with
  | nil => simp at h
  | cons t ts ih =>
      rcases List.mem_cons.mp h with rfl | h
      · simp
      · rw [all_cons, ih h]
        rcases t with _ | _ | _ <;> rfl

/-- A known true part makes a disjunction true. -/
theorem any_eq_true {ts : List Truth} (h : some true ∈ ts) : any ts = some true := by
  induction ts with
  | nil => simp at h
  | cons t ts ih =>
      rcases List.mem_cons.mp h with rfl | h
      · simp
      · rw [any_cons, ih h]
        rcases t with _ | _ | _ <;> rfl

/-- Dropping parts that are known true keeps a conjunction. -/
theorem all_map_filter {α : Type} {xs : List α} {f : α → Truth} {keep : α → Bool}
    (h : ∀ x ∈ xs, keep x = false → f x = some true) :
    all ((xs.filter keep).map f) = all (xs.map f) := by
  induction xs with
  | nil => rfl
  | cons x xs ih =>
      have hrest := ih fun x' hx' => h x' (List.mem_cons_of_mem _ hx')
      by_cases hk : keep x = true
      · simp [hk, hrest]
      · have hx : f x = some true := h x (by simp) (by simpa using hk)
        simp [hk, hrest, hx]

/-- Dropping parts that are known false keeps a disjunction. -/
theorem any_map_filter {α : Type} {xs : List α} {f : α → Truth} {keep : α → Bool}
    (h : ∀ x ∈ xs, keep x = false → f x = some false) :
    any ((xs.filter keep).map f) = any (xs.map f) := by
  induction xs with
  | nil => rfl
  | cons x xs ih =>
      have hrest := ih fun x' hx' => h x' (List.mem_cons_of_mem _ hx')
      by_cases hk : keep x = true
      · simp [hk, hrest]
      · have hx : f x = some false := h x (by simp) (by simpa using hk)
        simp [hk, hrest, hx]

end Store.Truth

/-! ## Rows and the meaning of predicates -/

/-- What one row answers to the leaves of a predicate. -/
structure RowEnv where
  /-- How the row's cell in a column compares with an operand. -/
  compare : Column → Comparison → Operand → Truth
  /-- Whether the cell matches a pattern, ignoring case when asked. -/
  like : Column → Value → Bool → Truth
  /-- Whether the cell equals one of the values. -/
  member : Column → List Value → Truth
  /-- Whether the cell is null. -/
  null : Column → Bool
  /-- The opposite operator gives the opposite answer. -/
  compare_negate : ∀ c op rhs, compare c op.negate rhs = Truth.neg (compare c op rhs)

namespace Predicate

mutual

/-- The truth of a predicate on a row. -/
def eval (env : RowEnv) : Predicate → Truth
  | .const b => some b
  | .test b => some b
  | .compare c op rhs => env.compare c op rhs
  | .like c p caseless negated => (env.like c p caseless).map (· != negated)
  | .oneOf c vs negated => (env.member c vs).map (· != negated)
  | .isNull c negated => some (env.null c != negated)
  | .all ps => evalAll env ps
  | .any ps => evalAny env ps
  | .not p => Truth.neg (eval env p)

/-- The truth of a conjunction of predicates. -/
def evalAll (env : RowEnv) : List Predicate → Truth
  | [] => some true
  | p :: ps => Truth.conj (eval env p) (evalAll env ps)

/-- The truth of a disjunction of predicates. -/
def evalAny (env : RowEnv) : List Predicate → Truth
  | [] => some false
  | p :: ps => Truth.disj (eval env p) (evalAny env ps)

end

variable (env : RowEnv)

theorem evalAll_eq (ps : List Predicate) : evalAll env ps = Truth.all (ps.map (eval env)) := by
  induction ps with
  | nil => rfl
  | cons p ps ih => simp [evalAll, ih]

theorem evalAny_eq (ps : List Predicate) : evalAny env ps = Truth.any (ps.map (eval env)) := by
  induction ps with
  | nil => rfl
  | cons p ps ih => simp [evalAny, ih]

@[simp] theorem eval_all (ps : List Predicate) :
    (Predicate.all ps).eval env = Truth.all (ps.map (eval env)) := by
  simp [eval, evalAll_eq]

@[simp] theorem eval_any (ps : List Predicate) :
    (Predicate.any ps).eval env = Truth.any (ps.map (eval env)) := by
  simp [eval, evalAny_eq]

@[simp] theorem eval_not (p : Predicate) : (Predicate.not p).eval env = Truth.neg (p.eval env) := by
  simp [eval]

/-- Flipping the negation flag of a leaf flips its truth. -/
private theorem map_bne_not (t : Truth) (negated : Bool) :
    t.map (· != !negated) = Truth.neg (t.map (· != negated)) := by
  rcases t with _ | _ | _ <;> cases negated <;> rfl

/-- `negate` denotes the negation: an operator by its opposite, a negated
leaf by the plain one, a constant by the other constant, and anything else
by `NOT`. -/
theorem eval_negate (p : Predicate) : (negate p).eval env = Truth.neg (p.eval env) := by
  cases p with
  | const b => cases b <;> rfl
  | test b => cases b <;> rfl
  | compare c op rhs => exact env.compare_negate c op rhs
  | like c pat caseless negated => exact map_bne_not _ negated
  | oneOf c vs negated => exact map_bne_not _ negated
  | isNull c negated =>
      simp only [negate, eval, Truth.neg, Option.map_some]
      cases negated <;> simp
  | all ps => rfl
  | any ps => rfl
  | not p => rfl

/-- Splicing nested conjunctions in keeps the conjunction. -/
theorem eval_conjuncts (ps : List Predicate) :
    Truth.all ((conjuncts ps).map (eval env)) = Truth.all (ps.map (eval env)) := by
  induction ps with
  | nil => rfl
  | cons p ps ih =>
      -- a nested conjunction contributes its parts, any other part itself
      cases p <;> simp_all [conjuncts, List.flatMap_cons, Truth.all_append]

/-- Splicing nested disjunctions in keeps the disjunction. -/
theorem eval_disjuncts (ps : List Predicate) :
    Truth.any ((disjuncts ps).map (eval env)) = Truth.any (ps.map (eval env)) := by
  induction ps with
  | nil => rfl
  | cons p ps ih =>
      -- a nested disjunction contributes its parts, any other part itself
      cases p <;> simp_all [disjuncts, List.flatMap_cons, Truth.any_append]

theorem eval_of_isConst {b : Bool} {p : Predicate} (h : isConst b p = true) : p.eval env = some b := by
  cases p <;> simp_all [isConst, eval]

/-- The folding conjunction denotes the plain conjunction of its parts. -/
theorem eval_conj (ps : List Predicate) : (conj ps).eval env = Truth.all (ps.map (eval env)) := by
  -- the parts known true are dropped before the lone part or the splice is taken
  have hkept : Truth.all ((ps.filter fun p => !isConst true p).map (eval env)) =
      Truth.all (ps.map (eval env)) :=
    Truth.all_map_filter fun p _ hk => eval_of_isConst env (by simpa using hk)
  unfold conj
  split
  · rename_i hfalse
    obtain ⟨p, hp, hc⟩ := List.any_eq_true.mp hfalse
    rw [Truth.all_eq_false (List.mem_map.mpr ⟨p, hp, eval_of_isConst env hc⟩)]
    rfl
  · split
    · rename_i hnil
      rw [← hkept, hnil]
      rfl
    · rename_i p hone
      rw [← hkept, hone]
      simp
    · rw [eval_all, eval_conjuncts, hkept]

/-- The folding disjunction denotes the plain disjunction of its parts. -/
theorem eval_disj (ps : List Predicate) : (disj ps).eval env = Truth.any (ps.map (eval env)) := by
  -- the parts known false are dropped before the lone part or the splice is taken
  have hkept : Truth.any ((ps.filter fun p => !isConst false p).map (eval env)) =
      Truth.any (ps.map (eval env)) :=
    Truth.any_map_filter fun p _ hk => eval_of_isConst env (by simpa using hk)
  unfold disj
  split
  · rename_i htrue
    obtain ⟨p, hp, hc⟩ := List.any_eq_true.mp htrue
    rw [Truth.any_eq_true (List.mem_map.mpr ⟨p, hp, eval_of_isConst env hc⟩)]
    rfl
  · split
    · rename_i hnil
      rw [← hkept, hnil]
      rfl
    · rename_i p hone
      rw [← hkept, hone]
      simp
    · rw [eval_any, eval_disjuncts, hkept]

end Predicate

end TableGraph
