import Mathlib
import TableGraph.Query.Spec
import TableGraph.Proofs.FilterMeaning
import TableGraph.Proofs.RoundTrip
import TableGraph.Proofs.Conversions

/-!
# One argument in two forms

A root field reads its arguments coerced: keys are attribute names, numbers
are numbers, an enumeration value is its value, and a single object given
for a list is a list of one. A nested relation field reads them as written:
keys are field names, numbers are their text, an enumeration value is its
name, and members stand in the order they are written. This module says
when the two forms compile alike.

* `Filter.SameLevel` relates two forms of a filter: the same members in any
  order and under any of their names, combinators equally truthy, and each
  operand in two forms that its operator reads alike (`Filter.SameOperand`).
* `Filter.compile_agree`: two such filters both fail to compile, or compile
  to predicates with the same truth on every row. The failures need not be
  the same, since each form reports the first faulty member in its own order.

The proof follows the compiler. A step over the members of a level or over
the operators of an entry only appends, so each walk is the flattening of
a `mapM` (`Outcome.foldlM_eq_flatten`); related members give predicates with
the same truths (`Predicate.SameTruths`), and a permutation of the members
permutes them.
-/

namespace TableGraph

open Store Outcome

namespace Value

/-- In an object without repeated keys, a key finds the one value it holds. -/
theorem lookup?_eq_some_iff {es : List (String × Value)} (hnd : (es.map (·.1)).Nodup)
    {k : String} {v : Value} : lookup? es k = some v ↔ (k, v) ∈ es := by
  induction es with
  | nil => simp [lookup?]
  | cons e es ih =>
    obtain ⟨k', v'⟩ := e
    simp only [List.map_cons, List.nodup_cons] at hnd
    by_cases hk : k' = k
    · subst hk
      have hfresh : (k', v) ∉ es := fun hm => hnd.1 (List.mem_map_of_mem (f := (·.1)) hm)
      simp [lookup?, hfresh, eq_comm]
    · have hne : (k, v) ≠ (k', v') := fun h => hk (congrArg Prod.fst h).symm
      simpa [lookup?, hk, hne] using ih hnd.2

/-- An object without repeated keys answers a lookup whatever the order of
its members. -/
theorem lookup?_perm {es es' : List (String × Value)} (hp : es.Perm es')
    (hnd : (es'.map (·.1)).Nodup) (k : String) : lookup? es k = lookup? es' k := by
  have hnd₁ : (es.map (·.1)).Nodup := (hp.map _).nodup_iff.mpr hnd
  apply Option.ext
  intro v
  rw [lookup?_eq_some_iff hnd₁, lookup?_eq_some_iff hnd, hp.mem_iff]

/-- Two objects whose members are related one by one, by a relation that
agrees on whether a member has the key, find related values under it. -/
theorem lookup?_forall₂ {R : String × Value → String × Value → Prop}
    {es es₁ : List (String × Value)} {k : String} (h : List.Forall₂ R es es₁)
    (hk : ∀ a b, R a b → (a.1 = k ↔ b.1 = k)) :
    Option.Rel (fun v v' => R (k, v) (k, v')) (lookup? es k) (lookup? es₁ k) := by
  induction h with
  | nil => exact .none
  | @cons a b _ _ hab _ ih =>
    obtain ⟨ka, va⟩ := a
    obtain ⟨kb, vb⟩ := b
    by_cases hka : ka = k
    · have hkb : kb = k := (hk _ _ hab).mp hka
      subst hka hkb
      simpa [lookup?] using hab
    · have hkb : kb ≠ k := fun h => hka ((hk _ _ hab).mpr h)
      simpa [lookup?, hka, hkb] using ih

/-- The same, when the second object is then reordered. -/
theorem lookup?_rel {R : String × Value → String × Value → Prop}
    {es es₁ es' : List (String × Value)} {k : String} (h : List.Forall₂ R es es₁)
    (hp : es₁.Perm es') (hnd : (es'.map (·.1)).Nodup) (hk : ∀ a b, R a b → (a.1 = k ↔ b.1 = k)) :
    Option.Rel (fun v v' => R (k, v) (k, v')) (lookup? es k) (lookup? es' k) := by
  rw [← lookup?_perm hp hnd k]
  exact lookup?_forall₂ h hk

end Value

namespace Predicate

/-- Two predicates with the same truth on every row. -/
def Equivalent (p q : Predicate) : Prop := ∀ env, p.eval env = q.eval env

/-- Two lists of predicates with the same truths on every row, up to order. -/
def SameTruths (ps qs : List Predicate) : Prop :=
  ∀ env, (ps.map (eval env)).Perm (qs.map (eval env))

namespace SameTruths

variable {ps qs rs ps' qs' : List Predicate}

theorem refl (ps : List Predicate) : SameTruths ps ps := fun _ => .refl _

theorem trans (h₁ : SameTruths ps qs) (h₂ : SameTruths qs rs) : SameTruths ps rs :=
  fun env => (h₁ env).trans (h₂ env)

theorem append (h : SameTruths ps qs) (h' : SameTruths ps' qs') :
    SameTruths (ps ++ ps') (qs ++ qs') := fun env => by
  simpa using (h env).append (h' env)

theorem of_perm (h : ps.Perm qs) : SameTruths ps qs := fun _ => h.map _

theorem map_eval_eq (h : List.Forall₂ Equivalent ps qs) (env : RowEnv) :
    ps.map (eval env) = qs.map (eval env) := by
  induction h with
  | nil => rfl
  | cons hpq _ ih => simp [hpq env, ih]

theorem of_forall₂ (h : List.Forall₂ Equivalent ps qs) : SameTruths ps qs := fun env => by
  rw [map_eval_eq h env]

theorem flatten {pss qss : List (List Predicate)} (h : List.Forall₂ SameTruths pss qss) :
    SameTruths pss.flatten qss.flatten := by
  induction h with
  | nil => exact refl []
  | cons hpq _ ih => simpa using hpq.append ih

theorem length_eq (h : SameTruths ps qs) : ps.length = qs.length := by
  simpa using (h Filter.nullRow).length_eq

theorem all_eq (h : SameTruths ps qs) (env : RowEnv) :
    Truth.all (ps.map (eval env)) = Truth.all (qs.map (eval env)) :=
  Truth.all_perm (h env)

end SameTruths

end Predicate

namespace Filter

open Predicate (Equivalent SameTruths)

theorem isEmpty_eq_of_length_eq {α β : Type} {xs : List α} {ys : List β}
    (h : xs.length = ys.length) : xs.isEmpty = ys.isEmpty := by
  rw [Bool.eq_iff_iff, List.isEmpty_iff_length_eq_zero, List.isEmpty_iff_length_eq_zero, h]

/-- Conjoining predicates with the same truths gives nothing on both sides,
or equivalent predicates. -/
theorem conjunctionOf_rel {ps qs : List Predicate} (h : SameTruths ps qs) :
    Option.Rel Equivalent (conjunctionOf ps) (conjunctionOf qs) := by
  have hlen : ps.isEmpty = qs.isEmpty := isEmpty_eq_of_length_eq h.length_eq
  have hmap : ∀ env, (conjunctionOf ps).map (·.eval env) = (conjunctionOf qs).map (·.eval env) := by
    intro env
    rw [eval_conjunctionOf, eval_conjunctionOf, h.all_eq env, hlen]
  cases hp : conjunctionOf ps <;> cases hq : conjunctionOf qs
  case none.none => exact .none
  case some.some p q => exact .some fun env => by simpa [hp, hq] using hmap env
  all_goals simpa [hp, hq] using hmap nullRow

theorem relPerm_flatten {pss qss : List (List Predicate)} (h : RelPerm SameTruths pss qss) :
    SameTruths pss.flatten qss.flatten := by
  obtain ⟨qss₁, h₁, h₂⟩ := h
  exact (SameTruths.flatten h₁).trans (SameTruths.of_perm h₂.flatten)

theorem ofKey?_OR : FilterOperator.ofKey? "OR" = none := by cbv

/-! ### The two forms -/

/-- An operand in two forms that its operator reads alike: null in both or
in neither, and giving the same predicate. -/
def SameOperand (reg : Registry) (c : Column) (op : FilterOperator) (w w' : Value) : Prop :=
  (w = .none ↔ w' = .none) ∧ op.predicate reg c w = op.predicate reg c w'

mutual

/-- Two forms of a column entry: objects with related members, in any order,
the second without repeated keys; or two values that are not objects and
are equally truthy. -/
inductive SameEntry (reg : Registry) (c : Column) : Value → Value → Prop
  | dict {es es₁ es' : List (String × Value)} :
      List.Forall₂ (SameEntryMember reg c) es es₁ → es₁.Perm es' → (es'.map (·.1)).Nodup →
      SameEntry reg c (.dict es) (.dict es')
  | other {v v' : Value} : (∀ es, v ≠ .dict es) → (∀ es, v' ≠ .dict es) →
      v.truthy = v'.truthy → SameEntry reg c v v'

/-- Two forms of a member of a column entry: one operator under any of its
names with its operand in two forms it reads alike, or the `OR` list of
alternatives, equally truthy, with the alternatives in the same order. -/
inductive SameEntryMember (reg : Registry) (c : Column) : String × Value → String × Value → Prop
  | operator {raw raw' : String} {op : FilterOperator} {w w' : Value} :
      FilterOperator.ofKey? raw = some op → FilterOperator.ofKey? raw' = some op →
      SameOperand reg c op w w' → SameEntryMember reg c (raw, w) (raw', w')
  | alternatives {v v' : Value} : v.truthy = v'.truthy →
      List.Forall₂ (SameEntry reg c) v.asItems v'.asItems →
      SameEntryMember reg c ("OR", v) ("OR", v')

end

mutual

/-- Two forms of one level of a filter: objects with related members, in any
order, the second without repeated keys; or two values that are not
objects and are equally truthy. -/
inductive SameLevel (reg : Registry) (t : Table) : Value → Value → Prop
  | dict {es es₁ es' : List (String × Value)} :
      List.Forall₂ (SameMember reg t) es es₁ → es₁.Perm es' → (es'.map (·.1)).Nodup →
      SameLevel reg t (.dict es) (.dict es')
  | other {v v' : Value} : (∀ es, v ≠ .dict es) → (∀ es, v' ≠ .dict es) →
      v.truthy = v'.truthy → SameLevel reg t v v'

/-- Two forms of a member of a level: one column under any of its keys, null
in both forms or in neither; or one combinator, equally truthy, with its
operands in the same order. -/
inductive SameMember (reg : Registry) (t : Table) : String × Value → String × Value → Prop
  | column {key key' : String} {c : Column} {v v' : Value} :
      isCombinator key = false → isCombinator key' = false →
      t.columnFor? key = some c → t.columnFor? key' = some c →
      (v = .none ↔ v' = .none) → SameEntry reg c v v' → SameMember reg t (key, v) (key', v')
  | conj {v v' : Value} : v.truthy = v'.truthy →
      List.Forall₂ (SameLevel reg t) v.asItems v'.asItems →
      SameMember reg t ("AND", v) ("AND", v')
  | disj {v v' : Value} : v.truthy = v'.truthy →
      List.Forall₂ (SameLevel reg t) v.asItems v'.asItems →
      SameMember reg t ("OR", v) ("OR", v')
  | neg {v v' : Value} : v.truthy = v'.truthy → SameLevel reg t v v' →
      SameMember reg t ("NOT", v) ("NOT", v')

end

section Entries

variable {reg : Registry} {c : Column}

theorem SameEntryMember.key_iff {a b : String × Value} (h : SameEntryMember reg c a b) :
    a.1 = "OR" ↔ b.1 = "OR" := by
  cases h with
  | operator hop hop' _ =>
    have hraw : ∀ {raw op}, FilterOperator.ofKey? raw = some op → raw ≠ "OR" := by
      rintro raw op h rfl
      simp [ofKey?_OR] at h
    simp [hraw hop, hraw hop']
  | alternatives => exact Iff.rfl

theorem SameEntryMember.or_inv {v v' : Value} (h : SameEntryMember reg c ("OR", v) ("OR", v')) :
    v.truthy = v'.truthy ∧ List.Forall₂ (SameEntry reg c) v.asItems v'.asItems := by
  cases h with
  | operator hop => simp [ofKey?_OR] at hop
  | alternatives ht hs => exact ⟨ht, hs⟩

theorem SameEntry.truthy_eq {v v' : Value} (h : SameEntry reg c v v') : v.truthy = v'.truthy := by
  cases h with
  | dict h₁ hp _ =>
    simp only [Value.truthy, isEmpty_eq_of_length_eq (h₁.length_eq.trans hp.length_eq)]
  | other _ _ ht => exact ht

/-- The operator members of two forms of an entry, each operand null in both
forms or in neither, say alike whether some operand is not null. -/
theorem any_operand_eq {F : String × Value → Bool} (hF : ∀ e, F e = !(e.2 matches .none))
    {es es' : List (String × Value)} (h : List.Forall₂ (SameEntryMember reg c) es es')
    (hop : ∀ e ∈ es, e.1 ≠ "OR") : es.any F = es'.any F := by
  induction h with
  | nil => rfl
  | @cons a b _ _ hab _ ih =>
    have hnull : (a.2 = .none ↔ b.2 = .none) := by
      cases hab with
      | operator _ _ hw => exact hw.1
      | alternatives => exact absurd rfl (hop _ (List.mem_cons_self ..))
    have hab : F a = F b := by
      rw [hF a, hF b]
      by_cases ha : a.2 = .none
      · rw [ha, hnull.mp ha]
      · have hb : b.2 ≠ .none := mt hnull.mpr ha
        split <;> simp_all
    rw [List.any_cons, List.any_cons, hab, ih fun e he => hop e (List.mem_cons_of_mem _ he)]

theorem operatorMember_append (out : List Predicate) (e : String × Value) :
    operatorMember reg c out e = (out ++ ·) <$> operatorMember reg c [] e := by
  obtain ⟨raw, w⟩ := e
  cases hop : FilterOperator.ofKey? raw with
  | none => simp only [operatorMember, hop]; rfl
  | some op =>
    by_cases hw : w = .none
    · subst hw
      rw [operatorMember_null hop, operatorMember_null hop]
      simp [pure, Except.pure, Functor.map, Except.map]
    · rw [operatorMember_operator hop hw, operatorMember_operator hop hw]
      cases op.predicate reg c w <;> simp [Functor.map, Except.map]

/-- The operators of two forms of an entry, the second reordered, compile
alike: they all name operators, and related operators compile to the same
predicates. -/
theorem operatorPredicates_agree {es es₁ es' : List (String × Value)}
    (h : List.Forall₂ (SameEntryMember reg c) es es₁) (hp : es₁.Perm es')
    (hop : ∀ e ∈ es, e.1 ≠ "OR") :
    Agree SameTruths (operatorPredicates reg c es) (operatorPredicates reg c es') := by
  rw [operatorPredicates_eq, operatorPredicates_eq,
    foldlM_eq_flatten operatorMember_append, foldlM_eq_flatten operatorMember_append]
  refine Agree.map (mapM_agree_perm ?_ hp) fun _ _ h => by simpa using relPerm_flatten h
  -- one operator at a time: the same predicate, or nothing, on both sides
  refine ((List.forall₂_and_left _ _).mpr ⟨hop, h⟩).imp fun a b ⟨ha, hab⟩ => ?_
  cases hab with
  | @operator _ _ _ w w' hop₁ hop₂ hw =>
    by_cases hnull : w = .none
    · subst hnull
      rw [hw.1.mp rfl, operatorMember_null hop₁, operatorMember_null hop₂]
      exact agree_pure (SameTruths.refl [])
    · rw [operatorMember_operator hop₁ hnull, operatorMember_operator hop₂ (mt hw.1.mpr hnull), hw.2]
      exact agree_refl SameTruths.refl _
  | alternatives => exact absurd rfl ha

/-- A value that is not an object is refused as a column entry. -/
theorem columnPredicates_not_dict {key : String} {v : Value} (hv : ∀ es, v ≠ .dict es) :
    columnPredicates reg c key v =
      .error (.validation ("Filter for column '" ++ key ++ "' must be an object of operators")) := by
  rw [columnPredicates.eq_def]
  split
  · exact absurd rfl (hv _)
  · rfl

theorem SameEntry.dict_inv {es : List (String × Value)} {v' : Value}
    (h : SameEntry reg c (.dict es) v') :
    ∃ es₁ es', List.Forall₂ (SameEntryMember reg c) es es₁ ∧ es₁.Perm es' ∧
      (es'.map (·.1)).Nodup ∧ v' = .dict es' := by
  cases h with
  | dict h₁ hp hnd => exact ⟨_, _, h₁, hp, hnd, rfl⟩
  | other hv => exact absurd rfl (hv es)

theorem rel_some_left {α β : Type} {r : α → β → Prop} {a : α} {y : Option β}
    (h : Option.Rel r (some a) y) : ∃ b, y = some b ∧ r a b := by
  cases h with
  | some hab => exact ⟨_, rfl, hab⟩

theorem rel_none_left {α β : Type} {r : α → β → Prop} {y : Option β}
    (h : Option.Rel r none y) : y = none := by
  cases h
  rfl

/-- Two forms of an entry hold `OR` lists alike: both absent, or both present,
equally truthy and with related alternatives. -/
theorem lookup_or {es es₁ es' : List (String × Value)}
    (h : List.Forall₂ (SameEntryMember reg c) es es₁) (hp : es₁.Perm es')
    (hnd : (es'.map (·.1)).Nodup) :
    Option.Rel (fun v v' => v.truthy = v'.truthy ∧ List.Forall₂ (SameEntry reg c) v.asItems v'.asItems)
      (Value.lookup? es "OR") (Value.lookup? es' "OR") := by
  have hrel := Value.lookup?_rel h hp hnd fun _ _ hab => hab.key_iff
  generalize Value.lookup? es "OR" = o at hrel ⊢
  generalize Value.lookup? es' "OR" = o' at hrel ⊢
  cases hrel with
  | none => exact .none
  | some hab => exact .some hab.or_inv

/-- The second form of an entry with an `OR` list: an object whose members are
related to the first's and then reordered, with a related `OR` list. -/
theorem SameEntry.or_inv {es : List (String × Value)} {v' variants : Value}
    (h : SameEntry reg c (.dict es) v') (hOr : Value.lookup? es "OR" = some variants) :
    ∃ es₁ es' variants', List.Forall₂ (SameEntryMember reg c) es es₁ ∧ es₁.Perm es' ∧
      v' = .dict es' ∧ Value.lookup? es' "OR" = some variants' ∧
      variants.truthy = variants'.truthy ∧
      List.Forall₂ (SameEntry reg c) variants.asItems variants'.asItems := by
  obtain ⟨es₁, es', h₁, hp, hnd, rfl⟩ := h.dict_inv
  have hrel := lookup_or h₁ hp hnd
  rw [hOr] at hrel
  obtain ⟨variants', hOr', ht, hs⟩ := rel_some_left hrel
  exact ⟨es₁, es', variants', h₁, hp, rfl, hOr', ht, hs⟩

/-- The members of two forms of an entry other than `OR` are related one by
one and then reordered. -/
theorem forall₂_filter_or {es es₁ : List (String × Value)}
    (h : List.Forall₂ (SameEntryMember reg c) es es₁) :
    List.Forall₂ (SameEntryMember reg c) (es.filter (·.1 != "OR")) (es₁.filter (·.1 != "OR")) :=
  List.rel_filter (fun _ _ hab => by simp [hab.key_iff]) h

theorem not_or_of_mem_filter {es : List (String × Value)} :
    ∀ e ∈ es.filter (·.1 != "OR"), e.1 ≠ "OR" := by
  intro e he
  simpa using (List.mem_filter.mp he).2

theorem not_key_of_lookup?_eq_none {es : List (String × Value)} {k : String}
    (h : Value.lookup? es k = none) : ∀ e ∈ es, e.1 ≠ k := by
  intro e he hk
  simp only [Value.lookup?, Option.map_eq_none_iff, List.find?_eq_none] at h
  simpa [hk] using h e he

/-- Alternatives with the same truths give, on both sides, nothing or one
disjunction with the same truth. -/
theorem disjunction_sameTruths {alts alts' : List (List Predicate)}
    (h : List.Forall₂ SameTruths alts alts') :
    Agree SameTruths
      (match alts.filterMap conjunctionOf with
        | [] => (pure [] : Outcome (List Predicate))
        | ps => pure [Predicate.disj ps])
      (match alts'.filterMap conjunctionOf with
        | [] => pure []
        | ps => pure [Predicate.disj ps]) := by
  have hf : List.Forall₂ Equivalent (alts.filterMap conjunctionOf) (alts'.filterMap conjunctionOf) :=
    List.rel_filterMap (fun _ _ hab => conjunctionOf_rel hab) h
  generalize alts.filterMap conjunctionOf = fs at hf ⊢
  generalize alts'.filterMap conjunctionOf = gs at hf ⊢
  cases hf with
  | nil => exact agree_pure (SameTruths.refl [])
  | cons hfg hrest =>
    refine agree_pure (SameTruths.of_forall₂ (.cons (fun env => ?_) .nil))
    rw [Predicate.eval_disj, Predicate.eval_disj, SameTruths.map_eval_eq (.cons hfg hrest) env]

/-- Two forms of a column entry compile alike. -/
theorem columnPredicates_agree {key key' : String} (v : Value) {v' : Value}
    (h : SameEntry reg c v v') :
    Agree SameTruths (columnPredicates reg c key v) (columnPredicates reg c key' v') := by
  induction v using columnPredicates.induct generalizing v' with
  | case1 es variants hOr hfalsy =>
    -- a falsy `OR` list: the other operators
    obtain ⟨es₁, es', variants', h₁, hp, rfl, hOr', ht, -⟩ := h.or_inv hOr
    rw [columnPredicates.eq_1, hOr, columnPredicates.eq_1, hOr']
    simp only [← ht, hfalsy, if_true]
    exact operatorPredicates_agree (forall₂_filter_or h₁) (hp.filter _) not_or_of_mem_filter
  | case2 es variants hOr rest htruthy =>
    -- operators beside a truthy `OR` list are refused in both forms
    rename_i hmixed
    simp only [rest, List.unattach_filter, List.unattach_attach] at hmixed
    obtain ⟨es₁, es', variants', h₁, hp, rfl, hOr', ht, -⟩ := h.or_inv hOr
    rw [columnPredicates.eq_1, hOr, columnPredicates.eq_1, hOr']
    simp only [← ht, htruthy, hmixed, if_true]
    rw [← (hp.filter _).any_eq, ← any_operand_eq ?_ (forall₂_filter_or h₁) not_or_of_mem_filter]
    · simp only [hmixed, if_true]
      trivial
    · exact fun _ => rfl
  | case3 es variants hOr rest htruthy hmixed =>
    -- a truthy `OR` list alone: the disjunction of the alternatives
    rename_i ih
    simp only [rest, List.unattach_filter, List.unattach_attach] at hmixed
    obtain ⟨es₁, es', variants', h₁, hp, rfl, hOr', ht, hs⟩ := h.or_inv hOr
    rw [columnPredicates.eq_1, hOr, columnPredicates.eq_1, hOr']
    simp only [← ht, htruthy, hmixed]
    rw [← (hp.filter _).any_eq, ← any_operand_eq ?_ (forall₂_filter_or h₁) not_or_of_mem_filter]
    · simp only [hmixed, List.mapM_subtype, List.unattach_attach]
      refine Agree.bind (mapM_agree ?_) fun alts alts' halts => disjunction_sameTruths halts
      refine ((List.forall₂_and_left _ _).mpr ⟨fun x hx => hx, hs⟩).imp
        fun x x' hboth => ?_
      obtain ⟨hx, hxx'⟩ := hboth
      rw [← hxx'.truthy_eq]
      split
      · exact ih x hx hxx'
      · exact agree_pure (SameTruths.refl [])
    · exact fun _ => rfl
  | case4 es hOr =>
    -- no `OR` list: the operators
    obtain ⟨es₁, es', h₁, hp, hnd, rfl⟩ := h.dict_inv
    have hrel := lookup_or h₁ hp hnd
    rw [hOr] at hrel
    have hOr' := rel_none_left hrel
    rw [columnPredicates.eq_1, hOr, columnPredicates.eq_1, hOr']
    exact operatorPredicates_agree h₁ hp (not_key_of_lookup?_eq_none hOr)
  | case5 v hv =>
    -- not an object: refused in both forms
    cases h with
    | dict => exact absurd rfl (hv _)
    | other _ hv' =>
      rw [columnPredicates_not_dict hv, columnPredicates_not_dict hv']
      trivial

end Entries

section Levels

variable {reg : Registry} {t : Table}

theorem SameMember.key_iff {a b : String × Value} (h : SameMember reg t a b) {k : String}
    (hk : isCombinator k = true) : a.1 = k ↔ b.1 = k := by
  cases h with
  | column hkey hkey' =>
    constructor
    · rintro rfl
      simp [hkey] at hk
    · rintro rfl
      simp [hkey'] at hk
  | conj | disj | neg => exact Iff.rfl

/-! Each combinator member of the first form is related to the same
combinator of the second; the inversions below read the relation back. -/

theorem SameMember.conj_inv {v v' : Value} (h : SameMember reg t ("AND", v) ("AND", v')) :
    v.truthy = v'.truthy ∧ List.Forall₂ (SameLevel reg t) v.asItems v'.asItems := by
  generalize ha : ("AND", v) = a at h
  generalize hb : ("AND", v') = b at h
  cases h with
  | column hkey => cases ha; simp [isCombinator] at hkey
  | conj ht hs => cases ha; cases hb; exact ⟨ht, hs⟩
  | disj | neg => simp at ha

theorem SameMember.disj_inv {v v' : Value} (h : SameMember reg t ("OR", v) ("OR", v')) :
    v.truthy = v'.truthy ∧ List.Forall₂ (SameLevel reg t) v.asItems v'.asItems := by
  generalize ha : ("OR", v) = a at h
  generalize hb : ("OR", v') = b at h
  cases h with
  | column hkey => cases ha; simp [isCombinator] at hkey
  | disj ht hs => cases ha; cases hb; exact ⟨ht, hs⟩
  | conj | neg => simp at ha

theorem SameMember.neg_inv {v v' : Value} (h : SameMember reg t ("NOT", v) ("NOT", v')) :
    v.truthy = v'.truthy ∧ SameLevel reg t v v' := by
  generalize ha : ("NOT", v) = a at h
  generalize hb : ("NOT", v') = b at h
  cases h with
  | column hkey => cases ha; simp [isCombinator] at hkey
  | neg ht hs => cases ha; cases hb; exact ⟨ht, hs⟩
  | conj | disj => simp at ha

theorem SameLevel.dict_inv {es : List (String × Value)} {v' : Value}
    (h : SameLevel reg t (.dict es) v') :
    ∃ es₁ es', List.Forall₂ (SameMember reg t) es es₁ ∧ es₁.Perm es' ∧
      (es'.map (·.1)).Nodup ∧ v' = .dict es' := by
  cases h with
  | dict h₁ hp hnd => exact ⟨_, _, h₁, hp, hnd, rfl⟩
  | other hv => exact absurd rfl (hv es)

theorem columnMember_append (acc : List Predicate) (e : String × Value) :
    columnMember reg t acc e = (acc ++ ·) <$> columnMember reg t [] e := by
  obtain ⟨key, v⟩ := e
  cases hkey : isCombinator key
  · by_cases hv : v = .none
    · rw [columnMember_skip (Or.inr hv), columnMember_skip (Or.inr hv)]
      simp [pure, Except.pure, Functor.map, Except.map]
    · cases hc : t.columnFor? key with
      | none => simp only [columnMember, hkey, Bool.false_eq_true, if_false, hc]; rfl
      | some c =>
        rw [columnMember_column hkey hv hc, columnMember_column hkey hv hc]
        cases columnPredicates reg c key v <;> simp [Functor.map, Except.map]
  · rw [columnMember_skip (Or.inl hkey), columnMember_skip (Or.inl hkey)]
    simp [pure, Except.pure, Functor.map, Except.map]

/-- Two forms of a member of a level give column predicates with the same
truths. -/
theorem columnMember_agree {a b : String × Value} (h : SameMember reg t a b) :
    Agree SameTruths (columnMember reg t [] a) (columnMember reg t [] b) := by
  cases h with
  | @column key key' c v v' hkey hkey' hc hc' hnull he =>
    by_cases hv : v = .none
    · rw [columnMember_skip (Or.inr hv), columnMember_skip (Or.inr (hnull.mp hv))]
      exact agree_pure (SameTruths.refl [])
    · rw [columnMember_column hkey hv hc, columnMember_column hkey' (mt hnull.mpr hv) hc']
      exact (columnPredicates_agree v he).map fun _ _ h => by simpa using h
  | conj | disj | neg =>
    rw [columnMember_skip (Or.inl rfl), columnMember_skip (Or.inl rfl)]
    exact agree_pure (SameTruths.refl [])

/-- The column members of two forms of a level, the second reordered, give
predicates with the same truths. -/
theorem columns_agree {es es₁ es' : List (String × Value)}
    (h : List.Forall₂ (SameMember reg t) es es₁) (hp : es₁.Perm es') :
    Agree SameTruths (es.foldlM (columnMember reg t) []) (es'.foldlM (columnMember reg t) []) := by
  rw [foldlM_eq_flatten columnMember_append, foldlM_eq_flatten columnMember_append]
  refine Agree.map (mapM_agree_perm ?_ hp) fun _ _ h => by simpa using relPerm_flatten h
  exact h.imp fun _ _ hab => columnMember_agree hab

theorem reduceOption_rel {ps qs : List (Option Predicate)}
    (h : List.Forall₂ (Option.Rel Equivalent) ps qs) :
    List.Forall₂ Equivalent ps.reduceOption qs.reduceOption :=
  List.rel_filterMap (fun _ _ hpq => hpq) h

/-- The disjunction of operands compiled alike, one that gives nothing
counting as true, is equivalent on both sides. -/
theorem disjunction_rel {ps qs : List (Option Predicate)}
    (h : List.Forall₂ (Option.Rel Equivalent) ps qs) :
    List.Forall₂ Equivalent [Predicate.disj (ps.map (·.getD (.const true)))]
      [Predicate.disj (qs.map (·.getD (.const true)))] := by
  have hmap : List.Forall₂ Equivalent (ps.map (·.getD (.const true)))
      (qs.map (·.getD (.const true))) := by
    refine List.forall₂_map_left_iff.mpr (List.forall₂_map_right_iff.mpr (h.imp ?_))
    intro p? q? hpq
    cases hpq with
    | some hpq => exact hpq
    | none => exact fun _ => rfl
  refine .cons (fun env => ?_) .nil
  rw [Predicate.eval_disj, Predicate.eval_disj, SameTruths.map_eval_eq hmap env]

theorem negation_rel {p? q? : Option Predicate} (h : Option.Rel Equivalent p? q?) :
    List.Forall₂ Equivalent (p?.map Predicate.negate).toList (q?.map Predicate.negate).toList := by
  cases h with
  | none => exact .nil
  | some hpq =>
    exact .cons (fun env => by rw [Predicate.eval_negate, Predicate.eval_negate, hpq env]) .nil

theorem rel_imp {α β : Type} {r s : α → β → Prop} (hrs : ∀ a b, r a b → s a b)
    {x : Option α} {y : Option β} (h : Option.Rel r x y) : Option.Rel s x y := by
  cases h with
  | none => exact .none
  | some hab => exact .some (hrs _ _ hab)

/-- A combinator whose operands, two forms of each, compile alike and are then
combined by `g`: both forms combine alike. -/
theorem itemsPart_agree {o o' : Option Value} {sub : Value → Outcome (Option Predicate)}
    {g : List (Option Predicate) → List Predicate}
    (hg : ∀ ps qs, List.Forall₂ (Option.Rel Equivalent) ps qs →
      List.Forall₂ Equivalent (g ps) (g qs)) :
    Option.Rel (fun v v' => v.truthy = v'.truthy ∧
      List.Forall₂ (SameLevel reg t) v.asItems v'.asItems) o o' →
    (∀ items, o = some items → ∀ x ∈ items.asItems, ∀ {x'}, SameLevel reg t x x' →
      Agree (Option.Rel Equivalent) (sub x) (sub x')) →
    Agree (List.Forall₂ Equivalent)
      (match o with
        | some items => if items.truthy then g <$> items.asItems.mapM sub else pure []
        | none => pure [])
      (match o' with
        | some items => if items.truthy then g <$> items.asItems.mapM sub else pure []
        | none => pure []) := by
  intro hrel hsub
  cases hrel with
  | none => exact agree_pure .nil
  | @some items items' hitems =>
    obtain ⟨ht, hs⟩ := hitems
    simp only [← ht]
    split
    · refine Agree.map (mapM_agree ?_) hg
      exact ((List.forall₂_and_left _ _).mpr ⟨fun x hx => hx, hs⟩).imp
        fun x _ ⟨hx, hxx'⟩ => hsub items rfl x hx hxx'
    · exact agree_pure .nil

/-- The `NOT` member of two forms of a level, its operands compiled alike. -/
theorem notPart_agree {es es' : List (String × Value)} {sub : Value → Outcome (Option Predicate)}
    (hrel : Option.Rel (fun v v' => v.truthy = v'.truthy ∧ SameLevel reg t v v')
      (Value.lookup? es "NOT") (Value.lookup? es' "NOT"))
    (hsub : ∀ item, Value.lookup? es "NOT" = some item → ∀ {x'}, SameLevel reg t item x' →
      Agree (Option.Rel Equivalent) (sub item) (sub x')) :
    Agree (List.Forall₂ Equivalent) (notPart sub Predicate.negate es)
      (notPart sub Predicate.negate es') := by
  unfold notPart
  generalize hN : Value.lookup? es "NOT" = o at hrel hsub
  generalize Value.lookup? es' "NOT" = o' at hrel
  cases hrel with
  | none => exact agree_pure .nil
  | @some item item' hitem =>
    obtain ⟨ht, hs⟩ := hitem
    simp only [← ht]
    split
    · exact (hsub item rfl hs).map fun _ _ => negation_rel
    · exact agree_pure .nil

/-- Two forms of a level compile alike: both fail, or both give nothing, or
both give predicates with the same truth on every row. -/
theorem level_agree (v : Value) {v' : Value} (h : SameLevel reg t v v') :
    Agree (Option.Rel Equivalent) (level reg t v) (level reg t v') := by
  induction v using level.induct generalizing v' with
  | case1 es hempty =>
    -- an empty level gives nothing in both forms
    obtain ⟨es₁, es', h₁, hp, -, rfl⟩ := h.dict_inv
    rw [List.isEmpty_iff] at hempty
    subst hempty
    cases h₁
    rw [List.nil_perm.mp hp]
    simp only [level.eq_1, List.isEmpty_nil, if_true]
    exact Option.Rel.none
  | case2 es hne ihNot ihOr ihAnd =>
    -- the column members, then `AND`, `OR` and `NOT`, each part alike
    obtain ⟨es₁, es', h₁, hp, hnd, rfl⟩ := h.dict_inv
    have hne' : es'.isEmpty = false := by
      rw [← isEmpty_eq_of_length_eq (h₁.length_eq.trans hp.length_eq)]
      simpa using hne
    have hlookup := fun {k : String} (hk : isCombinator k = true) =>
      Value.lookup?_rel h₁ hp hnd (fun _ _ hab => hab.key_iff hk)
    rw [level_dict reg t (by simpa using hne), level_dict reg t hne']
    have hand := rel_imp (fun _ _ hab => SameMember.conj_inv hab) (hlookup (k := "AND") rfl)
    have hor := rel_imp (fun _ _ hab => SameMember.disj_inv hab) (hlookup (k := "OR") rfl)
    have hnot := rel_imp (fun _ _ hab => SameMember.neg_inv hab) (hlookup (k := "NOT") rfl)
    refine (columns_agree h₁ hp).bind fun cols cols' hcols => ?_
    refine (show Agree _ (andPart (level reg t) es) (andPart (level reg t) es') from
      itemsPart_agree (fun _ _ => reduceOption_rel) hand
        fun items h x hx _ hxx' => ihAnd items h x hx hxx').bind fun cs cs' hcs => ?_
    refine (show Agree _ (orPart (level reg t) (.const true) Predicate.disj es)
        (orPart (level reg t) (.const true) Predicate.disj es') from
      itemsPart_agree (fun _ _ => disjunction_rel) hor
        fun items h x hx _ hxx' => ihOr items h x hx hxx').bind fun as as' has => ?_
    refine (notPart_agree hnot fun item h _ hxx' => ihNot item h hxx').bind fun ns ns' hns => ?_
    exact agree_pure (conjunctionOf_rel
      (((hcols.append (.of_forall₂ hcs)).append (.of_forall₂ has)).append (.of_forall₂ hns)))
  | case3 v hv htruthy =>
    -- a truthy value that is not an object is refused in both forms
    cases h with
    | dict => exact absurd rfl (hv _)
    | other _ hv' ht =>
      rw [level_not_dict reg t hv, level_not_dict reg t hv', if_pos htruthy, if_pos (ht ▸ htruthy)]
      trivial
  | case4 v hv hfalsy =>
    -- a falsy one gives nothing in both
    cases h with
    | dict => exact absurd rfl (hv _)
    | other _ hv' ht =>
      rw [level_not_dict reg t hv, level_not_dict reg t hv', if_neg hfalsy, if_neg (ht ▸ hfalsy)]
      exact Option.Rel.none

/-- Two forms of a filter both fail to compile, or compile to predicates with
the same truth on every row. -/
theorem compile_agree {f f' : Value} (h : SameLevel reg t f f') :
    Agree Equivalent (compile reg t f) (compile reg t f') := by
  unfold compile
  refine (level_agree f h).bind fun p? q? hpq => agree_pure ?_
  cases hpq with
  | none => exact fun _ => rfl
  | some hpq => exact hpq

end Levels

end Filter

/-! ### Sort orders -/

namespace Table

variable {t : Table}

theorem columnFor?_mem {key : String} {c : Column} (h : t.columnFor? key = some c) :
    c ∈ t.columns := by
  unfold columnFor? column? at h
  split at h
  · cases h
    exact List.mem_of_find?_eq_some ‹_›
  · exact List.mem_reverse.mp (List.mem_of_find?_eq_some h)

/-- A column of a table stands at its index, or an earlier column of the same
name does. -/
theorem getElem_columnIndex {c : Column} (hc : c ∈ t.columns) :
    ∃ h : t.columnIndex c.name < t.columns.length,
      (t.columns.get ⟨t.columnIndex c.name, h⟩).name = c.name := by
  have hex : ∃ x, x ∈ t.columns ∧ (x.name == c.name) = true := ⟨c, hc, by simp⟩
  have hidx : t.columnIndex c.name = t.columns.findIdx (·.name == c.name) := by
    simp [columnIndex, List.findIdx?_eq_some_of_exists hex]
  have hlt := List.findIdx_lt_length_of_exists hex
  refine ⟨hidx ▸ hlt, ?_⟩
  have hat := List.findIdx_getElem (w := hlt)
  simp only [beq_iff_eq] at hat
  simp only [List.get_eq_getElem, hidx, hat]

/-- Two columns of a table at one index have one name. -/
theorem name_eq_of_columnIndex_eq {c d : Column} (hc : c ∈ t.columns) (hd : d ∈ t.columns)
    (h : t.columnIndex c.name = t.columnIndex d.name) : c.name = d.name := by
  obtain ⟨hlc, hnc⟩ := getElem_columnIndex hc
  obtain ⟨hld, hnd⟩ := getElem_columnIndex hd
  rw [← hnc, ← hnd]
  simp only [h]

end Table

namespace OrderClause

variable {t : Table}

/-- The clause one entry of an `orderBy` argument adds to those before it:
none for a null entry. -/
def entryStep (t : Table) (acc : List OrderClause) : String × Value → Outcome (List OrderClause)
  | (key, entry) =>
    match entry with
    | .none => pure acc
    | _ =>
      match t.columnFor? key with
      | none => .error (.validation ("Unknown column in orderBy for table '" ++ t.name ++ "': " ++ key))
      | some column => do
        let direction ← directionOf (entryField entry "direction")
        let priority ← priorityOf key (entryField entry "priority")
        pure (acc ++ [{ column, direction, priority }])

/-- A non-empty object compiles its entries one by one, then sorts the
clauses. -/
theorem compile_dict (t : Table) {es : List (String × Value)} (hne : es.isEmpty = false) :
    compile t (.dict es) = (do
      let clauses ← es.foldlM (entryStep t) []
      pure (clauses.mergeSort (precedes t))) := by
  simp only [compile, Value.truthy, hne, Bool.not_false, Bool.not_true, Bool.false_eq_true, if_false]
  rfl

theorem compile_falsy (t : Table) {v : Value} (hv : v.truthy = false) : compile t v = pure [] := by
  simp [compile, hv]

theorem compile_not_dict (t : Table) {v : Value} (hv : ∀ es, v ≠ .dict es) (ht : v.truthy = true) :
    compile t v =
      .error ⟨.missingAttribute, "'" ++ v.kindName ++ "' object has no attribute 'items'"⟩ := by
  simp only [compile, ht, Bool.not_true, Bool.false_eq_true, if_false]
  rfl

theorem entryStep_null (acc : List OrderClause) (key : String) :
    entryStep t acc (key, .none) = pure acc := rfl

theorem entryStep_column {acc : List OrderClause} {key : String} {entry : Value} {c : Column}
    (hentry : entry ≠ .none) (hc : t.columnFor? key = some c) :
    entryStep t acc (key, entry) = (do
      let direction ← directionOf (entryField entry "direction")
      let priority ← priorityOf key (entryField entry "priority")
      pure (acc ++ [{ column := c, direction, priority }])) := by
  simp only [entryStep, hc]

theorem entryStep_append (acc : List OrderClause) (e : String × Value) :
    entryStep t acc e = (acc ++ ·) <$> entryStep t [] e := by
  obtain ⟨key, entry⟩ := e
  by_cases hentry : entry = .none
  · subst hentry
    simp [entryStep_null, pure, Except.pure, Functor.map, Except.map]
  · cases hc : t.columnFor? key with
    | none => simp only [entryStep, hc]; rfl
    | some c =>
      rw [entryStep_column hentry hc, entryStep_column hentry hc]
      cases directionOf (entryField entry "direction") <;>
        cases priorityOf key (entryField entry "priority") <;> rfl

/-- An entry adds no clause, or one clause for the column its key names. -/
theorem entryStep_ok {key : String} {entry : Value} {cls : List OrderClause}
    (h : entryStep t [] (key, entry) = .ok cls) :
    cls = [] ∨ ∃ cl, t.columnFor? key = some cl.column ∧ cls = [cl] := by
  by_cases hentry : entry = .none
  · subst hentry
    rw [entryStep_null] at h
    exact .inl (Outcome.pure_eq_ok.mp h).symm
  · cases hc : t.columnFor? key with
    | none => simp only [entryStep, hc] at h; cases h
    | some c =>
      rw [entryStep_column hentry hc] at h
      simp only [Outcome.bind_eq_ok, Outcome.pure_eq_ok] at h
      obtain ⟨d, -, p, -, rfl⟩ := h
      exact .inr ⟨_, rfl, rfl⟩

/-- The clauses of a successful walk name columns of the table, in the order
and no more often than the keys name them. -/
theorem mapM_entryStep_names {es : List (String × Value)} {clss : List (List OrderClause)}
    (h : es.mapM (entryStep t []) = .ok clss) :
    (clss.flatten.map (·.column.name)).Sublist
        ((es.filterMap fun e => t.columnFor? e.1).map (·.name)) ∧
      ∀ cl ∈ clss.flatten, cl.column ∈ t.columns := by
  induction es generalizing clss with
  | nil =>
    simp only [List.mapM_nil, Outcome.pure_eq_ok] at h
    subst h
    simp
  | cons e es ih =>
    simp only [List.mapM_cons, Outcome.bind_eq_ok, Outcome.pure_eq_ok] at h
    obtain ⟨cls, hcls, clss', hclss', rfl⟩ := h
    obtain ⟨hsub, hmem⟩ := ih hclss'
    rcases entryStep_ok hcls with rfl | ⟨cl, hc, rfl⟩
    · refine ⟨?_, by simpa using hmem⟩
      have htail : ((es.filterMap fun e => t.columnFor? e.1).map (·.name)).Sublist
          (((e :: es).filterMap fun e => t.columnFor? e.1).map (·.name)) := by
        cases hc : t.columnFor? e.1 <;> simp [hc]
      simpa using hsub.trans htail
    · refine ⟨?_, ?_⟩
      · simpa [List.filterMap_cons, hc] using hsub
      · simp only [List.flatten_cons, List.singleton_append, List.mem_cons]
        rintro cl' (rfl | hcl')
        · exact Table.columnFor?_mem hc
        · exact hmem cl' hcl'

/-! `precedes` is a total preorder whose ties are clauses of one column with
one priority. -/

theorem precedes_trans (a b c : OrderClause) (hab : precedes t a b = true)
    (hbc : precedes t b c = true) : precedes t a c = true := by
  simp only [precedes] at *
  generalize a.priority.isNone = a1 at *
  generalize b.priority.isNone = b1 at *
  generalize c.priority.isNone = c1 at *
  cases a1 <;> cases b1 <;> cases c1 <;> simp_all <;> omega

theorem precedes_total (a b : OrderClause) : (precedes t a b || precedes t b a) = true := by
  simp only [precedes]
  generalize a.priority.isNone = a1
  generalize b.priority.isNone = b1
  cases a1 <;> cases b1 <;> simp <;> omega

theorem columnIndex_eq_of_precedes {a b : OrderClause} (hab : precedes t a b = true)
    (hba : precedes t b a = true) :
    t.columnIndex a.column.name = t.columnIndex b.column.name := by
  simp only [precedes] at *
  generalize a.priority.isNone = a1 at *
  generalize b.priority.isNone = b1 at *
  cases a1 <;> cases b1 <;> simp_all <;> omega

/-- Sorting two orderings of clauses, for columns of the table named once
each, gives one list. -/
theorem mergeSort_eq_of_perm {cls cls' : List OrderClause} (hp : cls.Perm cls')
    (hnd : (cls'.map (·.column.name)).Nodup) (hmem : ∀ cl ∈ cls', cl.column ∈ t.columns) :
    cls.mergeSort (precedes t) = cls'.mergeSort (precedes t) := by
  refine List.Perm.eq_of_pairwise ?_
    (List.pairwise_mergeSort precedes_trans precedes_total _)
    (List.pairwise_mergeSort precedes_trans precedes_total _)
    (((List.mergeSort_perm _ _).trans hp).trans (List.mergeSort_perm _ _).symm)
  intro a b ha hb hab hba
  -- both clauses are clauses of the second list, where a column is named once
  have ha' : a ∈ cls' := hp.mem_iff.mp (List.mem_mergeSort.mp ha)
  have hb' : b ∈ cls' := List.mem_mergeSort.mp hb
  have hname := Table.name_eq_of_columnIndex_eq (hmem a ha') (hmem b hb')
    (columnIndex_eq_of_precedes hab hba)
  exact List.inj_on_of_nodup_map hnd ha' hb' hname

/-- Two forms of an entry of an `orderBy` argument: null in both, or one
column under any of its keys, with a direction and a priority that read
alike. -/
inductive SameEntry (t : Table) : String × Value → String × Value → Prop
  | null {key key' : String} : SameEntry t (key, .none) (key', .none)
  | clause {key key' : String} {c : Column} {entry entry' : Value} :
      t.columnFor? key = some c → t.columnFor? key' = some c → entry ≠ .none → entry' ≠ .none →
      Agree Eq (directionOf (entryField entry "direction"))
        (directionOf (entryField entry' "direction")) →
      Agree Eq (priorityOf key (entryField entry "priority"))
        (priorityOf key' (entryField entry' "priority")) →
      SameEntry t (key, entry) (key', entry')

/-- Two forms of an `orderBy` argument: objects with related entries, in any
order, the keys of the second naming each column at most once; or two values
that are not objects and are equally truthy. -/
inductive SameOrder (t : Table) : Value → Value → Prop
  | dict {es es₁ es' : List (String × Value)} :
      List.Forall₂ (SameEntry t) es es₁ → es₁.Perm es' →
      ((es'.filterMap fun e => t.columnFor? e.1).map (·.name)).Nodup →
      SameOrder t (.dict es) (.dict es')
  | other {v v' : Value} : (∀ es, v ≠ .dict es) → (∀ es, v' ≠ .dict es) →
      v.truthy = v'.truthy → SameOrder t v v'

/-- Two forms of an entry add the same clauses. -/
theorem entryStep_agree {a b : String × Value} (h : SameEntry t a b) :
    Agree Eq (entryStep t [] a) (entryStep t [] b) := by
  cases h with
  | null => exact agree_pure rfl
  | clause hc hc' he he' hdir hpri =>
    rw [entryStep_column he hc, entryStep_column he' hc']
    refine hdir.bind fun d _ hd => hpri.bind fun p _ hp => ?_
    subst hd hp
    exact agree_pure rfl

/-- Two forms of an `orderBy` argument both fail to compile, or compile to the
same clauses. -/
theorem compile_agree {o o' : Value} (h : SameOrder t o o') :
    Agree Eq (compile t o) (compile t o') := by
  cases h with
  | @dict es es₁ es' h₁ hp hnd =>
    have hlen := h₁.length_eq.trans hp.length_eq
    cases hne : es.isEmpty
    · have hne' : es'.isEmpty = false := by
        rw [← Filter.isEmpty_eq_of_length_eq hlen, hne]
      rw [compile_dict t hne, compile_dict t hne', foldlM_eq_flatten entryStep_append,
        foldlM_eq_flatten entryStep_append]
      -- the clauses of the two forms are one list reordered, and the second
      -- names each column of the table once
      have hwalk := (mapM_agree_perm (h₁.imp fun _ _ hab => entryStep_agree hab) hp).of_ok_right
        fun _ hclss => mapM_entryStep_names hclss
      refine Agree.bind (hwalk.map (S := fun cls cls' => cls.Perm cls' ∧
          (cls'.map (·.column.name)).Nodup ∧ ∀ cl ∈ cls', cl.column ∈ t.columns) ?_)
        fun cls cls' ⟨hp', hnd', hmem'⟩ => agree_pure (mergeSort_eq_of_perm hp' hnd' hmem')
      rintro clss clss' ⟨⟨clss₁, h₂, hp₁⟩, hsub, hmem⟩
      rw [List.forall₂_eq_eq_eq] at h₂
      subst h₂
      exact ⟨by simpa using hp₁.flatten, by simpa using hsub.nodup hnd, by simpa using hmem⟩
    · have hne' : es'.isEmpty = true := by
        rw [← Filter.isEmpty_eq_of_length_eq hlen, hne]
      rw [compile_falsy t (by simp [Value.truthy, hne]), compile_falsy t (by simp [Value.truthy, hne'])]
      exact agree_pure rfl
  | other hv hv' ht =>
    cases htv : Value.truthy o
    · rw [compile_falsy t htv, compile_falsy t (ht ▸ htv)]
      exact agree_pure rfl
    · rw [compile_not_dict t hv htv, compile_not_dict t hv' (ht ▸ htv)]
      trivial

end OrderClause

/-! ### Page arguments and whole specs -/

namespace LoadSpec

/-- Two forms of a page argument: the text of an integer and the integer, or
one value in both. -/
inductive SamePage : Value → Value → Prop
  | text {s : String} {n : Int} : Number.readInt? s = some n → SamePage (.str s) (.int n)
  | same {v : Value} : SamePage v v

/-- Two forms of a page argument give the same page, or the same refusal. -/
theorem pageValue_eq {v v' : Value} (h : SamePage v v') (name : String) :
    pageValue name v = pageValue name v' := by
  cases h with
  | text hs => simp [pageValue, hs]
  | same => rfl

/-- Two specs that read alike: the same in all but their predicates, which
have the same truth on every row. -/
structure Alike (s s' : LoadSpec) : Prop where
  predicate : Predicate.Equivalent s.predicate s'.predicate
  rest : { s with predicate := s'.predicate } = s'

/-- The arguments of a read, each in two forms that compile alike, give specs
that read alike, or are refused in both forms. -/
theorem build_agree {reg : Registry} {t : Table}
    {filter filter' orderBy orderBy' offset offset' limit limit' : Value}
    (hf : Filter.SameLevel reg t filter filter') (ho : OrderClause.SameOrder t orderBy orderBy')
    (hoff : SamePage offset offset') (hlim : SamePage limit limit') :
    Agree Alike (build reg t filter orderBy offset limit)
      (build reg t filter' orderBy' offset' limit') := by
  unfold build
  rw [pageValue_eq hoff, pageValue_eq hlim]
  refine (Filter.compile_agree hf).bind fun p p' hp => ?_
  refine (OrderClause.compile_agree ho).bind fun o o' (hoo' : o = o') => ?_
  subst hoo'
  -- the page arguments are read alike, so everything but the predicate is one
  refine (agree_refl (R := Eq) (fun _ => rfl) (pageValue "offset" offset')).bind
    fun a a' (haa' : a = a') => ?_
  refine (agree_refl (R := Eq) (fun _ => rfl) (pageValue "limit" limit')).bind
    fun b b' (hbb' : b = b') => ?_
  subst haa' hbb'
  exact agree_pure ⟨hp, rfl⟩

end LoadSpec

/-! ### Integer operands as written -/

namespace Registry

/-- With nothing registered, a column that converts by the tag `integer`
reads the text of an integer as the integer. -/
theorem fromWire_int_text {r : Registry} {c : Column} (hfrom : r.fromWireConversions = [])
    (hc : c.convertsByTag = true) (htag : c.tag = "integer") {s : String} {n : Int}
    (hs : Number.readInt? s = some n) : r.fromWire (.str s) c = r.fromWire (.int n) c := by
  rw [fromWire, fromWire, fromWireAt.eq_def, fromWireAt.eq_def]
  simp only [chooseFrom_builtin hfrom hc htag (by decide), hs]

end Registry

namespace Filter

/-- Every operator that converts its operand reads an integer column's
operand alike as the text of an integer and as the integer. -/
theorem sameOperand_int_text {r : Registry} {c : Column} (hfrom : r.fromWireConversions = [])
    (hc : c.convertsByTag = true) (htag : c.tag = "integer") {s : String} {n : Int}
    (hs : Number.readInt? s = some n) {op : FilterOperator}
    (hop : op ∉ [.like, .notLike, .ilike, .notIlike]) : SameOperand r c op (.str s) (.int n) := by
  have hw := Registry.fromWire_int_text hfrom hc htag hs
  refine ⟨by simp, ?_⟩
  cases op <;> simp_all [FilterOperator.predicate, Value.asItems]

/-- A binary column's bytes written as the texts of integers are not read as
the integers: there the two forms part, and `compile_binary_operand_forms`
shows the filters they give. -/
theorem not_sameOperand_binary_text {r : Registry} (hfrom : r.fromWireConversions = [])
    {c : Column} (htag : c.tag = "binary")
    (hty : Converter.fromWireKeys.contains c.columnType = false) {ns : List Int} (hne : ns ≠ [])
    (hbytes : ∀ n ∈ ns, 0 ≤ n ∧ n < 256) :
    ¬ SameOperand r c .eq (.list (ns.map fun n => .str (toString n))) (.list (ns.map .int)) := by
  rintro ⟨-, hpred⟩
  have hread : ∀ v, v ≠ .none → r.fromWire v c = .bytes <$> Remap.readBytes c v :=
    fun _ hv => Registry.fromWire_binary hfrom htag hty hv
  -- the integers are read as bytes, the texts are refused
  have hints : r.fromWire (.list (ns.map .int)) c = .ok (.bytes (ns.map (·.toNat.toUInt8))) := by
    rw [hread _ (by simp), Remap.readBytes_ints c hbytes]
    rfl
  obtain ⟨n, rest, rfl⟩ := List.exists_cons_of_ne_nil hne
  have htexts : ∃ e, r.fromWire (.list ((n :: rest).map fun n => .str (toString n))) c = .error e := by
    rw [hread _ (by simp), List.map_cons, Remap.readBytes_text_head]
    exact ⟨_, rfl⟩
  obtain ⟨e, htexts⟩ := htexts
  simp only [FilterOperator.predicate, hints, htexts] at hpred
  cases hpred

end Filter

namespace LoadSpec

/-- The author of a post, an integer column. -/
def authorColumn : Column :=
  { name := "author", table := "posts", tag := "integer", columnType := "Integer" }

/-- The content of a post, a text column. -/
def contentColumn : Column :=
  { name := "content", table := "posts", tag := "text", columnType := "String" }

/-- Posts by author and content. -/
def postsTable : Table := { name := "posts", columns := [authorColumn, contentColumn] }

/-- A filter on posts as written: content first, the operator in camel case,
the author's number as its text. -/
def writtenPostFilter : Value :=
  .dict [("content", .dict [("notLike", .str "%a%")]), ("author", .dict [("eq", .str "1")])]

/-- The same filter coerced: author first, the operator in snake case, the
author's number as a number. -/
def coercedPostFilter : Value :=
  .dict [("author", .dict [("eq", .int 1)]), ("content", .dict [("not_like", .str "%a%")])]

/-- A sort by author, the priority as its text. -/
def writtenPostOrder : Value :=
  .dict [("author", .dict [("direction", .str "DESC"), ("priority", .str "2")])]

/-- The same sort coerced. -/
def coercedPostOrder : Value :=
  .dict [("author", .dict [("direction", .str "desc"), ("priority", .int 2)])]

/-- A read of posts whose arguments are written in another order, with
operators in camel case and numbers as their text, reads as the same
arguments coerced. -/
example :
    Agree Alike (build {} postsTable writtenPostFilter writtenPostOrder (.str "10") .none)
      (build {} postsTable coercedPostFilter coercedPostOrder (.int 10) .none) := by
  have hauthor : postsTable.columnFor? "author" = some authorColumn := by cbv
  have hcontent : postsTable.columnFor? "content" = some contentColumn := by cbv
  have heq : FilterOperator.ofKey? "eq" = some .eq := by cbv
  have hcamel : FilterOperator.ofKey? "notLike" = some .notLike := by cbv
  have hsnake : FilterOperator.ofKey? "not_like" = some .notLike := by cbv
  have hone : Number.readInt? "1" = some 1 := by cbv
  have hfilter : Filter.SameLevel {} postsTable writtenPostFilter coercedPostFilter := by
    unfold writtenPostFilter coercedPostFilter
    exact .dict (.cons (.column rfl rfl hcontent hcontent (by simp)
        (.dict (.cons (.operator hcamel hsnake ⟨Iff.rfl, rfl⟩) .nil) (.refl _) (by simp)))
      (.cons (.column rfl rfl hauthor hauthor (by simp)
        (.dict (.cons (.operator heq heq
          (Filter.sameOperand_int_text rfl (by decide) rfl hone (by simp))) .nil)
          (.refl _) (by simp))) .nil))
      (.swap _ _ _) (by simp)
  have horder : OrderClause.SameOrder postsTable writtenPostOrder coercedPostOrder := by
    unfold writtenPostOrder coercedPostOrder
    -- the direction and the priority read alike once both entries are known
    exact .dict (.cons (.clause hauthor hauthor (by simp) (by simp) (by cbv) (by cbv)) .nil)
      (.refl _) (by simp [hauthor])
  exact build_agree hfilter horder (.text (by cbv)) .same

end LoadSpec

end TableGraph
