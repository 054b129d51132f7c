import Mathlib
import TableGraph.Api.Graph

/-!
# The levels of the type graph

Every output type of the API is a node of the relation graph: a table at a
level. This module describes the graph `RelationGraph.make` builds, as the
sequences of relation fields a query can follow through it.

A catalog is taken as the loader builds it (`Catalog.Keyed`): tables keyed
by name, each table's relations keyed by name, and every relation leading
to a table of the catalog. Following edges by name (`RelationGraph.follow`)
is then following a chain of relations (`Catalog.Chain`), one hop per
level, so a depth limit bounds the chains exactly.

The depth limit arrives as a value. Null means no limit; a nonnegative
integer is a limit; anything else is refused as a schema that cannot be
built. A limit is laid out as a list of levels, so a limit too large for
that list is refused too, by an overflow past the platform's signed sizes;
that refusal is not a schema-build error. Memory is taken to hold a list
of any length below the bound.

## Main results

* `RelationGraph.make_ok_iff` — which limits give a graph.
* `RelationGraph.follow_bounded`, `RelationGraph.follow_unbounded` — the
  names followable from a node are the relation chains from its table, of
  at most the levels left below the limit when there is one.
* `RelationGraph.names_nodup` — node names are distinct when the tables'
  type names are: a name is the type name followed by a suffix whose
  trailing digits give the level back.
* `RelationGraph.levelledBy`, `RelationGraph.unlevelled` — the shape of a
  graph with a limit and without one.
* `RelationGraph.built_levels` — what building a graph from a depth limit
  gives, for every value of the limit.
-/

namespace TableGraph

namespace Catalog

/-- A catalog as the loader builds it: tables keyed by name, each table's
relations keyed by name, and every relation leading to a table of the
catalog. -/
structure Keyed (c : Catalog) : Prop where
  tables : (c.tables.map (·.name)).Nodup
  relations : ∀ t ∈ c.tables, (t.relations.map (·.name)).Nodup
  targets : ∀ t ∈ c.tables, ∀ r ∈ t.relations, (c.table? r.target).isSome

/-- A chain of relations from table `t` to table `u`: each relation is one
of the table reached so far and leads to the table it targets. -/
inductive Chain (c : Catalog) : Table → List Relation → Table → Prop
  | nil (t : Table) : Chain c t [] t
  | cons {t v u : Table} {r : Relation} {rs : List Relation} :
      r ∈ t.relations → c.table? r.target = some v → Chain c v rs u → Chain c t (r :: rs) u

variable {c : Catalog}

@[simp] theorem chain_nil_iff {t u : Table} : c.Chain t [] u ↔ u = t := by
  constructor
  · rintro ⟨⟩
    rfl
  · rintro rfl
    exact .nil _

@[simp] theorem chain_cons_iff {t u : Table} {r : Relation} {rs : List Relation} :
    c.Chain t (r :: rs) u ↔ r ∈ t.relations ∧ ∃ v, c.table? r.target = some v ∧ c.Chain v rs u := by
  constructor
  · rintro (_ | ⟨hr, hv, hrest⟩)
    exact ⟨hr, _, hv, hrest⟩
  · rintro ⟨hr, v, hv, hrest⟩
    exact .cons hr hv hrest

/-- The table found under a name is a table of the catalog with that name. -/
theorem table?_eq_some {name : String} {u : Table} (h : c.table? name = some u) :
    u ∈ c.tables ∧ u.name = name :=
  ⟨List.mem_of_find?_eq_some h, by simpa using List.find?_some h⟩

end Catalog

namespace RelationGraph

/-- The node reached from a node by following the edges named, in turn;
none when a name has no edge. -/
def follow (g : RelationGraph) : GraphNode → List String → Option GraphNode
  | n, [] => some n
  | n, a :: rest =>
    match (g.edges n).find? (·.1.name == a) with
    | some (_, m) => g.follow m rest
    | none => none

/-! ## Building a graph from a depth limit -/

/-- A depth limit is refused exactly when it is neither null nor a
nonnegative integer, and only as a schema that cannot be built. -/
theorem depthLimitOf_ok_iff {v : Value} :
    (∃ l, depthLimitOf v = .ok l) ↔ v = .none ∨ ∃ n : Int, 0 ≤ n ∧ v = .int n := by
  cases v with
  | none => simp [depthLimitOf]
  | int n =>
    by_cases hn : n < 0
    · simp [depthLimitOf, hn]
    · simp [depthLimitOf, hn]
      omega
  | _ => simp [depthLimitOf]

theorem depthLimitOf_error_kind {v : Value} {e : Failure} (h : depthLimitOf v = .error e) :
    e.kind = .schemaBuild := by
  unfold depthLimitOf at h
  split at h
  · cases h
  · split at h <;> cases h
    rfl
  · cases h
    rfl

/-- A graph is laid out unless its levels cannot be: a list of levels past
the platform's signed sizes overflows, and a catalog without tables lays out
none. -/
theorem make_ok_iff {c : Catalog} {l : Option Nat} {g : RelationGraph} :
    make c l = .ok g ↔ g = ⟨c, l⟩ ∧ ∀ n, l = some n → c.tables = [] ∨ n + 1 ≤ sizeLimit := by
  cases l with
  | none =>
    simp only [make, Except.ok.injEq, reduceCtorEq, false_implies, implies_true, and_true]
    exact eq_comm
  | some n =>
    simp only [make, Option.some.injEq, forall_eq']
    by_cases he : c.tables = []
    · simp only [he, List.isEmpty_nil, if_true, Except.ok.injEq, true_or, and_true]
      exact eq_comm
    · simp only [List.isEmpty_eq_false_iff.mpr he, Bool.false_eq_true, if_false, he, false_or]
      by_cases hs : n + 1 ≤ sizeLimit
      · simp only [show ¬ n + 1 > sizeLimit by omega, if_false, Except.ok.injEq, hs, and_true]
        exact eq_comm
      · simp only [hs, and_false, iff_false, show n + 1 > sizeLimit by omega, if_true]
        intro h
        cases h

theorem make_error_kind {c : Catalog} {l : Option Nat} {e : Failure} (h : make c l = .error e) :
    e.kind = .overflow := by
  unfold make at h
  split at h
  · split at h
    · cases h
    · split at h
      · cases h
        rfl
      · cases h
  · cases h

/-! ## Nodes -/

variable {g : RelationGraph}

theorem mem_nodes {n : GraphNode} : n ∈ g.nodes ↔ n.table ∈ g.catalog.tables ∧ n.level ∈ g.levels := by
  simp only [nodes, List.mem_flatMap, List.mem_map]
  constructor
  · rintro ⟨t, ht, l, hl, rfl⟩
    exact ⟨ht, hl⟩
  · rintro ⟨ht, hl⟩
    exact ⟨n.table, ht, n.level, hl, rfl⟩

theorem levels_nodup (g : RelationGraph) : g.levels.Nodup := by
  unfold levels
  split
  · exact (List.nodup_range).map (Option.some_injective _)
  · simp

/-- With tables keyed by name, no two nodes share a table name and a
level. -/
theorem nodes_keys_nodup (h : (g.catalog.tables.map (·.name)).Nodup) :
    (g.nodes.map fun n => (n.table.name, n.level)).Nodup := by
  rw [nodes, List.map_flatMap, List.nodup_flatMap]
  refine ⟨fun t _ => ?_, ?_⟩
  · rw [List.map_map]
    exact (levels_nodup g).map fun a b hab => by simpa using hab
  · -- different tables have different names, so their keys are disjoint
    have hpair := (List.pairwise_map.mp h)
    refine hpair.imp fun {t u} hne => ?_
    simp only [Function.onFun, List.map_map, Function.comp_def]
    rw [List.disjoint_left]
    intro k hk hk'
    simp only [List.mem_map] at hk hk'
    obtain ⟨_, _, rfl⟩ := hk
    obtain ⟨_, _, heq⟩ := hk'
    exact hne (by simpa using (congrArg Prod.fst heq).symm)

theorem nodes_nodup (h : (g.catalog.tables.map (·.name)).Nodup) : g.nodes.Nodup :=
  List.Nodup.of_map _ (nodes_keys_nodup h)

/-! ## Edges -/

/-- The edges a node's table has towards a level: one per relation whose
target table is found. -/
def targetEdges (c : Catalog) (t : Table) (level : Option Nat) : List (Relation × GraphNode) :=
  t.relations.filterMap fun r => (c.table? r.target).map fun u => (r, ⟨u, level⟩)

theorem edges_bounded (c : Catalog) (N k : Nat) (t : Table) :
    (⟨c, some N⟩ : RelationGraph).edges ⟨t, some k⟩ =
      if k < N then targetEdges c t (some (k + 1)) else [] := by
  by_cases hk : k < N <;> simp [edges, targetEdges, hk]

theorem edges_unbounded (c : Catalog) (n : GraphNode) :
    (⟨c, none⟩ : RelationGraph).edges n = targetEdges c n.table none := by
  rcases n with ⟨t, _ | k⟩ <;> rfl

section TargetEdges

variable {c : Catalog} {t : Table} {level : Option Nat}

/-- When every target is found, a table's edges are its relations, in
order, each to its target's node. -/
theorem targetEdges_fst (ht : ∀ r ∈ t.relations, (c.table? r.target).isSome) :
    (targetEdges c t level).map (·.1) = t.relations := by
  unfold targetEdges
  generalize t.relations = rs at ht ⊢
  induction rs with
  | nil => rfl
  | cons r rs ih =>
    obtain ⟨u, hu⟩ := Option.isSome_iff_exists.mp (ht r (by simp))
    simp only [List.filterMap_cons, hu, Option.map_some, List.map_cons]
    rw [ih fun r' hr' => ht r' (by simp [hr'])]

theorem mem_targetEdges {e : Relation × GraphNode} (he : e ∈ targetEdges c t level) :
    e.1 ∈ t.relations ∧ c.table? e.1.target = some e.2.table ∧ e.2.level = level := by
  simp only [targetEdges, List.mem_filterMap, Option.map_eq_some_iff] at he
  obtain ⟨r, hr, u, hu, rfl⟩ := he
  exact ⟨hr, hu, rfl⟩

/-- A name that no relation has has no edge. -/
theorem find?_targetEdges_none {a : String} (ha : ∀ r ∈ t.relations, r.name ≠ a) :
    (targetEdges c t level).find? (·.1.name == a) = none := by
  rw [List.find?_eq_none]
  intro e he
  simpa using ha e.1 (mem_targetEdges he).1

/-- The edge under a relation's name leads to its target's node, when
relation names are distinct and targets are found. -/
theorem find?_targetEdges_some (hnames : (t.relations.map (·.name)).Nodup)
    (ht : ∀ r ∈ t.relations, (c.table? r.target).isSome) {r : Relation} (hr : r ∈ t.relations) :
    ∃ u, c.table? r.target = some u ∧
      (targetEdges c t level).find? (·.1.name == r.name) = some (r, ⟨u, level⟩) := by
  obtain ⟨u, hu⟩ := Option.isSome_iff_exists.mp (ht r hr)
  refine ⟨u, hu, ?_⟩
  have hmem : (r, (⟨u, level⟩ : GraphNode)) ∈ targetEdges c t level := by
    simp only [targetEdges, List.mem_filterMap]
    exact ⟨r, hr, by simp [hu]⟩
  have hsome : ((targetEdges c t level).find? (·.1.name == r.name)).isSome :=
    List.find?_isSome.mpr ⟨_, hmem, by simp⟩
  obtain ⟨e, he⟩ := Option.isSome_iff_exists.mp hsome
  have hsat : e.1.name = r.name := by simpa using List.find?_some he
  obtain ⟨he₁, hu', hlevel⟩ := mem_targetEdges (List.mem_of_find?_eq_some he)
  -- relation names are distinct, so the edge found is the relation's own
  have hrel : e.1 = r := List.inj_on_of_nodup_map hnames he₁ hr hsat
  rw [hrel, hu, Option.some_inj] at hu'
  rw [he]
  obtain ⟨e₁, ⟨et, el⟩⟩ := e
  simp only at hrel hu' hlevel
  subst hrel hu' hlevel
  rfl

end TargetEdges

/-! ## Following edges by name -/

section Follow

variable {c : Catalog} (hc : c.Keyed)
include hc

/-- One step of following: along a relation of the table, to its target's
node at the level the edges lead to. -/
theorem follow_step {t : Table} (ht : t ∈ c.tables) (level : Option Nat) (a : String) (rest : List String)
    (g : RelationGraph) (n : GraphNode) :
    (match (targetEdges c t level).find? (·.1.name == a) with
      | some (_, m) => g.follow m rest
      | none => none) = some n ↔
      ∃ r ∈ t.relations, r.name = a ∧ ∃ u, c.table? r.target = some u ∧ g.follow ⟨u, level⟩ rest = some n := by
  by_cases ha : ∃ r ∈ t.relations, r.name = a
  · obtain ⟨r, hr, rfl⟩ := ha
    obtain ⟨u, hu, hfind⟩ : ∃ u, c.table? r.target = some u ∧
        (targetEdges c t level).find? (·.1.name == r.name) = some (r, ⟨u, level⟩) :=
      find?_targetEdges_some (hc.relations t ht) (hc.targets t ht) hr
    rw [hfind]
    constructor
    · intro h
      exact ⟨r, hr, rfl, u, hu, h⟩
    · rintro ⟨r', hr', hname, u', hu', h⟩
      -- the relation named is `r` itself, and so is its target
      have hrr : r' = r := List.inj_on_of_nodup_map (hc.relations t ht) hr' hr hname
      subst hrr
      rw [hu, Option.some_inj] at hu'
      subst hu'
      exact h
  · push Not at ha
    rw [find?_targetEdges_none ha]
    simp only [reduceCtorEq, false_iff, not_exists, not_and]
    intro r hr hname
    exact absurd hname (ha r hr)

/-- Below a limit `N`, the names followable from a table's node at level
`k` are the relation chains from the table of at most `N - k` relations,
each ending at its last target's node, one level deeper per relation. -/
theorem follow_bounded {N : Nat} (names : List String) :
    ∀ {t : Table} {k : Nat}, t ∈ c.tables → k ≤ N → ∀ n : GraphNode,
      (⟨c, some N⟩ : RelationGraph).follow ⟨t, some k⟩ names = some n ↔
        ∃ rs u, c.Chain t rs u ∧ rs.map (·.name) = names ∧ k + rs.length ≤ N ∧
          n = ⟨u, some (k + rs.length)⟩ := by
  induction names with
  | nil =>
    intro t k _ hk n
    simp only [follow, Option.some_inj, List.map_eq_nil_iff]
    constructor
    · rintro rfl
      exact ⟨[], t, .nil t, rfl, by simpa using hk, by simp⟩
    · rintro ⟨rs, u, hchain, rfl, -, rfl⟩
      rw [Catalog.chain_nil_iff.mp hchain]
      simp
  | cons a rest ih =>
    intro t k ht hk n
    simp only [follow, edges_bounded]
    by_cases hlt : k < N
    · rw [if_pos hlt, follow_step hc ht]
      constructor
      · rintro ⟨r, hr, rfl, u, hu, h⟩
        have hu' := (Catalog.table?_eq_some hu).1
        obtain ⟨rs, w, hchain, hnames, hlen, rfl⟩ := (ih hu' hlt n).mp h
        refine ⟨r :: rs, w, Catalog.chain_cons_iff.mpr ⟨hr, u, hu, hchain⟩, by simp [hnames], ?_, ?_⟩
        · simp only [List.length_cons]
          omega
        · simp only [List.length_cons, GraphNode.mk.injEq, Option.some_inj, true_and]
          omega
      · rintro ⟨_ | ⟨r, rs⟩, w, hchain, hnames, hlen, rfl⟩
        · simp at hnames
        · obtain ⟨hr, u, hu, hrest⟩ := Catalog.chain_cons_iff.mp hchain
          simp only [List.map_cons, List.cons.injEq] at hnames
          have hu' := (Catalog.table?_eq_some hu).1
          refine ⟨r, hr, hnames.1, u, hu, (ih hu' hlt _).mpr ⟨rs, w, hrest, hnames.2, ?_, ?_⟩⟩
          · simp only [List.length_cons] at hlen
            omega
          · simp only [List.length_cons, GraphNode.mk.injEq, Option.some_inj, true_and]
            omega
    · -- at the limit there is no edge, and no chain of one relation or more fits
      rw [if_neg hlt]
      simp only [List.find?_nil, reduceCtorEq, false_iff, not_exists, not_and]
      intro rs u _ hnames hlen
      cases rs with
      | nil => simp at hnames
      | cons r rs =>
        simp only [List.length_cons] at hlen
        omega

/-- Without a limit, every relation chain from a table is followable, and
ends at its last target's only node. -/
theorem follow_unbounded (names : List String) :
    ∀ {t : Table}, t ∈ c.tables → ∀ n : GraphNode,
      (⟨c, none⟩ : RelationGraph).follow ⟨t, none⟩ names = some n ↔
        ∃ rs u, c.Chain t rs u ∧ rs.map (·.name) = names ∧ n = ⟨u, none⟩ := by
  induction names with
  | nil =>
    intro t _ n
    simp only [follow, Option.some_inj, List.map_eq_nil_iff]
    constructor
    · rintro rfl
      exact ⟨[], t, .nil t, rfl, rfl⟩
    · rintro ⟨rs, u, hchain, rfl, rfl⟩
      rw [Catalog.chain_nil_iff.mp hchain]
  | cons a rest ih =>
    intro t ht n
    simp only [follow, edges_unbounded]
    rw [follow_step hc ht]
    constructor
    · rintro ⟨r, hr, rfl, u, hu, h⟩
      obtain ⟨rs, w, hchain, hnames, rfl⟩ := (ih (Catalog.table?_eq_some hu).1 n).mp h
      exact ⟨r :: rs, w, Catalog.chain_cons_iff.mpr ⟨hr, u, hu, hchain⟩, by simp [hnames], rfl⟩
    · rintro ⟨_ | ⟨r, rs⟩, w, hchain, hnames, rfl⟩
      · simp at hnames
      · obtain ⟨hr, u, hu, hrest⟩ := Catalog.chain_cons_iff.mp hchain
        simp only [List.map_cons, List.cons.injEq] at hnames
        exact ⟨r, hr, hnames.1, u, hu, (ih (Catalog.table?_eq_some hu).1 _).mpr ⟨rs, w, hrest, hnames.2, rfl⟩⟩

end Follow

/-! ## Node names -/

/-- The digits that end a text after a character other than a digit are
the digits it was given, and what stands before them is the rest. -/
theorem trailing_digits {pre ds : List Char} {x : Char} (hx : x.isDigit = false)
    (hds : ∀ d ∈ ds, d.isDigit = true) :
    ((pre ++ [x]) ++ ds).reverse.takeWhile Char.isDigit = ds.reverse ∧
      ((pre ++ [x]) ++ ds).reverse.dropWhile Char.isDigit = (pre ++ [x]).reverse := by
  have hrev : ∀ d ∈ ds.reverse, d.isDigit = true := fun d hd => hds d (List.mem_reverse.mp hd)
  rw [List.reverse_append, List.takeWhile_append_of_pos hrev, List.dropWhile_append_of_pos hrev]
  simp [hx]

/-- A node name at level zero, or without a level, ends in no digit. -/
theorem name_digits_base (t : Table) {l : Option Nat} (hl : l = none ∨ l = some 0) :
    (GraphNode.name ⟨t, l⟩).toList.reverse.takeWhile Char.isDigit = [] ∧
      (GraphNode.name ⟨t, l⟩).toList.reverse.dropWhile Char.isDigit = (t.typeName ++ "SelectItem").toList.reverse := by
  have hname : (GraphNode.name ⟨t, l⟩).toList = ((t.typeName ++ "SelectIte").toList ++ ['m']) ++ [] := by
    rcases hl with rfl | rfl <;> simp [GraphNode.name, String.toList_append]
  have hm : ('m' : Char).isDigit = false := by decide
  rw [hname]
  obtain ⟨htake, hdrop⟩ := @trailing_digits _ [] _ hm (by simp)
  refine ⟨by simp, ?_⟩
  rw [hdrop]
  simp [String.toList_append]

/-- A node name at a level above zero ends in the level's digits, after
`Depth`. -/
theorem name_digits_depth (t : Table) (k : Nat) :
    (GraphNode.name ⟨t, some (k + 1)⟩).toList.reverse.takeWhile Char.isDigit = (Nat.toDigits 10 (k + 1)).reverse ∧
      (GraphNode.name ⟨t, some (k + 1)⟩).toList.reverse.dropWhile Char.isDigit =
        (t.typeName ++ "SelectItemDepth").toList.reverse := by
  have hname : (GraphNode.name ⟨t, some (k + 1)⟩).toList =
      ((t.typeName ++ "SelectItemDept").toList ++ ['h']) ++ Nat.toDigits 10 (k + 1) := by
    simp [GraphNode.name, String.toList_append]
  have hh : ('h' : Char).isDigit = false := by decide
  have hdigits : ∀ d ∈ Nat.toDigits 10 (k + 1), d.isDigit = true := fun d hd =>
    Nat.isDigit_of_mem_toDigits (by norm_num) (by norm_num) hd
  rw [hname]
  obtain ⟨htake, hdrop⟩ := trailing_digits hh hdigits
  refine ⟨htake, ?_⟩
  rw [hdrop]
  simp [String.toList_append]

/-- Type names equal once a common suffix is taken off. -/
theorem typeName_eq_of_suffix {t u : Table} {s : String}
    (h : (t.typeName ++ s).toList.reverse = (u.typeName ++ s).toList.reverse) :
    t.typeName = u.typeName :=
  (String.append_left_inj s).mp (String.toList_inj.mp (List.reverse_injective h))

/-- Nodes of one graph with equal names have equal type names and levels:
the trailing digits of a name give its level, and the rest its type name. -/
theorem name_inj {n m : GraphNode} (hn : n ∈ g.nodes) (hm : m ∈ g.nodes) (h : n.name = m.name) :
    n.table.typeName = m.table.typeName ∧ n.level = m.level := by
  rcases n with ⟨t, ln⟩
  rcases m with ⟨u, lm⟩
  have hln := (mem_nodes.mp hn).2
  have hlm := (mem_nodes.mp hm).2
  have htake := congrArg (fun s : String => s.toList.reverse.takeWhile Char.isDigit) h
  have hdrop := congrArg (fun s : String => s.toList.reverse.dropWhile Char.isDigit) h
  -- the levels of one graph are all absent, or all present
  cases hg : g.depthLimit with
  | none =>
    simp only [levels, hg, List.mem_singleton] at hln hlm
    subst hln hlm
    rw [(name_digits_base t (.inl rfl)).2, (name_digits_base u (.inl rfl)).2] at hdrop
    exact ⟨typeName_eq_of_suffix hdrop, rfl⟩
  | some N =>
    simp only [levels, hg, List.mem_map] at hln hlm
    obtain ⟨i, -, rfl⟩ := hln
    obtain ⟨j, -, rfl⟩ := hlm
    cases i with
    | zero =>
      cases j with
      | zero =>
        rw [(name_digits_base t (.inr rfl)).2, (name_digits_base u (.inr rfl)).2] at hdrop
        exact ⟨typeName_eq_of_suffix hdrop, rfl⟩
      | succ j =>
        rw [(name_digits_base t (.inr rfl)).1, (name_digits_depth u j).1] at htake
        simp at htake
    | succ i =>
      cases j with
      | zero =>
        rw [(name_digits_depth t i).1, (name_digits_base u (.inr rfl)).1] at htake
        simp at htake
      | succ j =>
        rw [(name_digits_depth t i).1, (name_digits_depth u j).1] at htake
        rw [(name_digits_depth t i).2, (name_digits_depth u j).2] at hdrop
        have hij : i + 1 = j + 1 := by
          rw [← Nat.ofDigitChars_ten_toDigits (n := i + 1), List.reverse_injective htake,
            Nat.ofDigitChars_ten_toDigits]
        exact ⟨typeName_eq_of_suffix hdrop, by rw [hij]⟩

/-- Node names are distinct when the tables' type names are. -/
theorem names_nodup (h : (g.catalog.tables.map (·.typeName)).Nodup) : (g.nodes.map (·.name)).Nodup := by
  have hnames : (g.catalog.tables.map (·.name)).Nodup :=
    (List.Nodup.of_map _ h).map_on fun t ht u hu htu =>
      List.inj_on_of_nodup_map h ht hu (by simp [Table.typeName, htu])
  refine (nodes_nodup hnames).map_on fun n hn m hm hnm => ?_
  obtain ⟨htype, hlevel⟩ := name_inj hn hm hnm
  have htable : n.table = m.table :=
    List.inj_on_of_nodup_map h (mem_nodes.mp hn).1 (mem_nodes.mp hm).1 htype
  cases n
  cases m
  simp_all

/-! ## The shape of a graph -/

/-- The shape of a graph with depth limit `N`: one node per table and level
`0 … N`, one edge per relation below level `N` to the target's node a level
deeper and none at level `N`, the chains of at most `N` relations
followable from a table's root, and distinct names for distinct type names. -/
structure LevelledBy (g : RelationGraph) (N : Nat) : Prop where
  nodes : ∀ n, n ∈ g.nodes ↔ n.table ∈ g.catalog.tables ∧ ∃ k ≤ N, n.level = some k
  keys : (g.nodes.map fun n => (n.table.name, n.level)).Nodup
  edges : ∀ t ∈ g.catalog.tables, ∀ k < N, (g.edges ⟨t, some k⟩).map (·.1) = t.relations ∧
    ∀ e ∈ g.edges ⟨t, some k⟩, g.catalog.table? e.1.target = some e.2.table ∧ e.2.level = some (k + 1)
  last : ∀ t, g.edges ⟨t, some N⟩ = []
  paths : ∀ t ∈ g.catalog.tables, ∀ names n, g.follow (g.root t) names = some n ↔
    ∃ rs u, g.catalog.Chain t rs u ∧ rs.map (·.name) = names ∧ rs.length ≤ N ∧ n = ⟨u, some rs.length⟩
  names : (g.catalog.tables.map (·.typeName)).Nodup → (g.nodes.map (·.name)).Nodup

/-- The shape of a graph without a depth limit: one node per table, one
edge per relation to the target's node, every relation chain followable
from a table's root, and distinct names for distinct type names. -/
structure Unlevelled (g : RelationGraph) : Prop where
  nodes : ∀ n, n ∈ g.nodes ↔ n.table ∈ g.catalog.tables ∧ n.level = none
  keys : (g.nodes.map (·.table.name)).Nodup
  edges : ∀ t ∈ g.catalog.tables, (g.edges ⟨t, none⟩).map (·.1) = t.relations ∧
    ∀ e ∈ g.edges ⟨t, none⟩, g.catalog.table? e.1.target = some e.2.table ∧ e.2.level = none
  paths : ∀ t ∈ g.catalog.tables, ∀ names n, g.follow (g.root t) names = some n ↔
    ∃ rs u, g.catalog.Chain t rs u ∧ rs.map (·.name) = names ∧ n = ⟨u, none⟩
  names : (g.catalog.tables.map (·.typeName)).Nodup → (g.nodes.map (·.name)).Nodup

theorem levelledBy {c : Catalog} (hc : c.Keyed) (N : Nat) : LevelledBy ⟨c, some N⟩ N where
  nodes n := by
    rw [mem_nodes]
    simp only [levels, List.mem_map, List.mem_range]
    constructor
    · rintro ⟨ht, k, hk, hl⟩
      exact ⟨ht, k, by omega, hl.symm⟩
    · rintro ⟨ht, k, hk, hl⟩
      exact ⟨ht, k, by omega, hl.symm⟩
  keys := nodes_keys_nodup hc.tables
  edges t ht k hk := by
    rw [edges_bounded, if_pos hk]
    exact ⟨targetEdges_fst (hc.targets t ht), fun e he => (mem_targetEdges he).2⟩
  last t := by simp [edges_bounded]
  paths t ht names n := by
    rw [show (⟨c, some N⟩ : RelationGraph).root t = ⟨t, some 0⟩ from rfl]
    simpa using follow_bounded hc names ht (Nat.zero_le N) n
  names := names_nodup

theorem unlevelled {c : Catalog} (hc : c.Keyed) : Unlevelled ⟨c, none⟩ where
  nodes n := by
    rw [mem_nodes]
    simp [levels]
  keys := by
    have hnodes : (⟨c, none⟩ : RelationGraph).nodes = c.tables.map fun t => ⟨t, none⟩ := by
      simp [nodes, levels, List.map_eq_flatMap]
    rw [hnodes, List.map_map]
    exact hc.tables
  edges t ht := by
    rw [edges_unbounded]
    exact ⟨targetEdges_fst (hc.targets t ht), fun e he => (mem_targetEdges he).2⟩
  paths t ht names n := follow_unbounded hc names ht n
  names := names_nodup

/-! ## Building a graph from a depth limit -/

/-- What building the graph of a keyed catalog from a depth limit gives:
a schema-build refusal exactly for a limit that is neither null nor a
nonnegative integer; for a natural number `N`, a graph exactly when its
levels can be laid out, shaped by `N`; and without a limit, a graph with a
node per table. -/
theorem built_levels (c : Catalog) (hc : c.Keyed) (v : Value) :
    ((∃ e, (depthLimitOf v >>= make c) = .error e ∧ e.kind = .schemaBuild) ↔
        ¬ (v = .none ∨ ∃ n : Int, 0 ≤ n ∧ v = .int n)) ∧
    (∀ N : Nat, (∃ g, (depthLimitOf (.int N) >>= make c) = .ok g) ↔ c.tables = [] ∨ N + 1 ≤ sizeLimit) ∧
    (∀ (N : Nat) g, (depthLimitOf (.int N) >>= make c) = .ok g → LevelledBy g N) ∧
    (∃ g, (depthLimitOf .none >>= make c) = .ok g ∧ Unlevelled g) := by
  have hlimit : ∀ N : Nat, depthLimitOf (.int N) = .ok (some N) := fun N => by
    simp [depthLimitOf]
  refine ⟨?_, fun N => ?_, fun N g h => ?_, ⟨⟨c, none⟩, rfl, unlevelled hc⟩⟩
  · constructor
    · rintro ⟨e, he, hkind⟩ hv
      obtain ⟨l, hl⟩ := depthLimitOf_ok_iff.mpr hv
      rw [hl] at he
      have := make_error_kind he
      rw [hkind] at this
      simp at this
    · intro hv
      cases hl : depthLimitOf v with
      | error e => exact ⟨e, rfl, depthLimitOf_error_kind hl⟩
      | ok l => exact absurd (depthLimitOf_ok_iff.mp ⟨l, hl⟩) hv
  · rw [hlimit]
    show (∃ g, make c (some N) = .ok g) ↔ _
    simp only [make_ok_iff, exists_eq_left]
    constructor
    · intro h
      exact h N rfl
    · rintro h _ ⟨⟩
      exact h
  · rw [hlimit] at h
    obtain ⟨rfl, -⟩ := make_ok_iff.mp (show make c (some N) = .ok g from h)
    exact levelledBy hc N

end RelationGraph

end TableGraph

namespace TableGraph.RelationGraph

/-- Users who write posts and invite one another, and the posts they write:
a self relation and a pair of mutual relations. -/
def writers : Catalog :=
  { tables := [
      { name := "users"
        columns := [{ name := "id", table := "users", tag := "integer", columnType := "Integer" }]
        relations := [
          { name := "posts", kind := .many, source := "users", target := "posts", pairs := [("id", "author_id")] },
          { name := "invited_by", kind := .one, source := "users", target := "users",
            pairs := [("invited_by_id", "id")] }] },
      { name := "posts"
        columns := [{ name := "id", table := "posts", tag := "integer", columnType := "Integer" }]
        relations := [
          { name := "author", kind := .one, source := "posts", target := "users", pairs := [("author_id", "id")] }] }] }

/-- A depth limit of `2 ^ 63 - 1` is a natural number, yet no graph is built
for it: its `2 ^ 63` levels overflow the platform's signed sizes. -/
theorem graph_overflows_at_size_bound :
    (depthLimitOf (.int (2 ^ 63 - 1)) >>= make writers) =
      .error ⟨.overflow, "Python int too large to convert to C ssize_t"⟩ := by
  rfl

theorem writers_keyed : writers.Keyed := ⟨by decide, by decide, by decide⟩

/-- The writers' graph built with a depth limit of two. -/
theorem writers_levels :
    writers.Keyed ∧
      ((∃ e, (depthLimitOf (.int 2) >>= make writers) = .error e ∧ e.kind = .schemaBuild) ↔
          ¬ (Value.int 2 = .none ∨ ∃ n : Int, 0 ≤ n ∧ Value.int 2 = .int n)) ∧
      (∀ N : Nat, (∃ g, (depthLimitOf (.int N) >>= make writers) = .ok g) ↔
        writers.tables = [] ∨ N + 1 ≤ sizeLimit) ∧
      (∀ (N : Nat) g, (depthLimitOf (.int N) >>= make writers) = .ok g → LevelledBy g N) ∧
      (∃ g, (depthLimitOf .none >>= make writers) = .ok g ∧ Unlevelled g) :=
  ⟨writers_keyed, built_levels writers writers_keyed (.int 2)⟩

end TableGraph.RelationGraph
