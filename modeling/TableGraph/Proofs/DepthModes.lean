import Mathlib
import TableGraph.Proofs.LevelledApis

/-!
# Queries with and without a depth limit

An API compiled with a relation depth limit `N` and one compiled without a
limit, whose requests carry a depth budget `B ≥ N` instead, answer a query
with the same data when the query's relation fields nest at most `N` deep,
it selects no field of the query language's own, and no fragment of it is
conditioned on a table's output type.

The proof is a `Simulation` between the two executions (`levelledSimulation`):
a table's type at level `k` of the limited API is related to its single
type in the other for the field nodes whose selections nest within the
`N - k` levels left, and the scalar, point and enumeration types are
related to themselves. The two types of a table have the same fields while
levels are left (the relation fields of the last level are missing, but the
nesting rules them out), read the same values, and lead to related types.
Each root read of a table collects the same load spec on both sides, since
the budget never refuses a selection that nests within it
(`collect_budget_free`), and hydrates its rows alike (`hydrate_levels`).

## Main results

* `levelledSimulation` — the two executions of a document simulate each
  other.
* `prepare_levels` — a root field is prepared alike.
-/

namespace TableGraph

open GraphQL Generate

/-! ## Reading fields alike -/

/-- Roles that read the same value from a row: the same role, or relations
that differ only in the node they lead to. -/
inductive RoleAlike : Option FieldRole → Option FieldRole → Prop
  | same (role : Option FieldRole) : RoleAlike role role
  | relation (r : Relation) (m₁ m₂ : GraphNode) : RoleAlike (some (.relation r m₁)) (some (.relation r m₂))

namespace CompiledSchema

/-- A field whose roles read alike, and whose column, if it reads one, is
of an object type on both sides or on neither, is read alike. -/
theorem readField_congr {s₁ s₂ : CompiledSchema} {n₁ n₂ f : String}
    (hrole : RoleAlike (s₁.api.role? n₁ f) (s₂.api.role? n₂ f))
    (hret : ∀ c, s₁.api.role? n₁ f = some (.column c) → s₁.returnsObject n₁ f = s₂.returnsObject n₂ f)
    (e : Entity) (key : String) : s₁.readField e n₁ f key = s₂.readField e n₂ f key := by
  cases e with
  | outcome ok => rfl
  | point x y => rfl
  | row values related =>
    simp only [readField]
    generalize hr₁ : s₁.api.role? n₁ f = o₁ at hrole hret
    generalize hr₂ : s₂.api.role? n₂ f = o₂ at hrole
    cases hrole with
    | relation r m₁ m₂ => rfl
    | same =>
      rcases o₁ with _ | ⟨c⟩ | ⟨r, m⟩ | _ | _ | _ | _ | _ | _ | _
      all_goals try rfl
      simp only [hret c rfl]

/-- Whether a field is of an object type is decided by the field and the
definition of its type. -/
theorem returnsObject_congr {s₁ s₂ : CompiledSchema} {n₁ n₂ f : String} {F : Field}
    (h₁ : s₁.api.schema.fieldDef? n₁ f = some F) (h₂ : s₂.api.schema.fieldDef? n₂ f = some F)
    (hbase : s₁.api.schema.definition? F.type.baseName = s₂.api.schema.definition? F.type.baseName) :
    s₁.returnsObject n₁ f = s₂.returnsObject n₂ f := by
  simp only [returnsObject, h₁, h₂, Option.bind_some, hbase]

/-- A field read from an entity holds no part of the schema. -/
theorem readField_partFree (s : CompiledSchema) (e : Entity) (parent f key : String) {src : Source Entity}
    (h : s.readField e parent f key = .ok src) : src.PartFree := by
  cases e with
  | outcome ok =>
    simp only [readField, Except.ok.injEq] at h
    subst h
    split
    · exact .leaf _
    · exact .null
  | point x y =>
    simp only [readField] at h
    split at h
    · obtain ⟨v, -, rfl⟩ := Outcome.map_eq_ok.mp h; exact .leaf _
    · obtain ⟨v, -, rfl⟩ := Outcome.map_eq_ok.mp h; exact .leaf _
    · cases h; exact .null
  | row values related =>
    simp only [readField] at h
    split at h
    · split at h <;> (try split at h) <;> cases h <;> first | exact .leaf _ | exact .object _
    · split at h
      · split at h <;> cases h
        · exact .list fun s hs => by obtain ⟨o, -, rfl⟩ := List.mem_map.mp hs; exact .object o
        · rcases List.head? _ with _ | o <;> simp only [Option.map_none, Option.map_some,
            Option.getD_none, Option.getD_some] <;> first | exact .null | exact .object o
      · split at h <;> cases h
        · exact .list fun s hs => by simp at hs
        · exact .null
    · cases h; exact .null

/-- The answer of a mutation holds no part of the schema. -/
theorem mutationAnswer_partFree (s : CompiledSchema) (t : Table) (single : Bool) (rows : List Row)
    {src : Source Entity} (h : s.mutationAnswer t single rows = .ok src) : src.PartFree := by
  unfold mutationAnswer at h
  split at h
  · cases h; exact .object _
  · obtain ⟨items, -, h⟩ := Outcome.bind_eq_ok.mp h
    split at h
    · split at h <;> cases h
      · exact .object _
      · exact .null
    · cases h
      exact .list fun s hs => by obtain ⟨o, -, rfl⟩ := List.mem_map.mp hs; exact .object o

theorem mutate_partFree (s : CompiledSchema) (t : Table) (single : Bool)
    (run : Store.Database → Outcome (List Row) × Store.Database) (session : Session) {src : Source Entity}
    (h : (s.mutate t single run session).1 = .ok src) : src.PartFree := by
  unfold mutate at h
  split at h
  next out session' _ =>
    split at h
    · exact s.mutationAnswer_partFree t single _ h
    · cases h

/-- What a prepared root field gives holds no part of the schema. -/
theorem prepare_partFree (s : CompiledSchema) (connected : Bool) (call : RootCall)
    {run : Session → Outcome (Source Entity) × Session} (h : s.prepare connected call = .ok run)
    (st : Session) {src : Source Entity} {st' : Session} (hrun : run st = (.ok src, st')) : src.PartFree := by
  unfold prepare at h
  dsimp only at h
  split at h
  · -- a read of many rows gives a list of them
    split at h
    · cases h
    obtain ⟨spec, -, h⟩ := Outcome.bind_eq_ok.mp h
    obtain rfl := Outcome.pure_eq_ok.mp h
    simp only [Prod.mk.injEq, Outcome.bind_eq_ok, Outcome.pure_eq_ok] at hrun
    obtain ⟨⟨rows, -, items, -, rfl⟩, -⟩ := hrun
    exact .list fun s hs => by obtain ⟨o, -, rfl⟩ := List.mem_map.mp hs; exact .object o
  · -- a read of the first row gives it, or null
    split at h
    · cases h
    obtain ⟨spec, -, h⟩ := Outcome.bind_eq_ok.mp h
    obtain rfl := Outcome.pure_eq_ok.mp h
    simp only [Prod.mk.injEq, Outcome.bind_eq_ok] at hrun
    obtain ⟨⟨rows, -, hrows⟩, -⟩ := hrun
    split at hrows
    · obtain ⟨e, -, he⟩ := Outcome.bind_eq_ok.mp hrows
      cases he; exact .object e
    · cases hrows; exact .null
  · -- a mutation runs its statements and answers with its rows or its success
    obtain ⟨rows, -, h⟩ := Outcome.bind_eq_ok.mp h
    split at h
    · obtain ⟨_, hfail, -⟩ := Outcome.bind_eq_ok.mp h; cases hfail
    · obtain rfl := Outcome.pure_eq_ok.mp h
      exact mutate_partFree _ _ _ _ st (by rw [hrun])
  · obtain ⟨values, -, h⟩ := Outcome.bind_eq_ok.mp h
    split at h
    · obtain ⟨_, hfail, -⟩ := Outcome.bind_eq_ok.mp h; cases hfail
    obtain ⟨p, -, h⟩ := Outcome.bind_eq_ok.mp h
    split at h
    · obtain ⟨_, hfail, -⟩ := Outcome.bind_eq_ok.mp h; cases hfail
    · obtain rfl := Outcome.pure_eq_ok.mp h
      exact mutate_partFree _ _ _ _ st (by rw [hrun])
  · obtain ⟨p, -, h⟩ := Outcome.bind_eq_ok.mp h
    split at h
    · obtain ⟨_, hfail, -⟩ := Outcome.bind_eq_ok.mp h; cases hfail
    · obtain rfl := Outcome.pure_eq_ok.mp h
      exact mutate_partFree _ _ _ _ st (by rw [hrun])
  · -- any other field gives null
    obtain rfl := Outcome.pure_eq_ok.mp h
    cases hrun
    exact .null

/-- Checking the rows of an insert reads only the registry. -/
theorem insertRowsOf_congr {s₁ s₂ : CompiledSchema} (hr : s₁.registry = s₂.registry) :
    s₁.insertRowsOf = s₂.insertRowsOf := by
  funext t inputs
  simp only [insertRowsOf, hr]

/-- Running a mutation reads only the backend and the registry. -/
theorem mutate_congr {s₁ s₂ : CompiledSchema} (hb : s₁.backend = s₂.backend) (hr : s₁.registry = s₂.registry) :
    s₁.mutate = s₂.mutate := by
  funext t single run session
  simp only [mutate, mutationAnswer, hb, hr]

end CompiledSchema

/-! ## Two APIs of one catalog -/

/-- What an API generates depends on its settings only through whether it
has mutations. -/
theorem GeneratedApi.generate_mutations {reg : Registry} {g : RelationGraph} {b : Backend}
    {settings settings' : BuildSettings} (h : settings.mutations = settings'.mutations) :
    GeneratedApi.generate reg g b settings = GeneratedApi.generate reg g b settings' := by
  unfold GeneratedApi.generate
  rw [h]

theorem GraphQL.NamedType.isInput_of_isObject {d : NamedType} (h : d.isObject = true) : d.isInput = false := by
  obtain ⟨name, description, _ | _ | _ | _⟩ := d <;> simp_all [NamedType.isObject, NamedType.isInput]

/-- Two APIs compiled from one catalog and one registry on one backend, the
first with the relation depth limit `N`, the second with no limit and a
request budget of at least `N`, alike in whether they have mutations, each
defining its types under distinct names. -/
structure DepthModes (s₁ s₂ : CompiledSchema) (C : Catalog) (N : Nat) : Prop where
  catalog₁ : s₁.catalog = C
  catalog₂ : s₂.catalog = C
  graph₁ : s₁.graph = ⟨C, some N⟩
  graph₂ : s₂.graph = ⟨C, none⟩
  registry : s₁.registry = s₂.registry
  noTypes : s₁.registry.types = []
  backend : s₁.backend = s₂.backend
  mutations : s₁.settings.mutations = s₂.settings.mutations
  budget : N ≤ s₂.settings.maxRelationDepth
  api₁ : GeneratedApi.generate s₁.registry s₁.graph s₁.backend s₁.settings = .ok s₁.api
  api₂ : GeneratedApi.generate s₂.registry s₂.graph s₂.backend s₂.settings = .ok s₂.api
  keyed : C.Keyed
  nodup₁ : (s₁.api.schema.definitions.map (·.name)).Nodup
  nodup₂ : (s₂.api.schema.definitions.map (·.name)).Nodup

/-- Two continuations that agree on every success of a step agree after it. -/
theorem Outcome.bind_congr {ε α β : Type} {x : Except ε α} {f g : α → Except ε β}
    (h : ∀ a, x = .ok a → f a = g a) : x >>= f = x >>= g := by
  cases x with
  | error e => rfl
  | ok a => exact h a rfl

namespace DepthModes

variable {s₁ s₂ : CompiledSchema} {C : Catalog} {N : Nat} (h : DepthModes s₁ s₂ C N)
include h

theorem generate₁ : GeneratedApi.generate s₁.registry ⟨C, some N⟩ s₁.backend s₁.settings = .ok s₁.api :=
  h.graph₁ ▸ h.api₁

theorem generate₂ : GeneratedApi.generate s₁.registry ⟨C, none⟩ s₁.backend s₁.settings = .ok s₂.api := by
  rw [h.registry, h.backend, GeneratedApi.generate_mutations h.mutations, ← h.graph₂]
  exact h.api₂

/-- The two APIs split at the tables' output types. -/
theorem split : Nonempty (GeneratedApi.LevelSplit s₁.registry C N s₁.api s₂.api) :=
  GeneratedApi.generate_levels h.generate₁ h.generate₂

theorem depthBudget₁ : s₁.depthBudget = none := by
  simp [CompiledSchema.depthBudget, h.graph₁]

theorem depthBudget₂ : s₂.depthBudget = some s₂.settings.maxRelationDepth := by
  simp [CompiledSchema.depthBudget, h.graph₂]

/-- The two APIs define the same input types. -/
theorem sameInputs : s₁.api.schema.SameInputs s₂.api.schema := by
  obtain ⟨sp⟩ := h.split
  -- the tables' output types are objects
  have hobjects : ∀ {g : RelationGraph} {nodes : List (NamedType × List ((String × String) × FieldRole))},
      g.nodes.mapM (nodeType s₁.registry g) = .ok nodes → ∀ d ∈ nodes.map (·.1), d.isInput = false := by
    intro g nodes hmap d hd
    obtain ⟨p, hp, rfl⟩ := List.mem_map.mp hd
    obtain ⟨n, -, hn⟩ := Outcome.exists_of_mem_mapM hmap hp
    obtain ⟨-, -, -, hobj, -⟩ := GeneratedApi.nodeType_lookup hn
    exact NamedType.isInput_of_isObject hobj
  exact Schema.sameInputs_of_split sp.defs₁ sp.defs₂ h.nodup₁ h.nodup₂ (hobjects sp.mapM₁) (hobjects sp.mapM₂)

end DepthModes

/-! ## Selections both APIs read alike -/

namespace GraphQL

/-- The type condition of a fragment selection: an inline fragment's, or
that of the fragment spread. -/
def Document.typeCondition? (doc : Document) : Selection → Option String
  | .inline cond _ _ => cond
  | .spread n _ => (doc.fragment? n).map (·.typeCondition)
  | .field .. => none

/-- A selection the two APIs read alike: no field the query language answers
itself, and no fragment conditioned on a table's output type. -/
def Document.ReadsAlike (C : Catalog) (doc : Document) (x : Selection) : Prop :=
  (∀ nd, x.fieldNode? = some nd → nd.name ∉ ["__typename", "__schema", "__type"]) ∧
  ∀ cond, doc.typeCondition? x = some cond → ∀ t ∈ C.tables, ∀ l : Option Nat, cond ≠ (⟨t, l⟩ : GraphNode).name

/-- A selection read alike meets the type conditions of two types of a table
alike: it names neither. -/
theorem Document.conditionAlike_levels {C : Catalog} {doc : Document} {x : Selection} (hx : doc.ReadsAlike C x)
    {t : Table} (ht : t ∈ C.tables) (l₁ l₂ : Option Nat) :
    doc.ConditionAlike (⟨t, l₁⟩ : GraphNode).name (⟨t, l₂⟩ : GraphNode).name x := by
  obtain ⟨-, hcond⟩ := hx
  cases x with
  | field => simp only [Document.ConditionAlike]
  | inline cond ds inner =>
    rcases cond with _ | cond
    · simp only [Document.ConditionAlike]
    · exact iff_of_false (hcond cond rfl t ht l₁) (hcond cond rfl t ht l₂)
  | spread m ds =>
    intro f hf
    have hnot := hcond f.typeCondition (by simp [Document.typeCondition?, hf])
    exact iff_of_false (hnot t ht l₁) (hnot t ht l₂)

/-- Types of one shape whose bottom name is related to itself are related. -/
theorem TypeRef.alike_self {R : String → String → Prop} (t : TypeRef) (h : R t.baseName t.baseName) :
    TypeRef.Alike R t t := by
  induction t with
  | named n => exact .named h
  | list t ih => exact .list (ih h)
  | nonNull t ih => exact .nonNull (ih h)

end GraphQL

/-- The only object among the types no table's output type depends on is the
point type, whose fields are two floats. -/
theorem Generate.sharedTypes_object {reg : Registry} {C : Catalog} {d : NamedType} (hd : d ∈ sharedTypes reg C)
    (hobj : d.isObject = true) : d.name ≠ "Query" ∧ ∀ F ∈ d.fields, F.type = required "Float" := by
  simp only [sharedTypes, List.mem_append] at hd
  rcases hd with (hd | hd) | hd
  · simp only [scalarTypes, scalarType, List.mem_cons, List.not_mem_nil, or_false] at hd
    rcases hd with rfl | rfl | rfl | rfl | rfl <;> simp [NamedType.isObject] at hobj
  · simp only [pointTypes, List.mem_cons, List.not_mem_nil, or_false] at hd
    rcases hd with rfl | rfl
    · refine ⟨by decide, fun F hF => ?_⟩
      simp only [NamedType.fields, List.mem_cons, List.not_mem_nil, or_false] at hF
      rcases hF with rfl | rfl <;> rfl
    · simp [NamedType.isObject] at hobj
  · simp only [enumTypes, List.mem_map] at hd
    obtain ⟨e, -, rfl⟩ := hd
    simp [NamedType.isObject] at hobj

/-- The field a type has under a name is named so. -/
theorem GraphQL.Schema.fieldDef?_name {s : Schema} {m f : String} {F : Field} (h : s.fieldDef? m f = some F) :
    F.name = f := by
  unfold Schema.fieldDef? at h
  split at h
  · next hf => cases h; exact (beq_iff_eq.mp hf).symm
  · split at h
    · next hf => cases h; simp only [Bool.and_eq_true, beq_iff_eq] at hf; exact hf.1.symm
    · split at h
      · next hf => cases h; simp only [Bool.and_eq_true, beq_iff_eq] at hf; exact hf.1.symm
      · obtain ⟨d, -, hd⟩ := Option.bind_eq_some_iff.mp h
        simpa using List.find?_some hd

theorem GraphQL.Schema.fieldDef?_congr {s₁ s₂ : Schema} (hq : s₁.query = s₂.query) {m : String}
    (hd : s₁.definition? m = s₂.definition? m) (f : String) : s₁.fieldDef? m f = s₂.fieldDef? m f := by
  simp only [Schema.fieldDef?, hq, hd]

/-- The fields of a relation at two nodes of one catalog's graphs have the
same name and arguments, and types related as the nodes' names are. -/
theorem Generate.relationField_alike {g₁ g₂ : RelationGraph} (hc : g₁.catalog = g₂.catalog) (r : Relation)
    (m₁ m₂ : GraphNode) {R : String → String → Prop} (hR : R m₁.name m₂.name) :
    (relationField g₁ r m₁).name = (relationField g₂ r m₂).name ∧
      (relationField g₁ r m₁).args = (relationField g₂ r m₂).args ∧
      TypeRef.Alike R (relationField g₁ r m₁).type (relationField g₂ r m₂).type := by
  unfold relationField
  rw [hc]
  split
  · split
    · exact ⟨rfl, rfl, .nonNull (.list (.nonNull (.named hR)))⟩
    · exact ⟨rfl, rfl, .named hR⟩
  · exact ⟨rfl, rfl, .named hR⟩

theorem find?_name_eq_none {α : Type} (xs : List α) (f : α → String) (s : String) :
    xs.find? (f · == s) = none ↔ s ∉ xs.map f := by
  simp [List.find?_eq_none]

/-! ## The types two executions relate -/

/-- The type names two executions of a document complete the same field
nodes against: a table's type at level `k ≤ N` of the limited API and its
single type, for nodes whose selections nest within the levels left; or one
scalar, point or enumeration type on both sides. -/
inductive Levelled (reg : Registry) (C : Catalog) (N : Nat) (doc : Document) :
    String → String → List FieldNode → Prop
  | node {t : Table} {k : Nat} {nodes : List FieldNode} : t ∈ C.tables → k ≤ N →
      (∀ nd ∈ nodes, doc.Nests C.RelationNamed (doc.ReadsAlike C) (N - k) (nd.selections.getD [])) →
      Levelled reg C N doc (⟨t, some k⟩ : GraphNode).name (⟨t, none⟩ : GraphNode).name nodes
  | shared {d : NamedType} {nodes : List FieldNode} : d ∈ sharedTypes reg C →
      Levelled reg C N doc d.name d.name nodes

namespace DepthModes

variable {s₁ s₂ : CompiledSchema} {C : Catalog} {N : Nat} (h : DepthModes s₁ s₂ C N)
  (sp : GeneratedApi.LevelSplit s₁.registry C N s₁.api s₂.api)
include h sp

/-- A table's types at level `k ≤ N` of the limited API and in the other are
objects of its columns' fields, then of its edges' fields, and the roles of
those fields are found likewise. -/
theorem levels_lookup {t : Table} (ht : t ∈ C.tables) {k : Nat} (hk : k ≤ N) :
    ∃ cols, columnFields s₁.registry t = .ok cols ∧
      s₁.api.schema.ObjectType (⟨t, some k⟩ : GraphNode).name ∧ s₂.api.schema.ObjectType (⟨t, none⟩ : GraphNode).name ∧
      (∀ f ∉ ["__typename", "__schema", "__type"], s₁.api.schema.fieldDef? (⟨t, some k⟩ : GraphNode).name f =
        (cols.find? (·.name == f)).or ((((⟨C, some N⟩ : RelationGraph).edges ⟨t, some k⟩).find? (·.1.fieldName == f)).map
          fun (r, m) => relationField ⟨C, some N⟩ r m)) ∧
      (∀ f ∉ ["__typename", "__schema", "__type"], s₂.api.schema.fieldDef? (⟨t, none⟩ : GraphNode).name f =
        (cols.find? (·.name == f)).or ((((⟨C, none⟩ : RelationGraph).edges ⟨t, none⟩).find? (·.1.fieldName == f)).map
          fun (r, m) => relationField ⟨C, none⟩ r m)) ∧
      (∀ f, s₁.api.role? (⟨t, some k⟩ : GraphNode).name f = ((t.columns.find? (·.fieldName == f)).map .column).or
        ((((⟨C, some N⟩ : RelationGraph).edges ⟨t, some k⟩).find? (·.1.fieldName == f)).map
          fun (r, m) => .relation r m)) ∧
      (∀ f, s₂.api.role? (⟨t, none⟩ : GraphNode).name f = ((t.columns.find? (·.fieldName == f)).map .column).or
        ((((⟨C, none⟩ : RelationGraph).edges ⟨t, none⟩).find? (·.1.fieldName == f)).map
          fun (r, m) => .relation r m)) := by
  have hn₁ : (⟨t, some k⟩ : GraphNode) ∈ (⟨C, some N⟩ : RelationGraph).nodes :=
    RelationGraph.mem_nodes.mpr ⟨ht, by simp [RelationGraph.levels]; omega⟩
  have hn₂ : (⟨t, none⟩ : GraphNode) ∈ (⟨C, none⟩ : RelationGraph).nodes :=
    RelationGraph.mem_nodes.mpr ⟨ht, by simp [RelationGraph.levels]⟩
  obtain ⟨cols, hcols, hobj₁, hdef₁, hrole₁⟩ :=
    GeneratedApi.LevelSplit.lookup_node sp.mapM₁ sp.defs₁ sp.roles₁ sp.postRoles h.nodup₁ hn₁
  obtain ⟨cols', hcols', hobj₂, hdef₂, hrole₂⟩ :=
    GeneratedApi.LevelSplit.lookup_node sp.mapM₂ sp.defs₂ sp.roles₂ sp.postRoles h.nodup₂ hn₂
  -- the columns' fields are computed once
  have hsame : cols' = cols := Except.ok.inj (hcols'.symm.trans hcols)
  exact ⟨cols, hcols, hobj₁, hobj₂, hdef₁, hsame ▸ hdef₂, hrole₁, hrole₂⟩

/-- The two types of a table related at level `k` are both objects. -/
theorem levelled_kind (doc : Document) {n₁ n₂ : String} {nodes : List FieldNode}
    (hg : Levelled s₁.registry C N doc n₁ n₂ nodes) :
    (s₁.api.schema.ObjectType n₁ ∧ s₂.api.schema.ObjectType n₂) ∨
      (¬ s₁.api.schema.ObjectType n₁ ∧ s₁.api.schema.definition? n₁ = s₂.api.schema.definition? n₂) := by
  cases hg with
  | node ht hk _ =>
    obtain ⟨-, -, hobj₁, hobj₂, -⟩ := h.levels_lookup sp ht hk
    exact .inl ⟨hobj₁, hobj₂⟩
  | @shared d _ hd =>
    obtain ⟨hd₁, hd₂, -, -⟩ := sp.post_alike h.nodup₁ h.nodup₂ (sp.shared _ hd)
    by_cases hobj : d.isObject = true
    · exact .inl ⟨⟨_, hd₁, hobj⟩, ⟨_, hd₂, hobj⟩⟩
    · refine .inr ⟨fun ⟨d', hd', hobj'⟩ => ?_, hd₁.trans hd₂.symm⟩
      rw [hd₁, Option.some.injEq] at hd'
      exact hobj (hd' ▸ hobj')

/-- A field node selected on a table's two types at level `k`, when it is
not a meta field and levels are left for it if it is named like a relation:
a column's field on both sides, a relation's field on both sides leading to
the target's two types one level down, or a field of neither. -/
theorem node_fieldAlike (doc : Document) (vars : List (String × Value)) {t : Table} (ht : t ∈ C.tables)
    {k : Nat} (hk : k ≤ N) {nd : FieldNode} {rest : List FieldNode}
    (hplain : nd.name ∉ ["__typename", "__schema", "__type"]) (hrel : C.RelationNamed nd.name → k < N)
    (hnests : ∀ g ∈ nd :: rest, doc.Nests C.RelationNamed (doc.ReadsAlike C) (N - (k + 1)) (g.selections.getD [])) :
    FieldAlike (⟨s₁.api.schema, doc, vars⟩ : Context) ⟨s₂.api.schema, doc, vars⟩ s₁.readField s₂.readField
      (fun m₁ m₂ => Levelled s₁.registry C N doc m₁ m₂ (nd :: rest)) (⟨t, some k⟩ : GraphNode).name
      (⟨t, none⟩ : GraphNode).name nd := by
  obtain ⟨cols, hcols, -, -, hdef₁, hdef₂, hrole₁, hrole₂⟩ := h.levels_lookup sp ht hk
  unfold FieldAlike
  dsimp only
  refine ⟨fun hmeta => absurd (hmeta ▸ List.mem_cons_self) hplain, ?_⟩
  rw [hdef₁ _ hplain, hdef₂ _ hplain, RelationGraph.edges_bounded, RelationGraph.edges_unbounded]
  cases hcol : cols.find? (·.name == nd.name) with
  | some F =>
    -- a column: the same field on both sides, of a type both define alike
    have hF : F ∈ cols ∧ F.name = nd.name := ⟨List.mem_of_find?_eq_some hcol, by simpa using List.find?_some hcol⟩
    obtain ⟨c, hc⟩ : ∃ c, t.columns.find? (·.fieldName == nd.name) = some c := by
      rcases hc : t.columns.find? (·.fieldName == nd.name) with _ | c
      · have hnot := (find?_name_eq_none t.columns (·.fieldName) nd.name).mp hc
        rw [← columnFields_names hcols, ← find?_name_eq_none cols (·.name) nd.name] at hnot
        rw [hnot] at hcol
        cases hcol
      · exact ⟨c, hc⟩
    obtain ⟨d, hd, hdname⟩ := columnFields_shared h.noTypes ht hcols F hF.1
    obtain ⟨hd₁, hd₂, -, -⟩ := sp.post_alike h.nodup₁ h.nodup₂ (sp.shared d hd)
    refine .inr ⟨F, F, by simp, by simp, rfl, rfl, TypeRef.alike_self _ (hdname ▸ .shared hd), fun o key => ?_⟩
    apply CompiledSchema.readField_congr
    · rw [hF.2, hrole₁, hrole₂, hc]
      exact .same _
    · intro _ _
      refine CompiledSchema.returnsObject_congr (F := F) ?_ ?_ (by rw [← hdname, hd₁, hd₂])
      · rw [hF.2, hdef₁ _ hplain, hcol]; rfl
      · rw [hF.2, hdef₂ _ hplain, hcol]; rfl
  | none =>
    have hc : t.columns.find? (·.fieldName == nd.name) = none := by
      rw [find?_name_eq_none, ← columnFields_names hcols, ← find?_name_eq_none]
      exact hcol
    cases hedge : (RelationGraph.targetEdges C t none).find? (·.1.fieldName == nd.name) with
    | none =>
      -- a field of neither type
      have hnone₁ : ((if k < N then RelationGraph.targetEdges C t (some (k + 1)) else []).find?
          (·.1.fieldName == nd.name)) = none := by
        split
        · rw [RelationGraph.find?_targetEdges_relevel C t (some (k + 1)) none fun r => r.fieldName == nd.name,
            hedge, Option.map_none]
        · rfl
      exact .inl ⟨by simp [hnone₁], by simp⟩
    | some e =>
      -- a relation: named like one, so a level is left for it
      obtain ⟨r, u, l⟩ := e
      obtain ⟨hr, hu, rfl⟩ := RelationGraph.mem_targetEdges (List.mem_of_find?_eq_some hedge)
      have hname : r.fieldName = nd.name := by simpa using List.find?_some hedge
      have hlt : k < N := hrel ⟨t, ht, r, hr, .inr hname⟩
      have hedge₁ : (RelationGraph.targetEdges C t (some (k + 1))).find? (·.1.fieldName == nd.name) =
          some (r, ⟨u, some (k + 1)⟩) := by
        rw [RelationGraph.find?_targetEdges_relevel C t (some (k + 1)) none fun r => r.fieldName == nd.name,
          hedge, Option.map_some]
      have hu' : u ∈ C.tables := (Catalog.table?_eq_some hu).1
      have hcat : (⟨C, some N⟩ : RelationGraph).catalog = (⟨C, none⟩ : RelationGraph).catalog := rfl
      obtain ⟨hnameF, hargs, htype⟩ := relationField_alike hcat r ⟨u, some (k + 1)⟩ ⟨u, none⟩
        (R := fun m₁ m₂ => Levelled s₁.registry C N doc m₁ m₂ (nd :: rest)) (.node hu' hlt fun g hg => hnests g hg)
      refine .inr ⟨_, _, by simp [if_pos hlt, hedge₁], by simp, hnameF, hargs, htype, fun o key => ?_⟩
      have hF : (relationField ⟨C, some N⟩ r ⟨u, some (k + 1)⟩).name = nd.name := by
        rw [relationField_name, hname]
      rw [← hnameF]
      apply CompiledSchema.readField_congr
      · rw [hF, hrole₁, hrole₂, RelationGraph.edges_bounded, RelationGraph.edges_unbounded, hc,
          if_pos hlt, hedge₁, hedge]
        exact .relation r _ _
      · intro c' hc'
        rw [hF, hrole₁, RelationGraph.edges_bounded, hc, if_pos hlt, hedge₁] at hc'
        cases hc'

/-- The fields of the point type, and its name field, are of scalar types
both APIs define alike. -/
theorem shared_fieldDef {d : NamedType} (hd : d ∈ sharedTypes s₁.registry C) (hobj : d.isObject = true)
    {f : String} {F : Field} (hF : s₁.api.schema.fieldDef? d.name f = some F) :
    ∃ d' ∈ sharedTypes s₁.registry C, d'.name = F.type.baseName := by
  obtain ⟨hd₁, -, -, -⟩ := sp.post_alike h.nodup₁ h.nodup₂ (sp.shared d hd)
  obtain ⟨hquery, hfields⟩ := sharedTypes_object hd hobj
  have hscalar : ∀ m ∈ ["String", "Float"], ∃ d' ∈ sharedTypes s₁.registry C, d'.name = m := by
    simp [sharedTypes, scalarTypes, scalarType]
  unfold Schema.fieldDef? at hF
  split at hF
  · cases hF; exact hscalar "String" (by simp)
  · have hq : (d.name == "Query") = false := beq_eq_false_iff_ne.mpr hquery
    rw [sp.query₁] at hF
    simp only [hq, Bool.and_false, Bool.false_eq_true, if_false, hd₁, Option.bind_some, NamedType.field?] at hF
    rw [hfields F (List.mem_of_find?_eq_some hF)]
    exact hscalar "Float" (by simp)

/-- A field node selected on a scalar, point or enumeration type of both
APIs selects alike: the same field, of a type of the same kind, read from
the same roles. -/
theorem shared_fieldAlike (doc : Document) (vars : List (String × Value)) {d : NamedType}
    (hd : d ∈ sharedTypes s₁.registry C) (hobj : d.isObject = true) (nd : FieldNode) (rest : List FieldNode) :
    FieldAlike (⟨s₁.api.schema, doc, vars⟩ : Context) ⟨s₂.api.schema, doc, vars⟩ s₁.readField s₂.readField
      (fun m₁ m₂ => Levelled s₁.registry C N doc m₁ m₂ (nd :: rest)) d.name d.name nd := by
  obtain ⟨hd₁, hd₂, hapart₁, hapart₂⟩ := sp.post_alike h.nodup₁ h.nodup₂ (sp.shared d hd)
  have hdef : ∀ f, s₁.api.schema.fieldDef? d.name f = s₂.api.schema.fieldDef? d.name f :=
    Schema.fieldDef?_congr (sp.query₁.trans sp.query₂.symm) (hd₁.trans hd₂.symm)
  unfold FieldAlike
  dsimp only
  refine ⟨fun _ => rfl, ?_⟩
  rw [← hdef]
  cases hF : s₁.api.schema.fieldDef? d.name nd.name with
  | none => exact .inl ⟨rfl, rfl⟩
  | some F =>
    obtain ⟨d', hd', hname⟩ := h.shared_fieldDef sp hd hobj hF
    obtain ⟨hd'₁, hd'₂, -, -⟩ := sp.post_alike h.nodup₁ h.nodup₂ (sp.shared d' hd')
    have hFname := Schema.fieldDef?_name hF
    refine .inr ⟨F, F, rfl, rfl, rfl, rfl, TypeRef.alike_self _ (hname ▸ .shared hd'), fun o key => ?_⟩
    apply CompiledSchema.readField_congr
    · rw [sp.role?_apart hapart₁ hapart₂]
      exact .same _
    · intro _ _
      exact CompiledSchema.returnsObject_congr (F := F) (by rw [hFname, hF]) (by rw [hFname, ← hdef, hF])
        (by rw [← hname, hd'₁, hd'₂])

omit sp in
/-- Related types of a table collect the same fields: no fragment condition
names either. -/
theorem levelled_groups (doc : Document) (vars : List (String × Value)) {n₁ n₂ : String}
    {nodes : List FieldNode} (hg : Levelled s₁.registry C N doc n₁ n₂ nodes) :
    (⟨s₁.api.schema, doc, vars⟩ : Context).subfields n₁ nodes = (⟨s₂.api.schema, doc, vars⟩ : Context).subfields n₂ nodes := by
  have hex : ∀ ds, (⟨s₁.api.schema, doc, vars⟩ : Context).excludes ds = (⟨s₂.api.schema, doc, vars⟩ : Context).excludes ds :=
    Context.excludes_congr h.sameInputs rfl
  refine subfields_congr ?_ hex fun nd hnd x hx => ?_
  · rfl
  cases hg with
  | node ht _ hnests => exact Document.conditionAlike_levels ((hnests nd hnd).ok_of_reaches hx) ht _ _
  | shared _ => exact doc.conditionAlike_self _ x

/-- Every field node collected for related types selects alike, and its
type is related again for the nodes of its group. -/
theorem levelled_fields (doc : Document) (vars : List (String × Value)) {n₁ n₂ : String}
    {nodes : List FieldNode} (hg : Levelled s₁.registry C N doc n₁ n₂ nodes)
    (hobj : s₁.api.schema.ObjectType n₁) (key : String) (nd : FieldNode) (rest : List FieldNode)
    (hmem : (key, nd :: rest) ∈ (⟨s₁.api.schema, doc, vars⟩ : Context).subfields n₁ nodes) :
    FieldAlike (⟨s₁.api.schema, doc, vars⟩ : Context) ⟨s₂.api.schema, doc, vars⟩ s₁.readField s₂.readField
      (fun m₁ m₂ => Levelled s₁.registry C N doc m₁ m₂ (nd :: rest)) n₁ n₂ nd := by
  cases hg with
  | @node t k _ ht hk hnests =>
    -- every node of the group is reached from the selections of a node of the type
    have hreached : GroupsWith (fun _ g => ∃ nd' ∈ nodes, ∃ x, doc.Reaches (nd'.selections.getD []) x ∧
        x.fieldNode? = some g) ((⟨s₁.api.schema, doc, vars⟩ : Context).subfields (⟨t, some k⟩ : GraphNode).name nodes) :=
      subfields_groupsWith fun nd' hnd' x g hx hg => ⟨nd', hnd', x, hx, hg⟩
    have hfield : ∀ g ∈ nd :: rest, g.name ∉ ["__typename", "__schema", "__type"] ∧
        (C.RelationNamed g.name → k < N) ∧
        doc.Nests C.RelationNamed (doc.ReadsAlike C) (N - (k + 1)) (g.selections.getD []) := by
      intro g hgmem
      obtain ⟨nd', hnd', x, hx, hxg⟩ := hreached key _ hmem g hgmem
      obtain ⟨hpos, hsub⟩ := (hnests nd' hnd').field hx hxg
      obtain ⟨hplain, -⟩ := (hnests nd' hnd').ok_of_reaches hx
      exact ⟨hplain g hxg, fun hr => by have := hpos hr; omega, by simpa [Nat.sub_sub] using hsub⟩
    obtain ⟨hplain, hrel, -⟩ := hfield nd List.mem_cons_self
    exact h.node_fieldAlike sp doc vars ht hk hplain hrel fun g hg => (hfield g hg).2.2
  | @shared d _ hd =>
    obtain ⟨hd₁, -, -, -⟩ := sp.post_alike h.nodup₁ h.nodup₂ (sp.shared d hd)
    obtain ⟨d', hd', hobj'⟩ := hobj
    rw [hd₁, Option.some.injEq] at hd'
    exact h.shared_fieldAlike sp doc vars hd (hd' ▸ hobj') nd rest

end DepthModes

/-! ## Root reads -/

namespace DepthModes

variable {s₁ s₂ : CompiledSchema} {C : Catalog} {N : Nat} (h : DepthModes s₁ s₂ C N)
include h

/-- A root read of the limited API collects its selection as the other does
without its budget. -/
theorem selectionContext_levels (call : RootCall) :
    s₁.selectionContext call = { s₂.selectionContext call with depthBudget := none } := by
  simp only [CompiledSchema.selectionContext, h.catalog₁, h.catalog₂, h.registry, h.depthBudget₁]

/-- A root read of a table of the catalog starts both APIs from one spec,
which reads no relation yet, and collects its selection into it, without a
budget in the limited API and under the budget in the other. -/
theorem rootSpec_split {t : Table} (ht : t ∈ C.tables) (call : RootCall) (paged : Bool) :
    ∃ start : Outcome LoadSpec,
      (∀ spec₀, start = .ok spec₀ → spec₀.relations = [] ∧ spec₀.Resolves (s₂.selectionContext call).catalog) ∧
      s₁.rootSpec t call paged = (start >>= fun spec₀ =>
        ({ s₂.selectionContext call with depthBudget := none } : SelectionContext).collect
          SelectionContext.collectFuel 0 spec₀ call.selections) ∧
      s₂.rootSpec t call paged = (start >>= fun spec₀ =>
        (s₂.selectionContext call).collect SelectionContext.collectFuel 0 spec₀ call.selections) := by
  refine ⟨_, fun spec₀ hbuild => ?_, by unfold CompiledSchema.rootSpec; rw [h.selectionContext_levels, h.registry],
    by unfold CompiledSchema.rootSpec; rfl⟩
  obtain ⟨htable, hcols, hrels, horder⟩ := LoadSpec.build_ok hbuild
  have hcat : (s₂.selectionContext call).catalog = C := h.catalog₂
  rw [hcat]
  exact ⟨hrels, htable ▸ ht, by simp [hcols], htable ▸ horder, by simp [hrels], by simp [hrels], by simp [hrels]⟩

/-- A selection nesting within the budget is read alike by both APIs. -/
theorem rootSpec_free {t : Table} (ht : t ∈ C.tables) (call : RootCall) (paged : Bool) {ok : Selection → Prop}
    (hnests : call.document.Nests C.RelationNamed ok s₂.settings.maxRelationDepth call.selections) :
    s₂.rootSpec t call paged = s₁.rootSpec t call paged := by
  obtain ⟨start, hstart, h₁, h₂⟩ := h.rootSpec_split ht call paged
  rw [h₁, h₂]
  refine Outcome.bind_congr fun spec₀ hs₀ => ?_
  have hcat : (s₂.selectionContext call).catalog = C := h.catalog₂
  exact SelectionContext.collect_budget_free h.depthBudget₂ _ 0 spec₀ _ (by rw [hcat]; exact hnests)
    (hstart spec₀ hs₀).2

/-- The spec of a selection nesting within the limit nests within it. -/
theorem rootSpec_within {t : Table} (ht : t ∈ C.tables) (call : RootCall) (paged : Bool) {ok : Selection → Prop}
    (hnests : call.document.Nests C.RelationNamed ok N call.selections) {spec : LoadSpec}
    (hspec : s₁.rootSpec t call paged = .ok spec) : spec.Within N := by
  obtain ⟨start, hstart, h₁, -⟩ := h.rootSpec_split ht call paged
  rw [h₁] at hspec
  obtain ⟨spec₀, hs₀, hspec⟩ := Outcome.bind_eq_ok.mp hspec
  obtain ⟨hrels, hres⟩ := hstart spec₀ hs₀
  have hcat : (s₂.selectionContext call).catalog = C := h.catalog₂
  -- a budget of `N` never refuses the selection, and what it collects fits it
  have hfree := SelectionContext.collect_budget_free (c := { s₂.selectionContext call with depthBudget := some N })
    rfl SelectionContext.collectFuel 0 spec₀ call.selections (by rw [hcat]; exact hnests) hres
  simpa using SelectionContext.collect_within (c := { s₂.selectionContext call with depthBudget := some N }) rfl
    SelectionContext.collectFuel 0 spec₀ call.selections (hfree.trans hspec) (.of_relations_nil hrels)

/-- A root read whose spec, read without a budget, nests deeper than the
budget is refused for depth by the unlimited API. -/
theorem rootSpec_exceeded {t : Table} (ht : t ∈ C.tables) (call : RootCall) (paged : Bool) {spec : LoadSpec}
    (hspec : s₁.rootSpec t call paged = .ok spec) (hdeep : ¬ spec.Within s₂.settings.maxRelationDepth) :
    ∃ a r, s₂.rootSpec t call paged = .error (SelectionContext.depthExceeded a r s₂.settings.maxRelationDepth) := by
  obtain ⟨start, hstart, h₁, h₂⟩ := h.rootSpec_split ht call paged
  rw [h₁] at hspec
  obtain ⟨spec₀, hs₀, hspec⟩ := Outcome.bind_eq_ok.mp hspec
  obtain ⟨a, r, herr⟩ := SelectionContext.collect_budget_exceeded h.depthBudget₂ hspec (by simpa using hdeep)
    (.of_relations_nil (hstart spec₀ hs₀).1)
  refine ⟨a, r, ?_⟩
  rw [h₂, hs₀]
  exact herr

/-- A root field is prepared alike by both APIs when it has the same role in
both, a read of a table of the catalog if any, and its selection nests
within the limit: the same checks, the same statements, the same spec and
the same entities. -/
theorem prepare_levels (call : RootCall) {ok : Selection → Prop}
    (hrole : s₁.api.role? call.rootType call.field = s₂.api.role? call.rootType call.field)
    (hread : ∀ t, (s₂.api.role? call.rootType call.field = some (.readMany t) ∨
      s₂.api.role? call.rootType call.field = some (.readFirst t)) → t ∈ C.tables)
    (hnests : call.document.Nests C.RelationNamed ok N call.selections) (connected : Bool) :
    s₁.prepare connected call = s₂.prepare connected call := by
  have hroot₁ : ∀ t, s₁.graph.root t = ⟨t, some 0⟩ := fun t => by rw [h.graph₁]; rfl
  have hroot₂ : ∀ t, s₂.graph.root t = ⟨t, none⟩ := fun t => by rw [h.graph₂]; rfl
  -- rows of a spec within the limit hydrate alike from a table's roots
  have hhydrate : ∀ t (spec : LoadSpec), spec.Within N →
      s₁.hydrate CompiledSchema.hydrateFuel ⟨t, some 0⟩ spec = s₂.hydrate CompiledSchema.hydrateFuel ⟨t, none⟩ spec :=
    fun t spec hspec => funext fun row =>
      CompiledSchema.hydrate_levels h.registry h.graph₁ h.graph₂ _ t 0 spec row (by simpa using hspec)
  unfold CompiledSchema.prepare
  rw [hrole, h.backend, h.registry, CompiledSchema.insertRowsOf_congr h.registry,
    CompiledSchema.mutate_congr h.backend h.registry]
  rcases hr : s₂.api.role? call.rootType call.field with _ | ⟨r⟩
  · rfl
  cases r with
  | readMany t =>
    have ht := hread t (.inl hr)
    dsimp only
    rw [h.rootSpec_free ht call true (hnests.mono h.budget)]
    rcases hs : s₁.rootSpec t call true with e | spec
    · simp only [bind, Except.bind]
    simp only [bind, Except.bind, hroot₁, hroot₂, hhydrate t spec (h.rootSpec_within ht call true hnests hs)]
  | readFirst t =>
    have ht := hread t (.inr hr)
    dsimp only
    rw [h.rootSpec_free ht call false (hnests.mono h.budget)]
    rcases hs : s₁.rootSpec t call false with e | spec
    · simp only [bind, Except.bind]
    -- limiting the read to one row keeps the relations it follows
    have hlimited : ({ spec with limit := some 1 } : LoadSpec).Within N := by
      obtain ⟨hpos, hchildren⟩ := h.rootSpec_within ht call false hnests hs
      exact .intro hpos hchildren
    simp only [bind, Except.bind, hroot₁, hroot₂, hhydrate t _ hlimited]
  | _ => rfl

end DepthModes

/-- The two executions of a document against the APIs of one catalog with
and without a depth limit simulate each other, relating a table's types at
each level. -/
def levelledSimulation {s₁ s₂ : CompiledSchema} {C : Catalog} {N : Nat} (h : DepthModes s₁ s₂ C N)
    (sp : GeneratedApi.LevelSplit s₁.registry C N s₁.api s₂.api) (doc : Document) (vars : List (String × Value)) :
    Simulation (⟨s₁.api.schema, doc, vars⟩ : Context) ⟨s₂.api.schema, doc, vars⟩ s₁.readField s₂.readField where
  Good := Levelled s₁.registry C N doc
  document := rfl
  variableValues := rfl
  inputs := h.sameInputs
  partFree := fun o n f k _ hread => s₁.readField_partFree o n f k hread
  kind := h.levelled_kind sp doc
  groups := fun hg _ => h.levelled_groups doc vars hg
  fields := fun hg hobj key nd rest hmem => h.levelled_fields sp doc vars hg hobj key nd rest hmem

end TableGraph
