import Mathlib
import TableGraph.Proofs.DepthBudget
import TableGraph.Proofs.FieldNames
import TableGraph.Proofs.ExecutionSimulation

/-!
# One catalog's APIs with and without a depth limit

Generating the API of a catalog with a depth limit `N` and without one
differs only in the output types of the tables. With the limit each table
has a type per level `0 … N`, whose relation fields lead one level down and
stop at level `N`; without it each table has one type, whose relation fields
lead back among the same types. A table's level-zero type is named like its
single type, so everything else the generator makes is the same list in
both: the input types before the output types of the tables, and after them
the types of mutated rows, the query root (whose fields name the level-zero
types), the mutation root, the fixed types, the enumerations and the
built-in types, with the roles of their fields (`generate_levels`).

Hydrating a row at level `k` of the limited graph and at the table's single
node gives the same entity as long as the spec nests at most `N - k` deep
(`hydrate_levels`): both follow the same relations, to the same tables, and
only the levels of the nodes differ.

## Main results

* `hydrate_levels` — hydration agrees within the limit.
* `generate_levels` — the two APIs share everything but the tables' output
  types and their roles.
-/

namespace TableGraph

open GraphQL Generate

/-! ## Walks whose steps agree on the members -/

theorem List.mapM_congr_of_mem {ε α β : Type} {f g : α → Except ε β} {xs : List α}
    (h : ∀ x ∈ xs, f x = g x) : xs.mapM f = xs.mapM g := by
  induction xs with
  | nil => rfl
  | cons x xs ih => simp only [List.mapM_cons, h x (by simp), ih fun y hy => h y (by simp [hy])]

theorem List.foldlM_congr_of_mem {ε α β : Type} {f g : β → α → Except ε β} {xs : List α}
    (h : ∀ x ∈ xs, ∀ b, f b x = g b x) (b : β) : xs.foldlM f b = xs.foldlM g b := by
  induction xs generalizing b with
  | nil => rfl
  | cons x xs ih =>
    simp only [List.foldlM_cons, h x (by simp)]
    congr 1
    funext b'
    exact ih (fun y hy => h y (by simp [hy])) b'

namespace RelationGraph

/-! ## Edges at two levels -/

/-- A table's edges towards one level are its edges towards another, with
the level of their nodes changed. -/
theorem targetEdges_relevel (c : Catalog) (t : Table) (l l' : Option Nat) :
    targetEdges c t l = (targetEdges c t l').map fun e => (e.1, ⟨e.2.table, l⟩) := by
  unfold targetEdges
  rw [List.map_filterMap]
  congr 1
  funext r
  cases c.table? r.target <;> rfl

theorem find?_targetEdges_relevel (c : Catalog) (t : Table) (l l' : Option Nat) (p : Relation → Bool) :
    (targetEdges c t l).find? (p ·.1) =
      ((targetEdges c t l').find? (p ·.1)).map fun e => (e.1, ⟨e.2.table, l⟩) := by
  rw [targetEdges_relevel c t l l', List.find?_map]
  rfl

end RelationGraph

namespace CompiledSchema

/-! ## Hydration at two levels -/

section Hydrate

variable {s₁ s₂ : CompiledSchema} {C : Catalog} {N : Nat} (hreg : s₁.registry = s₂.registry)
  (hg₁ : s₁.graph = ⟨C, some N⟩) (hg₂ : s₂.graph = ⟨C, none⟩)
include hreg hg₁ hg₂

/-- A row hydrates alike at level `k` of a graph limited to depth `N` and at
its table's single node, when its spec nests at most `N - k` deep: the
relations it follows have edges at both nodes while levels are left, and
there are none to follow at level `N`. -/
theorem hydrate_levels :
    ∀ fuel t k (spec : LoadSpec) row, spec.Within (N - k) →
      s₁.hydrate fuel ⟨t, some k⟩ spec row = s₂.hydrate fuel ⟨t, none⟩ spec row := by
  intro fuel
  induction fuel with
  | zero => intro t k spec row _; rfl
  | succ fuel ih =>
    intro t k spec row hspec
    obtain ⟨hpos, hchildren⟩ := hspec
    rw [hydrate, hydrate, hreg, hg₁, hg₂, RelationGraph.edges_bounded, RelationGraph.edges_unbounded]
    by_cases hk : k < N
    · -- each relation is found among the edges of both nodes, or of neither
      simp only [if_pos hk]
      congr 1
      funext values
      congr 1
      refine List.foldlM_congr_of_mem (fun e he acc => ?_) []
      obtain ⟨key, r, child⟩ := e
      dsimp only
      rw [RelationGraph.find?_targetEdges_relevel C t (some (k + 1)) none fun r' => r'.name == r.name]
      cases hfind : (RelationGraph.targetEdges C t none).find? (fun x => x.1.name == r.name) with
      | none => rfl
      | some e =>
        obtain ⟨r', u, level⟩ := e
        obtain ⟨-, -, rfl⟩ := RelationGraph.mem_targetEdges (List.mem_of_find?_eq_some hfind)
        have hchild : child.Within (N - (k + 1)) := by
          simpa [Nat.sub_sub] using hchildren _ he
        simp only [Option.map_some]
        congr 1
        exact List.mapM_congr_of_mem fun row _ => ih u (k + 1) child row hchild
    · -- no level is left, so the spec follows no relation
      have hnil : spec.relations = [] := by
        by_contra hne
        have := hpos hne
        omega
      simp only [hnil, List.foldlM_nil]

end Hydrate

end CompiledSchema

/-! ## The generated APIs at two levels -/

namespace GeneratedApi

/-- A query root's fields do not depend on the depth limit: they name the
level-zero types, named like the single types. -/
theorem queryFields_levels (C : Catalog) (N : Nat) :
    queryFields ⟨C, some N⟩ = queryFields ⟨C, none⟩ := rfl

/-- The roles of a mutated row's type name that type. -/
theorem itemType_roles {reg : Registry} {t : Table} {p : NamedType × List ((String × String) × FieldRole)}
    (h : itemType reg t = .ok p) : ∀ role ∈ p.2, role.1.1 = p.1.name := by
  simp only [itemType, Outcome.bind_eq_ok, Outcome.pure_eq_ok] at h
  obtain ⟨_, _, rfl⟩ := h
  intro role hrole
  obtain ⟨c, -, rfl⟩ := List.mem_map.mp hrole
  rfl

/-- The query root is named apart from the mutated rows' types. -/
theorem itemType_name_ne_query {reg : Registry} {t : Table} {p : NamedType × List ((String × String) × FieldRole)}
    (h : itemType reg t = .ok p) : p.1.name ≠ "Query" := by
  simp only [itemType, Outcome.bind_eq_ok, Outcome.pure_eq_ok] at h
  obtain ⟨_, _, rfl⟩ := h
  -- the two names end in different letters
  intro h
  have hlast := congrArg (fun s : String => s.toList.reverse.head?) h
  simp at hlast

/-- Two APIs of one catalog split at the tables' output types: the same
definitions before those types and after them, the same roles after the
output types' roles, the same query root. After the output types come every
role's type, the query root with the fields of every table, and the
scalars, point types and enumerations. -/
structure LevelSplit (reg : Registry) (C : Catalog) (N : Nat) (api₁ api₂ : GeneratedApi) where
  pre : List NamedType
  post : List NamedType
  rolesPost : List ((String × String) × FieldRole)
  nodes₁ : List (NamedType × List ((String × String) × FieldRole))
  nodes₂ : List (NamedType × List ((String × String) × FieldRole))
  mapM₁ : (⟨C, some N⟩ : RelationGraph).nodes.mapM (nodeType reg ⟨C, some N⟩) = .ok nodes₁
  mapM₂ : (⟨C, none⟩ : RelationGraph).nodes.mapM (nodeType reg ⟨C, none⟩) = .ok nodes₂
  defs₁ : api₁.schema.definitions = pre ++ nodes₁.map (·.1) ++ post
  defs₂ : api₂.schema.definitions = pre ++ nodes₂.map (·.1) ++ post
  roles₁ : api₁.roles = nodes₁.flatMap (·.2) ++ rolesPost
  roles₂ : api₂.roles = nodes₂.flatMap (·.2) ++ rolesPost
  query₁ : api₁.schema.query = "Query"
  query₂ : api₂.schema.query = "Query"
  postRoles : ∀ role ∈ rolesPost, role.1.1 ∈ post.map (·.name)
  queryType : ({ name := "Query", definition := .object ((C.tables.flatMap (queryFields ⟨C, none⟩)).map (·.1)) } :
    NamedType) ∈ post
  queryRoles : ∀ role ∈ rolesPost, role.1.1 = "Query" →
    ∃ q ∈ C.tables.flatMap (queryFields ⟨C, none⟩), role = (("Query", q.1.name), q.2)
  shared : ∀ d ∈ scalarTypes ++ pointTypes ++ enumTypes reg C, d ∈ post

/-- The APIs of one catalog with a depth limit and without one differ only
in the tables' output types and their roles. -/
theorem generate_levels {reg : Registry} {C : Catalog} {N : Nat} {b : Backend} {settings : BuildSettings}
    {api₁ api₂ : GeneratedApi} (h₁ : generate reg ⟨C, some N⟩ b settings = .ok api₁)
    (h₂ : generate reg ⟨C, none⟩ b settings = .ok api₂) : Nonempty (LevelSplit reg C N api₁ api₂) := by
  -- the mutated rows' types, generated only on a backend that returns rows
  have hitemsOk : ∀ items, (if !b.canReportAffectedRows then pure [] else C.tables.mapM (itemType reg)) =
      .ok items → ∀ p ∈ items, (∀ role ∈ p.2, role.1.1 = p.1.name) ∧ p.1.name ≠ "Query" := by
    intro items h p hp
    split at h
    · cases Outcome.pure_eq_ok.mp h
      simp at hp
    · obtain ⟨t, -, hp'⟩ := Outcome.exists_of_mem_mapM h hp
      exact ⟨itemType_roles hp', itemType_name_ne_query hp'⟩
  unfold generate at h₁ h₂
  rw [queryFields_levels] at h₁
  cases hb : b.canReportAffectedRows <;>
  simp only [hb, Bool.not_true, Bool.not_false, Bool.false_eq_true, if_true, if_false,
    Outcome.bind_eq_ok, Outcome.pure_eq_ok] at h₁ h₂ hitemsOk
  all_goals
    obtain ⟨inputs, hinputs, nodes₁, hnodes₁, items, hitems, rfl⟩ := h₁
    obtain ⟨inputs', hinputs', nodes₂, hnodes₂, items', hitems', rfl⟩ := h₂
    have hin : inputs' = inputs := by simpa using hinputs'.symm.trans hinputs
    have hit : items' = items := by simpa using hitems'.symm.trans hitems
    subst hin hit
    have hitemRoles := hitemsOk items' (by simp [hitems])
    -- the lists after the output types are read off the first API
    refine ⟨⟨inputs'.flatten, _, _, nodes₁, nodes₂, hnodes₁, hnodes₂, by simp only [List.append_assoc]; rfl,
      by simp only [List.append_assoc], by simp only [List.append_assoc]; rfl,
      by simp only [List.append_assoc], rfl, rfl, fun role hrole => ?_, by simp, fun role hrole hquery => ?_,
      fun d hd => ?_⟩⟩
    · simp only [List.mem_append, List.mem_flatMap, List.mem_map, List.mem_cons, List.not_mem_nil] at hrole
      rcases hrole with ⟨p, hp, hr⟩ | ⟨q, -, rfl⟩ | ⟨q, hq, rfl⟩ | rfl | rfl | rfl | hfalse
      · rw [(hitemRoles p hp).1 role hr]
        simp only [List.map_append, List.mem_append]
        exact .inl (List.mem_map_of_mem (List.mem_map_of_mem hp))
      · simp
      · -- there are mutation roles only when the mutation root is generated
        have hne : (if settings.mutations.truthy = true then C.tables.flatMap (mutationFields _) else []) ≠ [] :=
          List.ne_nil_of_mem hq
        simp [List.isEmpty_iff, hne]
      all_goals first | exact hfalse.elim | simp [pointTypes, mutationReturnType]
    · simp only [List.mem_append, List.mem_flatMap, List.mem_map, List.mem_cons, List.not_mem_nil] at hrole
      rcases hrole with ⟨p, hp, hr⟩ | ⟨q, hq, rfl⟩ | ⟨q, -, rfl⟩ | rfl | rfl | rfl | hfalse
      · exact absurd (((hitemRoles p hp).1 role hr).symm.trans hquery) (hitemRoles p hp).2
      · exact ⟨q, List.mem_flatMap.mpr hq, rfl⟩
      all_goals first | exact hfalse.elim | (simp at hquery)
    · simp only [List.mem_append] at hd
      rcases hd with (h | h) | h <;> simp [h]

/-- A node's output type is an object of its columns' fields then its
edges' fields, and the roles of those fields name it. -/
theorem nodeType_ok {reg : Registry} {g : RelationGraph} {n : GraphNode}
    {p : NamedType × List ((String × String) × FieldRole)} (h : nodeType reg g n = .ok p) :
    ∃ cols, columnFields reg n.table = .ok cols ∧
      p.1 = { name := n.name, description := n.table.description
              definition := .object (cols ++ (g.edges n).map fun (r, m) => relationField g r m) } ∧
      p.2 = (n.table.columns.map fun c => ((n.name, c.fieldName), FieldRole.column c)) ++
        (g.edges n).map fun (r, m) => ((n.name, r.fieldName), FieldRole.relation r m) := by
  simp only [nodeType, Outcome.bind_eq_ok, Outcome.pure_eq_ok] at h
  obtain ⟨cols, hcols, rfl⟩ := h
  exact ⟨cols, hcols, rfl, rfl⟩

theorem pair_beq_pair (name a f : String) : ((name, a) == (name, f)) = (a == f) := by
  rw [Bool.eq_iff_iff]
  simp

/-- Roles of columns under a type name find a field's column, whatever the
type is named. -/
theorem find?_columnRoles (name f : String) (cs : List Column) :
    ((cs.map fun c => ((name, c.fieldName), FieldRole.column c)).find? (·.1 == (name, f))).map (·.2) =
      (cs.find? (·.fieldName == f)).map FieldRole.column := by
  simp [List.find?_map, Function.comp_def, pair_beq_pair]

/-- Roles of edges under a type name find a field's edge likewise. -/
theorem find?_edgeRoles (name f : String) (es : List (Relation × GraphNode)) :
    ((es.map fun (r, m) => ((name, r.fieldName), FieldRole.relation r m)).find? (·.1 == (name, f))).map (·.2) =
      (es.find? (·.1.fieldName == f)).map fun (r, m) => FieldRole.relation r m := by
  simp [List.find?_map, Function.comp_def, pair_beq_pair]

theorem find?_relationFields (g : RelationGraph) (f : String) (es : List (Relation × GraphNode)) :
    (es.map fun (r, m) => relationField g r m).find? (·.name == f) =
      (es.find? (·.1.fieldName == f)).map fun (r, m) => relationField g r m := by
  simp [List.find?_map, relationField_name]

/-- A field of a node's type is one of its columns' fields, else the field
of the first edge of that field name; its role is found the same way. -/
theorem nodeType_lookup {reg : Registry} {g : RelationGraph} {n : GraphNode}
    {p : NamedType × List ((String × String) × FieldRole)} (h : nodeType reg g n = .ok p) :
    ∃ cols, columnFields reg n.table = .ok cols ∧ p.1.name = n.name ∧ p.1.isObject = true ∧
      (∀ f, p.1.field? f = (cols.find? (·.name == f)).or
        (((g.edges n).find? (·.1.fieldName == f)).map fun (r, m) => relationField g r m)) ∧
      ∀ f, (p.2.find? (·.1 == (n.name, f))).map (·.2) = ((n.table.columns.find? (·.fieldName == f)).map .column).or
        (((g.edges n).find? (·.1.fieldName == f)).map fun (r, m) => .relation r m) := by
  obtain ⟨cols, hcols, h₁, h₂⟩ := nodeType_ok h
  refine ⟨cols, hcols, by rw [h₁], by rw [h₁]; rfl, fun f => ?_, fun f => ?_⟩
  · rw [h₁]
    simp only [NamedType.field?, NamedType.fields, List.find?_append, find?_relationFields]
  · rw [h₂, List.find?_append, Option.map_or, find?_columnRoles, find?_edgeRoles]

theorem nodeType_roles {reg : Registry} {g : RelationGraph} {n : GraphNode}
    {p : NamedType × List ((String × String) × FieldRole)} (h : nodeType reg g n = .ok p) :
    ∀ role ∈ p.2, role.1.1 = p.1.name := by
  obtain ⟨cols, -, h₁, h₂⟩ := nodeType_ok h
  intro role hrole
  rw [h₂] at hrole
  rw [h₁]
  rcases List.mem_append.mp hrole with hrole | hrole
  · obtain ⟨c, -, rfl⟩ := List.mem_map.mp hrole; rfl
  · obtain ⟨e, -, rfl⟩ := List.mem_map.mp hrole; rfl

end GeneratedApi

/-! ## The types of columns

Without registered types a column's output type is built in: a scalar, the
point type, or an enumeration generated for a column of the catalog, and so
one of the types both APIs define after the tables' output types. -/

namespace Generate

/-- The types of the API that no table's output type depends on. -/
def sharedTypes (reg : Registry) (C : Catalog) : List NamedType :=
  scalarTypes ++ pointTypes ++ enumTypes reg C

/-- The names of the built-in types a column resolves to; enumerations
aside, they are the scalars and the point types. -/
def builtinNames : List String := ["Int", "Float", "String", "Boolean", "GeometryXY", "GeometryXYInput"]

theorem builtinNames_shared (reg : Registry) (C : Catalog) :
    ∀ m ∈ builtinNames, ∃ d ∈ sharedTypes reg C, d.name = m := by
  simp [builtinNames, sharedTypes, scalarTypes, pointTypes, scalarType]

/-- Every enumeration a column of the catalog resolves to is named by one of
the catalog's enumeration types, the first of its name being kept. -/
theorem dedup_enums_keeps (l acc : List EnumType) :
    ∀ e ∈ acc ++ l, ∃ e' ∈ l.foldl (fun acc e => if acc.any (·.name == e.name) then acc else acc ++ [e]) acc,
      e'.name = e.name := by
  induction l generalizing acc with
  | nil => exact fun e he => ⟨e, by simpa using he, rfl⟩
  | cons x l ih =>
    intro e he
    rw [List.foldl_cons]
    -- what the step keeps of `acc` and of `x`
    have hkeep : ∀ y ∈ acc ++ [x], ∃ y' ∈ (if acc.any (·.name == x.name) then acc else acc ++ [x]), y'.name = y.name := by
      intro y hy
      split
      · next hany =>
        rcases List.mem_append.mp hy with hy | hy
        · exact ⟨y, hy, rfl⟩
        · obtain ⟨z, hz, hzname⟩ := List.any_eq_true.mp hany
          exact ⟨z, hz, by rw [List.mem_singleton.mp hy]; simpa using hzname⟩
      · exact ⟨y, hy, rfl⟩
    simp only [List.mem_append, List.mem_cons] at he
    rcases he with he | rfl | he
    · obtain ⟨y', hy', hname⟩ := hkeep e (by simp [he])
      obtain ⟨e', he', hname'⟩ := ih _ y' (List.mem_append_left _ hy')
      exact ⟨e', he', hname'.trans hname⟩
    · obtain ⟨y', hy', hname⟩ := hkeep e (by simp)
      obtain ⟨e', he', hname'⟩ := ih _ y' (List.mem_append_left _ hy')
      exact ⟨e', he', hname'.trans hname⟩
    · exact ih _ e (List.mem_append_right _ he)

theorem enumTypes_keeps {reg : Registry} {C : Catalog} {t : Table} (ht : t ∈ C.tables) {col : Column}
    (hcol : col ∈ t.columns) {res : Resolved} (hres : reg.resolve col false = .ok res) {e : EnumType}
    (he : e ∈ enumsOf res.type) : ∃ d ∈ enumTypes reg C, d.name = e.name := by
  unfold enumTypes
  dsimp only
  simp only [List.mem_map, exists_exists_and_eq_and]
  refine dedup_enums_keeps _ [] e ?_
  -- the column resolved for output brings the enumeration
  simp only [List.nil_append, List.mem_flatMap]
  exact ⟨t, ht, col, hcol, false, by simp, by simp [hres, he]⟩

end Generate

namespace Registry

/-- Without registered types a column resolves to a built-in type or to an
enumeration of its own, named at the bottom of the type. -/
theorem resolve_baseName {r : Registry} (hreg : r.types = []) {c : Column} {isInput : Bool} {res : Resolved}
    (h : r.resolve c isInput = .ok res) :
    res.type.baseName ∈ Generate.builtinNames ∨ ∃ e ∈ Generate.enumsOf res.type, e.name = res.type.baseName := by
  fun_induction r.resolve c isInput generalizing res
  case case1 c t hfind =>
    simp [hreg, Registry.find?] at hfind
  case case7 c _ _ _ | case8 c _ _ =>
    unfold enumResolved at h
    split at h
    · cases h
      simp [Generate.builtinNames, ApiType.baseName]
    · simp only [Outcome.bind_eq_ok, Outcome.pure_eq_ok] at h
      obtain ⟨e, -, rfl⟩ := h
      exact .inr ⟨e, by simp [Generate.enumsOf], rfl⟩
  case case20 item _ ih =>
    simp only [Outcome.bind_eq_ok, Outcome.pure_eq_ok] at h
    obtain ⟨inner, hinner, rfl⟩ := h
    simpa [ApiType.baseName, Generate.enumsOf] using ih hinner
  case case18 =>
    cases h
    cases isInput <;> simp [Generate.builtinNames, ApiType.baseName]
  all_goals (cases h <;> simp [Generate.builtinNames, ApiType.baseName])

end Registry

namespace Generate

theorem toRef_baseName (t : ApiType) : t.toRef.baseName = t.baseName := by
  induction t with
  | list t ih => simp [ApiType.toRef, TypeRef.baseName, ApiType.baseName, ih]
  | _ => rfl

theorem refOf_baseName (t : ApiType) (nullable : Bool) : (t.refOf nullable).baseName = t.baseName := by
  unfold ApiType.refOf
  split <;> simp [TypeRef.baseName, toRef_baseName]

/-- The fields of a table's columns have types of the API that no table's
output type depends on, when no type is registered. -/
theorem columnFields_shared {reg : Registry} (hreg : reg.types = []) {C : Catalog} {t : Table}
    (ht : t ∈ C.tables) {cols : List Field} (hcols : columnFields reg t = .ok cols) :
    ∀ F ∈ cols, ∃ d ∈ sharedTypes reg C, d.name = F.type.baseName := by
  intro F hF
  obtain ⟨col, hcol, hF⟩ := Outcome.exists_of_mem_mapM hcols hF
  simp only [Registry.annotate, Outcome.bind_eq_ok, Outcome.pure_eq_ok] at hF
  obtain ⟨a, ⟨res, hres, rfl⟩, rfl⟩ := hF
  simp only [refOf_baseName]
  rcases Registry.resolve_baseName hreg hres with hb | ⟨e, he, hname⟩
  · exact builtinNames_shared reg C _ hb
  · obtain ⟨d, hd, hdname⟩ := enumTypes_keeps ht hcol hres he
    exact ⟨d, by simp [sharedTypes, hd], hdname.trans hname⟩

end Generate

/-! ## Lookups in APIs split at the tables' output types

The lemmas of this section read a generated API through the split of
`generate_levels`: definitions `pre ++ X ++ post` and roles
`R ++ rolesPost`, where `X` are the tables' output types and `R` their roles,
with the names of the definitions distinct. -/

namespace GraphQL.Schema

theorem definition?_mem {s : Schema} {n : String} {d : NamedType} (h : s.definition? n = some d) :
    d ∈ s.definitions ∧ d.name = n :=
  ⟨List.mem_of_find?_eq_some h, by simpa using List.find?_some h⟩

theorem definition?_of_mem {s : Schema} (hs : (s.definitions.map (·.name)).Nodup) {d : NamedType}
    (hd : d ∈ s.definitions) : s.definition? d.name = some d :=
  find?_of_nodup_names hs hd

/-- Schemas split alike whose middle parts hold no input type define the same
input types. -/
theorem sameInputs_of_split {s₁ s₂ : Schema} {pre X₁ X₂ post : List NamedType}
    (h₁ : s₁.definitions = pre ++ X₁ ++ post) (h₂ : s₂.definitions = pre ++ X₂ ++ post)
    (hs₁ : (s₁.definitions.map (·.name)).Nodup) (hs₂ : (s₂.definitions.map (·.name)).Nodup)
    (hX₁ : ∀ d ∈ X₁, d.isInput = false) (hX₂ : ∀ d ∈ X₂, d.isInput = false) : s₁.SameInputs s₂ := by
  intro n
  by_cases hshared : ∃ d ∈ pre ++ post, d.name = n
  · -- a definition of both schemas is the one each finds
    obtain ⟨d, hd, rfl⟩ := hshared
    have hd₁ : d ∈ s₁.definitions := by rw [h₁]; simp only [List.mem_append] at hd ⊢; tauto
    have hd₂ : d ∈ s₂.definitions := by rw [h₂]; simp only [List.mem_append] at hd ⊢; tauto
    rw [definition?_of_mem hs₁ hd₁, definition?_of_mem hs₂ hd₂]
  · -- otherwise each finds an output type of a table, or nothing
    have hfilter : ∀ (s : Schema) (X : List NamedType), s.definitions = pre ++ X ++ post →
        (∀ d ∈ X, d.isInput = false) → (s.definition? n).filter (·.isInput) = none := by
      intro s X hsplit hX
      rcases hdef : s.definition? n with _ | d
      · rfl
      · obtain ⟨hmem, rfl⟩ := definition?_mem hdef
        rw [hsplit] at hmem
        simp only [List.mem_append] at hmem
        rcases hmem with (hpre | hx) | hpost
        · exact absurd ⟨d, List.mem_append_left _ hpre, rfl⟩ hshared
        · simp [hX d hx]
        · exact absurd ⟨d, List.mem_append_right _ hpost, rfl⟩ hshared
    rw [hfilter s₁ X₁ h₁ hX₁, hfilter s₂ X₂ h₂ hX₂]

end GraphQL.Schema

namespace GeneratedApi

/-- Roles split alike give a type named by none of the middle roles the same
role. -/
theorem role?_split {api₁ api₂ : GeneratedApi} {R₁ R₂ rolesPost : List ((String × String) × FieldRole)}
    (h₁ : api₁.roles = R₁ ++ rolesPost) (h₂ : api₂.roles = R₂ ++ rolesPost) {n : String}
    (hn₁ : ∀ role ∈ R₁, role.1.1 ≠ n) (hn₂ : ∀ role ∈ R₂, role.1.1 ≠ n) (f : String) :
    api₁.role? n f = api₂.role? n f := by
  have hnone : ∀ R : List ((String × String) × FieldRole), (∀ role ∈ R, role.1.1 ≠ n) →
      R.find? (·.1 == (n, f)) = none := by
    intro R hR
    rw [List.find?_eq_none]
    intro role hrole heq
    exact hR role hrole (by simp only [beq_iff_eq] at heq; rw [heq])
  simp only [role?, h₁, h₂, List.find?_append, hnone R₁ hn₁, hnone R₂ hn₂, Option.none_or]

/-- The role of a field of a table's output type is found among the roles
of that type, when no other type and no role after the output types shares
its name. -/
theorem role?_node {api : GeneratedApi} {nodes : List (NamedType × List ((String × String) × FieldRole))}
    {rolesPost : List ((String × String) × FieldRole)} (h : api.roles = nodes.flatMap (·.2) ++ rolesPost)
    (hroles : ∀ p ∈ nodes, ∀ role ∈ p.2, role.1.1 = p.1.name) (hnames : (nodes.map (·.1.name)).Nodup)
    {p : NamedType × List ((String × String) × FieldRole)} (hp : p ∈ nodes)
    (hpost : ∀ role ∈ rolesPost, role.1.1 ≠ p.1.name) (f : String) :
    api.role? p.1.name f = (p.2.find? (·.1 == (p.1.name, f))).map (·.2) := by
  obtain ⟨L₁, L₂, rfl⟩ := List.append_of_mem hp
  -- the roles of the other types and those after them never match
  have hnone : ∀ R : List ((String × String) × FieldRole), (∀ role ∈ R, role.1.1 ≠ p.1.name) →
      R.find? (·.1 == (p.1.name, f)) = none := by
    intro R hR
    rw [List.find?_eq_none]
    intro role hrole heq
    exact hR role hrole (by simp only [beq_iff_eq] at heq; rw [heq])
  have hother : ∀ L : List (NamedType × List ((String × String) × FieldRole)), (∀ q ∈ L, q ∈ L₁ ++ p :: L₂) →
      (∀ q ∈ L, q.1.name ≠ p.1.name) → ∀ role ∈ L.flatMap (·.2), role.1.1 ≠ p.1.name := by
    intro L hL hne role hrole
    obtain ⟨q, hq, hrq⟩ := List.mem_flatMap.mp hrole
    rw [hroles q (hL q hq) role hrq]
    exact hne q hq
  simp only [List.map_append, List.map_cons, List.nodup_append, List.nodup_cons, List.mem_map] at hnames
  obtain ⟨-, ⟨hnot₂, -⟩, hdisj⟩ := hnames
  have h₁ : ∀ q ∈ L₁, q.1.name ≠ p.1.name := fun q hq heq =>
    hdisj q.1.name ⟨q, hq, rfl⟩ p.1.name (by simp) heq
  have h₂ : ∀ q ∈ L₂, q.1.name ≠ p.1.name := fun q hq heq => hnot₂ ⟨q, hq, heq⟩
  simp only [role?, h, List.flatMap_append, List.flatMap_cons, List.find?_append,
    hnone _ (hother L₁ (fun q hq => by simp [hq]) h₁), hnone _ (hother L₂ (fun q hq => by simp [hq]) h₂),
    hnone _ hpost, Option.none_or, Option.or_none]

/-! ## Reading the two APIs through their split -/

namespace LevelSplit

variable {reg : Registry} {C : Catalog} {N : Nat} {api₁ api₂ : GeneratedApi}

/-- Distinct names of definitions split at a middle part: the middle part's
names are distinct, and none is a name after it. -/
theorem names_split {defs pre X post : List NamedType} (hnodup : (defs.map (·.name)).Nodup)
    (hdefs : defs = pre ++ X ++ post) :
    (X.map (·.name)).Nodup ∧ ∀ d ∈ post, d.name ∉ X.map (·.name) := by
  subst hdefs
  simp only [List.map_append, List.nodup_append] at hnodup
  obtain ⟨⟨-, hX, -⟩, -, hdisj⟩ := hnodup
  exact ⟨hX, fun d hd hx => hdisj _ (List.mem_append_right _ hx) _ (List.mem_map_of_mem hd) rfl⟩

/-- The roles of the tables' output types name those types. -/
theorem nodes_roles {g : RelationGraph} {nodes : List (NamedType × List ((String × String) × FieldRole))}
    (hmap : g.nodes.mapM (nodeType reg g) = .ok nodes) : ∀ p ∈ nodes, ∀ role ∈ p.2, role.1.1 = p.1.name := by
  intro p hp
  obtain ⟨n, -, hn⟩ := Outcome.exists_of_mem_mapM hmap hp
  exact nodeType_roles hn

/-- The output type of a node is an object whose fields are its columns'
fields, then its edges'; the roles of those fields are found likewise. -/
theorem lookup_node {g : RelationGraph} {nodes : List (NamedType × List ((String × String) × FieldRole))}
    {api : GeneratedApi} {pre post : List NamedType} {rolesPost : List ((String × String) × FieldRole)}
    (hmap : g.nodes.mapM (nodeType reg g) = .ok nodes) (hdefs : api.schema.definitions = pre ++ nodes.map (·.1) ++ post)
    (hroles : api.roles = nodes.flatMap (·.2) ++ rolesPost) (hpost : ∀ role ∈ rolesPost, role.1.1 ∈ post.map (·.name))
    (hnodup : (api.schema.definitions.map (·.name)).Nodup) {n : GraphNode} (hn : n ∈ g.nodes) :
    ∃ cols, columnFields reg n.table = .ok cols ∧ api.schema.ObjectType n.name ∧
      (∀ f ∉ ["__typename", "__schema", "__type"], api.schema.fieldDef? n.name f =
        (cols.find? (·.name == f)).or (((g.edges n).find? (·.1.fieldName == f)).map fun (r, m) => relationField g r m)) ∧
      ∀ f, api.role? n.name f = ((n.table.columns.find? (·.fieldName == f)).map .column).or
        (((g.edges n).find? (·.1.fieldName == f)).map fun (r, m) => .relation r m) := by
  obtain ⟨p, hp, hnt⟩ := exists_of_forall₂_left (Outcome.forall₂_of_mapM hmap) hn
  obtain ⟨cols, hcols, hname, hobj, hfield, hrole⟩ := nodeType_lookup hnt
  obtain ⟨hnames, hapart⟩ := names_split hnodup hdefs
  simp only [List.map_map, Function.comp_def] at hnames hapart
  have hdef : api.schema.definition? n.name = some p.1 :=
    hname ▸ Schema.definition?_of_mem hnodup
      (hdefs ▸ List.mem_append_left _ (List.mem_append_right _ (List.mem_map_of_mem hp)))
  -- the roles after the output types name types after them, so not this one
  have hpost' : ∀ role ∈ rolesPost, role.1.1 ≠ p.1.name := by
    intro role hrole heq
    obtain ⟨d, hd, hdname⟩ := List.mem_map.mp (hpost role hrole)
    exact hapart d hd (List.mem_map.mpr ⟨p, hp, by rw [← heq, ← hdname]⟩)
  refine ⟨cols, hcols, ⟨p.1, hdef, hobj⟩, fun f hf => ?_, fun f => ?_⟩
  · have hmeta : f ≠ "__typename" ∧ f ≠ "__schema" ∧ f ≠ "__type" := by simpa using hf
    simp only [Schema.fieldDef?, beq_iff_eq, Bool.and_eq_true, hmeta.1, hmeta.2.1, hmeta.2.2, false_and,
      if_false, hdef, Option.bind_some, hfield]
  · rw [← hname, role?_node hroles (nodes_roles hmap) hnames hp hpost' f, hname, hrole f]

variable (sp : LevelSplit reg C N api₁ api₂)
include sp

/-- A type after the tables' output types is defined alike by both APIs, and
names no output type. -/
theorem post_alike (hnodup₁ : (api₁.schema.definitions.map (·.name)).Nodup)
    (hnodup₂ : (api₂.schema.definitions.map (·.name)).Nodup) {d : NamedType} (hd : d ∈ sp.post) :
    api₁.schema.definition? d.name = some d ∧ api₂.schema.definition? d.name = some d ∧
      d.name ∉ sp.nodes₁.map (·.1.name) ∧ d.name ∉ sp.nodes₂.map (·.1.name) := by
  have h₁ := (names_split hnodup₁ sp.defs₁).2 d hd
  have h₂ := (names_split hnodup₂ sp.defs₂).2 d hd
  simp only [List.map_map, Function.comp_def] at h₁ h₂
  exact ⟨Schema.definition?_of_mem hnodup₁ (by rw [sp.defs₁]; simp [hd]),
    Schema.definition?_of_mem hnodup₂ (by rw [sp.defs₂]; simp [hd]), h₁, h₂⟩

/-- A type name of no output type has the same roles in both APIs. -/
theorem role?_apart {m : String} (hm₁ : m ∉ sp.nodes₁.map (·.1.name)) (hm₂ : m ∉ sp.nodes₂.map (·.1.name))
    (f : String) : api₁.role? m f = api₂.role? m f := by
  have hapart : ∀ nodes : List (NamedType × List ((String × String) × FieldRole)),
      (∀ p ∈ nodes, ∀ role ∈ p.2, role.1.1 = p.1.name) → m ∉ nodes.map (·.1.name) →
      ∀ role ∈ nodes.flatMap (·.2), role.1.1 ≠ m := by
    intro nodes hroles hm role hrole heq
    obtain ⟨p, hp, hr⟩ := List.mem_flatMap.mp hrole
    exact hm (List.mem_map.mpr ⟨p, hp, by rw [← heq, hroles p hp role hr]⟩)
  exact role?_split sp.roles₁ sp.roles₂ (hapart _ (nodes_roles sp.mapM₁) hm₁)
    (hapart _ (nodes_roles sp.mapM₂) hm₂) f

end LevelSplit

end GeneratedApi

end TableGraph
