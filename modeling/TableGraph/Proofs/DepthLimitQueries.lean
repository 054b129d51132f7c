import Mathlib
import TableGraph.Proofs.DepthModes
import TableGraph.Proofs.SelectionLoads

/-!
# Queries answered with and without a depth limit

An API compiled with the relation depth limit `N` and one compiled without a
limit, whose requests carry a depth budget `B ≥ N` instead, answer a query
with the same data when its relation fields nest at most `N` deep below the
root fields and it reads nothing the two APIs name apart: no field the query
language answers itself (`__typename`, `__schema`, `__type`, the last of
which looks a type up by its name), and no fragment conditioned on a table's
output type.

`DepthModes.levelledSimulation` relates the two executions type by type;
what is left is the query root. Its type and its fields are the same in both
APIs, and each of its fields reads a table of the catalog, so every root
field is prepared and completed alike (`DepthModes.rootAgrees`).

The budget of the unlimited API is spent at the root reads: a selection that
nests within it is read as without a budget, and one with a relation field
too deep for it is refused for depth, when the arguments of its relation
fields compile. A relation field whose arguments fail is reported as it is
met, so a selection too deep can be refused for an argument above the
budget first (`SelectionContext.negative_offset_before_depth`).

## Main results

* `DepthModes.rootAgrees` — the query root's fields agree in both APIs.
* `DepthModes.executeOperation_levels` — a query nesting within the limit
  gives the same data and leaves the same state in both APIs.
* `DepthModes.depth_limit_answers` — that, and what the budget does with a
  root read.
-/

namespace TableGraph

open GraphQL Generate

namespace GraphQL.Execution

/-- A root call made for a field reads the field's name at the root type,
with the selections and the document of its first node. -/
theorem rootCall_ok {c : Context} {rootType key : String} {f : Field} {nd : FieldNode} {rest : List FieldNode}
    {call : RootCall} (h : rootCall c rootType key f (nd :: rest) = .ok call) :
    call.rootType = rootType ∧ call.field = f.name ∧ call.selections = nd.selections.getD [] ∧
      call.document = c.document := by
  cases hargs : c.argumentValues f.args nd.arguments with
  | error m => simp [rootCall, hargs] at h
  | ok args =>
    simp only [rootCall, hargs, Except.ok.injEq] at h
    subst h
    exact ⟨rfl, rfl, rfl, rfl⟩

end GraphQL.Execution

/-- An outcome known to succeed is its value. -/
theorem Outcome.eq_ok_of_toBool {α : Type} [Inhabited α] {x : Outcome α} (h : x.toBool = true) :
    x = .ok (x.toOption.getD default) := by
  cases x with
  | error e => cases h
  | ok a => rfl

namespace GraphQL

/-- A field selection reads alike in both APIs when it names no meta field. -/
theorem Document.readsAlike_field {C : Catalog} {doc : Document} {a : Option String} {name : String}
    {args : List (String × Literal)} {ds : List DirectiveUse} {sub : Option (List Selection)}
    (h : name ∉ ["__typename", "__schema", "__type"]) : doc.ReadsAlike C (.field a name args ds sub) :=
  ⟨fun nd hnd => by cases hnd; exact h, fun cond hcond => by cases hcond⟩

namespace Document.Nests

variable {doc : Document} {relation : String → Prop} {ok : Selection → Prop} {n : Nat}

theorem nil : doc.Nests relation ok n [] :=
  .intro (fun _ hx => by cases hx) (fun _ _ hx => by cases hx) (fun _ _ hx => by cases hx)

/-- A field in front of selections that nest nests with them when it has a
level left if named like a relation, and its own selections nest one level
less deep. -/
theorem cons_field {a : Option String} {name : String} {args : List (String × Literal)}
    {ds : List DirectiveUse} {sub : Option (List Selection)} {rest : List Selection}
    (hok : ok (.field a name args ds sub)) (hrel : relation name → 0 < n)
    (hsub : doc.Nests relation ok (n - 1) (sub.getD [])) (hrest : doc.Nests relation ok n rest) :
    doc.Nests relation ok n (.field a name args ds sub :: rest) := by
  obtain ⟨hok', hrel', hsub'⟩ := hrest
  refine .intro (fun x hx => ?_) (fun x nd hx hnd => ?_) (fun x nd hx hnd => ?_)
  · cases hx with
    | head => exact hok
    | tail _ hx => exact hok' x hx
  · cases hx with
    | head => cases hnd; exact hrel
    | tail _ hx => exact hrel' x nd hx hnd
  · cases hx with
    | head => cases hnd; exact hsub
    | tail _ hx => exact hsub' x nd hx hnd

end Document.Nests

end GraphQL

/-- A table's query fields read its rows, and return its root type. -/
theorem Generate.queryFields_read {C : Catalog} {t : Table} {F : Field} {role : FieldRole}
    (h : (F, role) ∈ queryFields ⟨C, none⟩ t) :
    (role = .readMany t ∨ role = .readFirst t) ∧ F.type.baseName = (⟨t, none⟩ : GraphNode).name := by
  simp only [queryFields, List.mem_cons, List.not_mem_nil, or_false, Prod.mk.injEq] at h
  rcases h with ⟨rfl, rfl⟩ | ⟨rfl, rfl⟩
  · exact ⟨.inl rfl, rfl⟩
  · exact ⟨.inr rfl, rfl⟩

namespace GeneratedApi.LevelSplit

variable {reg : Registry} {C : Catalog} {N : Nat} {api₁ api₂ : GeneratedApi}
  (sp : LevelSplit reg C N api₁ api₂) (hnodup₁ : (api₁.schema.definitions.map (·.name)).Nodup)
  (hnodup₂ : (api₂.schema.definitions.map (·.name)).Nodup)
include sp hnodup₁ hnodup₂

/-- The query root is defined alike in both APIs, and is no table's output
type. -/
theorem query_alike :
    api₁.schema.definition? "Query" =
        some ({ name := "Query", definition := .object ((C.tables.flatMap (queryFields ⟨C, none⟩)).map (·.1)) } :
          NamedType) ∧
      api₂.schema.definition? "Query" = api₁.schema.definition? "Query" ∧
      "Query" ∉ sp.nodes₁.map (·.1.name) ∧ "Query" ∉ sp.nodes₂.map (·.1.name) := by
  obtain ⟨h₁, h₂, hn₁, hn₂⟩ := sp.post_alike hnodup₁ hnodup₂ sp.queryType
  exact ⟨h₁, h₂.trans h₁.symm, hn₁, hn₂⟩

/-- The query root's fields are looked up alike in both APIs. -/
theorem query_fieldDef (f : String) :
    api₁.schema.fieldDef? api₁.schema.query f = api₂.schema.fieldDef? api₁.schema.query f := by
  obtain ⟨-, hdef, -, -⟩ := sp.query_alike hnodup₁ hnodup₂
  rw [sp.query₁]
  exact Schema.fieldDef?_congr (sp.query₁.trans sp.query₂.symm) hdef.symm f

/-- A field of the query root other than a meta field is one of a table's
query fields. -/
theorem query_field {f : String} (hf : f ∉ ["__typename", "__schema", "__type"]) {F : Field}
    (hF : api₁.schema.fieldDef? api₁.schema.query f = some F) :
    ∃ t ∈ C.tables, ∃ role, (F, role) ∈ queryFields ⟨C, none⟩ t := by
  obtain ⟨hdef, -, -, -⟩ := sp.query_alike hnodup₁ hnodup₂
  have hmeta : f ≠ "__typename" ∧ f ≠ "__schema" ∧ f ≠ "__type" := by simpa using hf
  simp only [Schema.fieldDef?, sp.query₁, beq_iff_eq, Bool.and_eq_true, hmeta.1, hmeta.2.1, hmeta.2.2,
    false_and, if_false, hdef, Option.bind_some, NamedType.field?, NamedType.fields] at hF
  obtain ⟨q, hq, rfl⟩ := List.mem_map.mp (List.mem_of_find?_eq_some hF)
  obtain ⟨t, ht, hqt⟩ := List.mem_flatMap.mp hq
  exact ⟨t, ht, q.2, hqt⟩

/-- The query root's fields have the same roles in both APIs. -/
theorem query_role (f : String) : api₁.role? "Query" f = api₂.role? "Query" f := by
  obtain ⟨-, -, hn₁, hn₂⟩ := sp.query_alike hnodup₁ hnodup₂
  exact sp.role?_apart hn₁ hn₂ f

/-- A role of a field of the query root is the role of one of a table's
query fields. -/
theorem query_role_mem {f : String} {fr : FieldRole} (h : api₂.role? "Query" f = some fr) :
    ∃ t ∈ C.tables, ∃ F, (F, fr) ∈ queryFields ⟨C, none⟩ t := by
  obtain ⟨-, -, -, hn₂⟩ := sp.query_alike hnodup₁ hnodup₂
  obtain ⟨role, hfind, rfl⟩ := Option.map_eq_some_iff.mp h
  have hkey : role.1 = ("Query", f) := by simpa using List.find?_some hfind
  have hmem := List.mem_of_find?_eq_some hfind
  rw [sp.roles₂] at hmem
  rcases List.mem_append.mp hmem with hnode | hpost
  · -- the roles of the output types name those types, and none is the query root
    obtain ⟨p, hp, hr⟩ := List.mem_flatMap.mp hnode
    have hname := nodes_roles sp.mapM₂ p hp role hr
    exact absurd (List.mem_map.mpr ⟨p, hp, by rw [← hname, hkey]⟩) hn₂
  · obtain ⟨q, hq, rfl⟩ := sp.queryRoles role hpost (by rw [hkey])
    obtain ⟨t, ht, hqt⟩ := List.mem_flatMap.mp hq
    exact ⟨t, ht, q.1, hqt⟩

/-- The reads of the query root are of tables of the catalog. -/
theorem query_read_table {f : String} {t : Table}
    (h : api₂.role? "Query" f = some (.readMany t) ∨ api₂.role? "Query" f = some (.readFirst t)) :
    t ∈ C.tables := by
  rcases h with h | h
  all_goals
    obtain ⟨u, hu, F, hF⟩ := sp.query_role_mem hnodup₁ hnodup₂ h
    rcases (Generate.queryFields_read hF).1 with hrole | hrole
    all_goals
      cases hrole
      try exact hu

end GeneratedApi.LevelSplit

namespace DepthModes

variable {s₁ s₂ : CompiledSchema} {C : Catalog} {N : Nat} (h : DepthModes s₁ s₂ C N)
  (sp : GeneratedApi.LevelSplit s₁.registry C N s₁.api s₂.api)

/-- The simulation of the two executions of a document, read through the
resolvers of requests with or without a database. -/
def resolverSimulation (doc : Document) (vars : List (String × Value)) (connected : Bool) :
    Simulation (⟨s₁.api.schema, doc, vars⟩ : Context) ⟨s₂.api.schema, doc, vars⟩
      (s₁.resolvers connected).field (s₂.resolvers connected).field :=
  levelledSimulation h sp doc vars

include h sp

/-- A field of the query root whose nodes name no meta field and nest within
the limit is prepared alike in both APIs, gives a value that holds no part of
the schema, and completes against related types. -/
theorem rootAgrees (doc : Document) (vars : List (String × Value)) (connected : Bool) {key : String}
    {F : Field} {nodes : List FieldNode} {call : RootCall}
    (hnodes : ∀ nd ∈ nodes, nd.name ∉ ["__typename", "__schema", "__type"] ∧
      doc.Nests C.RelationNamed (doc.ReadsAlike C) N (nd.selections.getD []))
    (hF : (nodes.head?.bind fun n => s₁.api.schema.fieldDef? s₁.api.schema.query n.name) = some F)
    (hcall : Execution.rootCall ⟨s₁.api.schema, doc, vars⟩ s₁.api.schema.query key F nodes = .ok call) :
    RootAgrees (h.resolverSimulation sp doc vars connected) ⟨key, F, nodes, call⟩ := by
  obtain ⟨nd, hnd, hF⟩ := Option.bind_eq_some_iff.mp hF
  obtain ⟨rest, rfl⟩ := List.head?_eq_some_iff.mp hnd
  obtain ⟨hroot, hfield, hsels, hdoc⟩ := Execution.rootCall_ok hcall
  obtain ⟨hname, hnests⟩ := hnodes nd List.mem_cons_self
  obtain ⟨t, ht, role, hrole⟩ := sp.query_field h.nodup₁ h.nodup₂ hname hF
  obtain ⟨-, hbase⟩ := Generate.queryFields_read hrole
  have hquery : call.rootType = "Query" := hroot.trans sp.query₁
  refine ⟨?_, fun run st src st' hrun hst => s₁.prepare_partFree connected call hrun st hst, ?_⟩
  · -- the same role in both APIs, a read of a table of the catalog
    refine h.prepare_levels call (by rw [hquery]; exact sp.query_role h.nodup₁ h.nodup₂ _)
      (fun t' ht' => sp.query_read_table h.nodup₁ h.nodup₂ (by rwa [hquery] at ht'))
      (show call.document.Nests C.RelationNamed (doc.ReadsAlike C) N call.selections by rw [hdoc, hsels]; exact hnests)
      connected
  · -- the root field returns a table's level-zero type, related to its single type
    refine TypeRef.alike_self F.type ?_
    rw [hbase]
    exact Levelled.node (k := 0) ht (Nat.zero_le N) fun nd' hnd' => (hnodes nd' hnd').2

omit sp in
/-- A query whose root fields are no meta fields, whose fragments name no
table's output type, and whose relation fields nest within the limit below
its root fields gives the same data, and leaves the same state, in both
APIs. -/
theorem executeOperation_levels (doc : Document) (vars : List (String × Value)) (op : Operation)
    (hkind : op.kind ≠ .mutation) (hnests : doc.Nests C.RelationNamed (doc.ReadsAlike C) (N + 1) op.selections)
    (connected : Bool) (session : Session) :
    (executeOperation ⟨s₁.api.schema, doc, vars⟩ (s₁.resolvers connected) op session).data =
        (executeOperation ⟨s₂.api.schema, doc, vars⟩ (s₂.resolvers connected) op session).data ∧
      (executeOperation ⟨s₁.api.schema, doc, vars⟩ (s₁.resolvers connected) op session).state =
        (executeOperation ⟨s₂.api.schema, doc, vars⟩ (s₂.resolvers connected) op session).state := by
  obtain ⟨sp⟩ := h.split
  -- every node of a root group is a field reached from the operation's selections
  have hgroups : GroupsWith (fun _ nd => nd.name ∉ ["__typename", "__schema", "__type"] ∧
      doc.Nests C.RelationNamed (doc.ReadsAlike C) N (nd.selections.getD []))
      ((⟨s₁.api.schema, doc, vars⟩ : Context).collect s₁.api.schema.query Context.collectFuel op.selections
        ([], [])).1 :=
    collect_groupsWith _ _ _ (by simp [GroupsWith]) fun x nd hx hnd =>
      ⟨(hnests.ok_of_reaches hx).1 nd hnd, by simpa using (hnests.field hx hnd).2⟩
  refine executeOperation_sameData (h.resolverSimulation sp doc vars connected) (sp.query₁.trans sp.query₂.symm) op
    hkind session fun key nodes hmem => ⟨?_, fun F hF => ⟨?_, fun call hcall =>
      h.rootAgrees sp doc vars connected (hgroups key nodes hmem) hF hcall⟩⟩
  · simp only [sp.query_fieldDef h.nodup₁ h.nodup₂]
  · -- a root field is named as its node, which names no meta field
    obtain ⟨nd, hnd, hF⟩ := Option.bind_eq_some_iff.mp hF
    obtain ⟨rest, rfl⟩ := List.head?_eq_some_iff.mp hnd
    have hmeta := (hgroups key _ hmem nd List.mem_cons_self).1
    simp only [Execution.isMetaField, Schema.fieldDef?_name hF]
    simpa [and_assoc] using hmeta

omit sp in
/-- The unlimited API refuses for depth a root read with a relation field too
deep for its budget, when the read's own arguments and those of its relation
fields compile. -/
theorem rootSpec_too_deep {t : Table} (call : RootCall) (paged : Bool) {spec : LoadSpec}
    (hbuild : LoadSpec.build s₂.registry t (CompiledSchema.callArgument call "where")
      (CompiledSchema.callArgument call "order_by") (CompiledSchema.callArgument call "offset")
      (if paged then CompiledSchema.callArgument call "limit" else .none) = .ok spec)
    (hfits : call.document.Fits SelectionContext.collectFuel call.selections)
    (hcomp : (s₂.selectionContext call).Compiles SelectionContext.collectFuel t call.selections)
    (hdeep : (s₂.selectionContext call).Deeper SelectionContext.collectFuel s₂.settings.maxRelationDepth t
      call.selections) :
    ∃ a r, s₂.rootSpec t call paged = .error (SelectionContext.depthExceeded a r s₂.settings.maxRelationDepth) := by
  obtain ⟨htable, hcols, hrels, -⟩ := LoadSpec.build_ok hbuild
  rw [s₂.rootSpec_of_build t call paged hbuild]
  refine (SelectionContext.collect_loads (c := s₂.selectionContext call) hfits hcols hrels (htable ▸ hcomp) 0).1 _
    h.depthBudget₂ ?_
  rw [Nat.sub_zero, htable]
  exact hdeep

omit sp in
/-- A root read whose own arguments and those of its relation fields compile
is refused for depth by the unlimited API exactly when a relation field nests
too deep for its budget; within the budget it loads. -/
theorem rootSpec_refused_iff {t : Table} (call : RootCall) (paged : Bool) {spec : LoadSpec}
    (hbuild : LoadSpec.build s₂.registry t (CompiledSchema.callArgument call "where")
      (CompiledSchema.callArgument call "order_by") (CompiledSchema.callArgument call "offset")
      (if paged then CompiledSchema.callArgument call "limit" else .none) = .ok spec)
    (hfits : call.document.Fits SelectionContext.collectFuel call.selections)
    (hcomp : (s₂.selectionContext call).Compiles SelectionContext.collectFuel t call.selections) :
    (∃ a r, s₂.rootSpec t call paged = .error (SelectionContext.depthExceeded a r s₂.settings.maxRelationDepth)) ↔
      (s₂.selectionContext call).Deeper SelectionContext.collectFuel s₂.settings.maxRelationDepth t
        call.selections := by
  refine ⟨fun ⟨a, r, herr⟩ => ?_, h.rootSpec_too_deep call paged hbuild hfits hcomp⟩
  by_contra hshallow
  obtain ⟨htable, hcols, hrels, -⟩ := LoadSpec.build_ok hbuild
  -- the only budget is the unlimited API's, and the selection nests within it
  have hwithin : ∀ B, (s₂.selectionContext call).depthBudget = some B →
      ¬ (s₂.selectionContext call).Deeper SelectionContext.collectFuel (B - 0) spec.table call.selections := by
    intro B hB
    obtain rfl := Option.some.inj (h.depthBudget₂.symm.trans hB)
    rw [Nat.sub_zero, htable]
    exact hshallow
  obtain ⟨spec', hspec', -⟩ :=
    (SelectionContext.collect_loads (c := s₂.selectionContext call) hfits hcols hrels (htable ▸ hcomp) 0).2 hwithin
  rw [s₂.rootSpec_of_build t call paged hbuild, hspec'] at herr
  cases herr

omit sp in
/-- Two APIs of one catalog, compiled with the relation depth limit `N` and
without a limit but with a request budget of at least `N`, answer a query
whose relation fields nest at most `N` deep below its root fields, and that
reads nothing the two name apart, with the same data. The unlimited API reads
a root read nesting within its budget as the limited one does, and refuses a
root read whose arguments compile for depth exactly when one of its relation
fields nests deeper than the budget. -/
theorem depth_limit_answers :
    (∀ (doc : Document) (vars : List (String × Value)) (op : Operation), op.kind ≠ .mutation →
      doc.Nests C.RelationNamed (doc.ReadsAlike C) (N + 1) op.selections → ∀ connected session,
        (executeOperation ⟨s₁.api.schema, doc, vars⟩ (s₁.resolvers connected) op session).data =
          (executeOperation ⟨s₂.api.schema, doc, vars⟩ (s₂.resolvers connected) op session).data) ∧
    (∀ t ∈ C.tables, ∀ (call : RootCall) (paged : Bool) (ok : Selection → Prop),
      call.document.Nests C.RelationNamed ok s₂.settings.maxRelationDepth call.selections →
        s₂.rootSpec t call paged = s₁.rootSpec t call paged) ∧
    (∀ (t : Table) (call : RootCall) (paged : Bool) (spec : LoadSpec),
      LoadSpec.build s₂.registry t (CompiledSchema.callArgument call "where")
        (CompiledSchema.callArgument call "order_by") (CompiledSchema.callArgument call "offset")
        (if paged then CompiledSchema.callArgument call "limit" else .none) = .ok spec →
      call.document.Fits SelectionContext.collectFuel call.selections →
      (s₂.selectionContext call).Compiles SelectionContext.collectFuel t call.selections →
      ((∃ a r, s₂.rootSpec t call paged =
          .error (SelectionContext.depthExceeded a r s₂.settings.maxRelationDepth)) ↔
        (s₂.selectionContext call).Deeper SelectionContext.collectFuel s₂.settings.maxRelationDepth t
          call.selections)) := by
  refine ⟨fun doc vars op hkind hnests connected session => ?_, fun t ht call paged ok hnests => ?_,
    fun t call paged spec hbuild hfits hcomp => ?_⟩
  · exact (h.executeOperation_levels doc vars op hkind hnests connected session).1
  · exact h.rootSpec_free ht call paged hnests
  · exact h.rootSpec_refused_iff call paged hbuild hfits hcomp

end DepthModes

end TableGraph

namespace TableGraph.Samples

open GraphQL

/-- The library compiled on SQLite with a registry of no types, its relation
graph bounded by `limit`. -/
def librarySchema (limit : Option Nat) (settings : BuildSettings) : CompiledSchema :=
  { api := (GeneratedApi.generate {} ⟨library, limit⟩ Backend.sqlite settings).toOption.getD default
    catalog := library, graph := ⟨library, limit⟩, registry := {}, backend := Backend.sqlite, settings }

/-- The library with relations followed one level deep. -/
def limitedLibrary : CompiledSchema := librarySchema (some 1) { depthLimit := .int 1 }

/-- The library with no depth limit and a request budget of one level. -/
def unlimitedLibrary : CompiledSchema := librarySchema none { maxRelationDepth := 1 }

theorem limitedLibrary_generated :
    GeneratedApi.generate {} ⟨library, some 1⟩ Backend.sqlite limitedLibrary.settings = .ok limitedLibrary.api :=
  Outcome.eq_ok_of_toBool (by decide +kernel)

theorem unlimitedLibrary_generated :
    GeneratedApi.generate {} ⟨library, none⟩ Backend.sqlite unlimitedLibrary.settings = .ok unlimitedLibrary.api :=
  Outcome.eq_ok_of_toBool (by decide +kernel)

theorem library_depthModes : DepthModes limitedLibrary unlimitedLibrary library 1 where
  catalog₁ := rfl
  catalog₂ := rfl
  graph₁ := rfl
  graph₂ := rfl
  registry := rfl
  noTypes := rfl
  backend := rfl
  mutations := rfl
  budget := le_refl 1
  api₁ := limitedLibrary_generated
  api₂ := unlimitedLibrary_generated
  keyed := library_keyed
  -- the library's names are apart, so each API's type names are distinct
  nodup₁ := generate_typeNames_nodup library_keyed library_namesApart (by simp) limitedLibrary_generated
  nodup₂ := generate_typeNames_nodup library_keyed library_namesApart (by simp) unlimitedLibrary_generated

/-- The query reading the authors with their names and the titles of their
books. -/
def authorsTitles : Operation :=
  { kind := .query, name := none, variableDefinitions := [], directives := []
    selections := [.field none "authors" [] [] (some [.field none "name" [] [] none,
      .field none "books" [] [] (some [.field none "title" [] [] none])])] }

/-- A document of that query alone. -/
def authorsTitlesDocument : Document := ⟨[.operation authorsTitles]⟩

theorem authorsTitles_nests :
    authorsTitlesDocument.Nests library.RelationNamed (authorsTitlesDocument.ReadsAlike library) 2
      authorsTitles.selections := by
  have htitle : ¬ library.RelationNamed "title" := by
    unfold Catalog.RelationNamed
    decide
  -- the root field, its relation one level down, and that relation's column
  refine .cons_field (Document.readsAlike_field (by decide)) (fun _ => by decide) ?_ .nil
  refine .cons_field (Document.readsAlike_field (by decide)) (fun _ => by decide) .nil ?_
  refine .cons_field (Document.readsAlike_field (by decide)) (fun _ => by decide) ?_ .nil
  exact .cons_field (Document.readsAlike_field (by decide)) (fun h => absurd h htitle) .nil .nil

theorem library_depth_answers :
    DepthModes limitedLibrary unlimitedLibrary library 1 ∧
      authorsTitlesDocument.Nests library.RelationNamed (authorsTitlesDocument.ReadsAlike library) 2
        authorsTitles.selections ∧
      ∀ connected session,
        (executeOperation ⟨limitedLibrary.api.schema, authorsTitlesDocument, []⟩ (limitedLibrary.resolvers connected)
          authorsTitles session).data =
        (executeOperation ⟨unlimitedLibrary.api.schema, authorsTitlesDocument, []⟩
          (unlimitedLibrary.resolvers connected) authorsTitles session).data :=
  ⟨library_depthModes, authorsTitles_nests, fun connected session =>
    (DepthModes.depth_limit_answers library_depthModes).1 authorsTitlesDocument [] authorsTitles (by decide)
      authorsTitles_nests connected session⟩

end TableGraph.Samples
