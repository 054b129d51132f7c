import Mathlib
import TableGraph.Proofs.TypeNames

/-!
# Generated field names and column lookups

Within each type an API generates, field names are distinct: a column's
filters list the operators and `OR`; a table's filters, sort order and
write inputs list its columns' field names, the filters then `AND`, `OR`
and `NOT`; an output type lists its columns and then its relations. The
query root has a list field and a `Single` field per table, and the
mutation root four fields per table built on its type name.

`generated_names_apart` gathers what a catalog whose names are apart gets:
distinct type names, distinct field names within each type, and columns
found under their keys and under their field names. The sample `clashing`
shows that distinct keys alone do not suffice.
-/

namespace TableGraph

/-! ## The names of the generated fields -/

/-- The names of the fields of an object type or an input object type. -/
def GraphQL.NamedType.fieldNames (t : GraphQL.NamedType) : List String :=
  match t.definition with
  | .object fs => fs.map (·.name)
  | .inputObject fs => fs.map (·.name)
  | _ => []

namespace Table

/-- The names of a table's fields on the query root. -/
def queryNames (t : Table) : List String := [t.fieldName, t.fieldName ++ "Single"]

/-- The names of a table's fields on the mutation root. -/
def mutationNames (t : Table) : List String :=
  ["insertInto" ++ t.typeName, "insertInto" ++ t.typeName ++ "Single", "update" ++ t.typeName,
    "deleteFrom" ++ t.typeName]

end Table

namespace RelationGraph

/-- Each edge of a node is one of its table's relations, in order, when
the catalog finds every relation's target. -/
theorem edges_fst_sublist {g : RelationGraph} (hk : g.catalog.Keyed) {n : GraphNode}
    (hn : n.table ∈ g.catalog.tables) : ((g.edges n).map (·.1)).Sublist n.table.relations := by
  have hfst : ∀ level, (n.table.relations.filterMap fun r =>
      (g.catalog.table? r.target).map fun u => (r, (⟨u, level⟩ : GraphNode))).map (·.1) = n.table.relations :=
    fun _ => targetEdges_fst (hk.targets _ hn)
  -- a node has no edges, or an edge per relation towards one level
  unfold edges
  split <;> dsimp only <;> (try split) <;> simp [hfst]

end RelationGraph

section Fields

open Generate GraphQL

variable {reg : Registry}

theorem operatorFields_names (valueType : ApiType) :
    (operatorFields valueType).map (·.name) = FilterOperator.all.map FilterOperator.fieldName := by
  simp [operatorFields]

theorem columnFilterTypes_fieldNames {t : Table} {col : Column} {ds : List NamedType}
    (h : columnFilterTypes reg t col = .ok ds) : ∀ d ∈ ds, d.fieldNames.Nodup := by
  simp only [columnFilterTypes, Outcome.bind_eq_ok, Outcome.map_eq_ok, Outcome.pure_eq_ok] at h
  obtain ⟨_, _, rfl⟩ := h
  have hops : (FilterOperator.all.map FilterOperator.fieldName ++ ["OR"]).Nodup := by decide
  simp only [List.mem_cons, List.not_mem_nil, or_false, forall_eq_or_imp, forall_eq, NamedType.fieldNames,
    List.map_append, operatorFields_names]
  exact ⟨hops.of_append_left, by simpa using hops⟩

theorem columnFields_names {t : Table} {fs : List Field} (h : columnFields reg t = .ok fs) :
    fs.map (·.name) = t.columns.map (·.fieldName) :=
  Outcome.map_of_mapM (fun c f h => by
    simp only [Outcome.bind_eq_ok, Outcome.pure_eq_ok] at h
    obtain ⟨_, _, rfl⟩ := h
    rfl) h

section Table

variable {t : Table} (hcols : (t.columns.map (·.fieldName)).Nodup)
  (hconn : ∀ col ∈ t.columns, col.fieldName ∉ ["AND", "OR", "NOT"])

include hcols hconn in
/-- A table's input types have distinct field names when its columns'
field names are distinct and none is a connective. -/
theorem tableInputs_fieldNames {ds : List NamedType} (h : tableInputs reg t = .ok ds) :
    ∀ d ∈ ds, d.fieldNames.Nodup := by
  simp only [tableInputs, Outcome.bind_eq_ok, Outcome.pure_eq_ok] at h
  obtain ⟨cts, hcts, ins, hins, upd, hupd, rfl⟩ := h
  have hwrite : ∀ insert d, writeType reg t insert = .ok d → d.fieldNames.Nodup := by
    intro insert d h
    simp only [writeType, Outcome.bind_eq_ok, Outcome.pure_eq_ok] at h
    obtain ⟨fields, hfields, rfl⟩ := h
    have hnames : fields.map (·.name) = t.columns.map (·.fieldName) :=
      Outcome.map_of_mapM (fun c v h => by
        split at h <;>
        · simp only [Outcome.bind_eq_ok, Outcome.pure_eq_ok] at h
          obtain ⟨_, _, rfl⟩ := h
          rfl) hfields
    simpa [NamedType.fieldNames, hnames] using hcols
  intro d hd
  simp only [List.mem_append, List.mem_flatten, List.mem_cons, List.not_mem_nil, or_false] at hd
  rcases hd with ⟨l, hl, hd⟩ | rfl | rfl | rfl | rfl
  · obtain ⟨col, -, hcol⟩ := Outcome.exists_of_mem_mapM hcts hl
    exact columnFilterTypes_fieldNames hcol d hd
  · simp only [filtersType, NamedType.fieldNames, List.map_append, List.map_map, Function.comp_def,
      List.map_cons, List.map_nil]
    refine List.nodup_append.mpr ⟨hcols, by decide, ?_⟩
    intro a ha b hb hab
    obtain ⟨col, hcol, rfl⟩ := List.mem_map.mp ha
    exact hconn col hcol (hab ▸ hb)
  · simpa [orderByType, NamedType.fieldNames, Function.comp_def] using hcols
  · exact hwrite true _ hins
  · exact hwrite false _ hupd

include hcols in
theorem itemType_fieldNames {p : NamedType × List ((String × String) × FieldRole)}
    (h : itemType reg t = .ok p) : p.1.fieldNames.Nodup := by
  simp only [itemType, Outcome.bind_eq_ok, Outcome.pure_eq_ok] at h
  obtain ⟨fs, hfs, rfl⟩ := h
  simpa [NamedType.fieldNames, columnFields_names hfs] using hcols

end Table

theorem relationField_name (g : RelationGraph) (r : Relation) (target : GraphNode) :
    (relationField g r target).name = r.fieldName := by
  unfold relationField
  split
  · split <;> rfl
  · rfl

/-- The fields of a node's relations are named as the relations. -/
theorem relationFields_names (g : RelationGraph) (es : List (Relation × GraphNode)) :
    ((es.map fun (r, m) => relationField g r m).map (·.name)) = (es.map (·.1)).map (·.fieldName) := by
  simp only [List.map_map]
  exact List.map_congr_left fun e _ => relationField_name g e.1 e.2

/-- A node's type has distinct field names when its table's column and
relation field names are distinct. -/
theorem nodeType_fieldNames {g : RelationGraph} (hk : g.catalog.Keyed) {n : GraphNode}
    (hn : n.table ∈ g.catalog.tables)
    (hnames : (n.table.columns.map (·.fieldName) ++ n.table.relations.map (·.fieldName)).Nodup)
    {p : NamedType × List ((String × String) × FieldRole)} (h : nodeType reg g n = .ok p) :
    p.1.fieldNames.Nodup := by
  simp only [nodeType, Outcome.bind_eq_ok, Outcome.pure_eq_ok] at h
  obtain ⟨fs, hfs, rfl⟩ := h
  simp only [NamedType.fieldNames, List.map_append, columnFields_names hfs, relationFields_names]
  exact hnames.sublist ((RelationGraph.edges_fst_sublist hk hn).map _ |>.append_left _)

section Roots

variable {c : Catalog} (hn : c.NamesApart)

include hn in
/-- The query root's field names are distinct: the list fields of the
tables are, and none is another's followed by `Single`. -/
theorem queryNames_nodup : (c.tables.flatMap Table.queryNames).Nodup := by
  refine List.nodup_flatMap.mpr ⟨fun t ht => ?_, ?_⟩
  · simpa [Table.queryNames] using hn.singleNames t ht t ht
  · refine (List.pairwise_map.mp hn.queryNames).imp_of_mem fun ht hu hne x hx hx' => ?_
    simp only [Table.queryNames, List.mem_cons, List.not_mem_nil, or_false] at hx hx'
    rcases hx with rfl | rfl <;> rcases hx' with h | h
    · exact hne h
    · exact hn.singleNames _ ht _ hu h
    · exact hn.singleNames _ hu _ ht h.symm
    · exact hne ((String.append_left_inj _).mp h)

include hn in
/-- A type name continued by `Single` is no type name of the catalog. -/
theorem typeName_ne_single {t u : Table} (ht : t ∈ c.tables) (hu : u ∈ c.tables) :
    t.typeName.toList ≠ u.typeName.toList ++ ['S', 'i', 'n', 'g', 'l', 'e'] := by
  intro h
  have hcont := hn.noExtension u hu t ht "Single" (String.toList_inj.mp (by simpa [String.toList_append] using h))
  exact absurd hcont (by decide)

include hn in
/-- Mutation field names of tables of the catalog are equal only for the
same field of one table. -/
theorem mutationNames_apart {t u : Table} (ht : t ∈ c.tables) (hu : u ∈ c.tables) :
    ∀ a ∈ t.mutationNames, ∀ b ∈ u.mutationNames, a = b → t.typeName = u.typeName := by
  intro a ha b hb hab
  simp only [Table.mutationNames, List.mem_cons, List.not_mem_nil, or_false] at ha hb
  have hlist := congrArg String.toList hab
  rcases ha with rfl | rfl | rfl | rfl <;> rcases hb with rfl | rfl | rfl | rfl <;>
    simp [String.toList_append] at hlist
  -- what is left: the same field, or a field against its `Single` twin
  all_goals first
    | exact String.toList_inj.mp hlist
    | exact absurd hlist (typeName_ne_single hn ht hu)
    | exact absurd hlist.symm (typeName_ne_single hn hu ht)

include hn in
/-- The mutation root's field names are distinct. -/
theorem mutationNames_nodup : (c.tables.flatMap Table.mutationNames).Nodup := by
  refine List.nodup_flatMap.mpr ⟨fun t ht => ?_, ?_⟩
  · simp only [Table.mutationNames, List.nodup_cons, List.mem_cons, List.not_mem_nil, or_false,
      List.not_mem_nil, not_false_eq_true, List.nodup_nil, and_true, not_or]
    and_intros
    all_goals
      intro h
      have hlist := congrArg String.toList h
      simp [String.toList_append] at hlist
  · refine (List.pairwise_map.mp hn.typeNames).imp_of_mem fun ht hu hne x hx hx' => ?_
    exact hne (mutationNames_apart hn ht hu x hx x hx' rfl)

end Roots

theorem fixedTypes_fieldNames :
    ∀ d ∈ [mutationReturnType, innerOrderType, orderDirectionType] ++ pointTypes ++ scalarTypes ++
      introspectionTypes, d.fieldNames.Nodup := by
  decide +kernel

theorem enumTypes_fieldNames {c : Catalog} {d : NamedType} (hd : d ∈ enumTypes reg c) : d.fieldNames = [] := by
  simp only [enumTypes, List.mem_map] at hd
  obtain ⟨_, _, rfl⟩ := hd
  rfl

/-- Every type of an API generated for a catalog whose names are apart has
distinct field names, the query and mutation roots included. -/
theorem generate_fieldNames_nodup {g : RelationGraph} (hk : g.catalog.Keyed) (hn : g.catalog.NamesApart)
    {b : Backend} {settings : BuildSettings} {api : GeneratedApi}
    (h : GeneratedApi.generate reg g b settings = .ok api) : ∀ d ∈ api.schema.definitions, d.fieldNames.Nodup := by
  have hcols : ∀ t ∈ g.catalog.tables, (t.columns.map (·.fieldName)).Nodup :=
    fun t ht => (hn.fieldNames t ht).of_append_left
  have hquery : ((g.catalog.tables.flatMap (queryFields g)).map (·.1.name)).Nodup := by
    have hnames : (g.catalog.tables.flatMap (queryFields g)).map (·.1.name) =
        g.catalog.tables.flatMap fun t => t.queryNames := by
      simp [queryFields, Table.queryNames, List.map_flatMap]
    rw [hnames]
    exact queryNames_nodup hn
  have hmutation : ∀ returnless,
      ((g.catalog.tables.flatMap (mutationFields returnless)).map (·.1.name)).Nodup := by
    intro returnless
    have hnames : (g.catalog.tables.flatMap (mutationFields returnless)).map (·.1.name) =
        g.catalog.tables.flatMap fun t => t.mutationNames := by
      simp [mutationFields, Table.mutationNames, List.map_flatMap]
    rw [hnames]
    exact mutationNames_nodup hn
  have hfixed : ∀ d, d ∈ [mutationReturnType, innerOrderType, orderDirectionType] ∨ d ∈ pointTypes ∨
      d ∈ scalarTypes ∨ d ∈ introspectionTypes → d.fieldNames.Nodup := fun d hd =>
    fixedTypes_fieldNames d (by simp only [List.mem_append]; tauto)
  unfold GeneratedApi.generate at h
  cases hb : b.canReportAffectedRows <;>
  simp only [hb, Bool.not_true, Bool.not_false, Bool.false_eq_true, if_true, if_false,
    Outcome.bind_eq_ok, Outcome.pure_eq_ok] at h
  all_goals
    obtain ⟨inputs, hinputs, nodes, hnodes, items, hitems, rfl⟩ := h
    have hI : ∀ d ∈ inputs.flatten, d.fieldNames.Nodup := by
      intro d hd
      obtain ⟨l, hl, hd⟩ := List.mem_flatten.mp hd
      obtain ⟨t, ht, htl⟩ := Outcome.exists_of_mem_mapM hinputs hl
      exact tableInputs_fieldNames (hcols t ht) (hn.connectives t ht) htl d hd
    have hN : ∀ p ∈ nodes, p.1.fieldNames.Nodup := by
      intro p hp
      obtain ⟨n, hnode, hnp⟩ := Outcome.exists_of_mem_mapM hnodes hp
      have hnt := (RelationGraph.mem_nodes.mp hnode).1
      exact nodeType_fieldNames hk hnt (hn.fieldNames _ hnt) hnp
    have hT : ∀ p ∈ items, p.1.fieldNames.Nodup := by
      intro p hp
      first
        | (subst hitems; simp at hp)
        | (obtain ⟨t, ht, htp⟩ := Outcome.exists_of_mem_mapM hitems hp
           exact itemType_fieldNames (hcols t ht) htp)
    intro d hd
    simp only [List.mem_append, or_assoc] at hd
    rcases hd with hd | hd | hd | hd | hd | hd | hd | hd | hd | hd
    · exact hI d hd
    · obtain ⟨p, hp, rfl⟩ := List.mem_map.mp hd
      exact hN p hp
    · obtain ⟨p, hp, rfl⟩ := List.mem_map.mp hd
      exact hT p hp
    · rw [List.mem_singleton] at hd
      subst hd
      simp only [NamedType.fieldNames, List.map_map]
      exact hquery
    · -- the mutation root, there only when mutations are on and some table has one
      by_cases htruthy : settings.mutations.truthy = true <;> simp [htruthy] at hd
      obtain ⟨-, rfl⟩ := hd
      simp only [NamedType.fieldNames, List.map_map]
      exact hmutation _
    · exact hfixed d (.inl hd)
    · exact hfixed d (.inr (.inl hd))
    · exact (enumTypes_fieldNames hd).symm ▸ List.nodup_nil
    · exact hfixed d (.inr (.inr (.inl hd)))
    · exact hfixed d (.inr (.inr (.inr hd)))

end Fields

/-! ## Columns by key and by field name -/

namespace Table

variable {t : Table}

/-- A column is found under its key when the table's keys are distinct. -/
theorem column?_name (hkeys : (t.columns.map (·.name)).Nodup) {col : Column} (hcol : col ∈ t.columns) :
    t.column? col.name = some col := by
  obtain ⟨b, hb⟩ := Option.isSome_iff_exists.mp
    ((List.find?_isSome (p := fun c : Column => c.name == col.name)).mpr ⟨col, hcol, by simp⟩)
  have hbname : b.name = col.name := by simpa using List.find?_some hb
  rw [column?, hb, List.inj_on_of_nodup_map hkeys (List.mem_of_find?_eq_some hb) hcol hbname]

theorem columnFor?_name (hkeys : (t.columns.map (·.name)).Nodup) {col : Column} (hcol : col ∈ t.columns) :
    t.columnFor? col.name = some col := by
  rw [columnFor?, column?_name hkeys hcol]

/-- A column is found under its field name when keys and field names are
distinct and no key is another column's field name: the key lookup finds
the column itself or nothing, and the field lookup then finds it. -/
theorem columnFor?_fieldName (hkeys : (t.columns.map (·.name)).Nodup)
    (hfields : (t.columns.map (·.fieldName)).Nodup)
    (hkf : ∀ a ∈ t.columns, ∀ b ∈ t.columns, b.name = a.fieldName → b.name = a.name)
    {col : Column} (hcol : col ∈ t.columns) : t.columnFor? col.fieldName = some col := by
  unfold columnFor?
  cases h : t.column? col.fieldName with
  | some b =>
    have hbmem : b ∈ t.columns := List.mem_of_find?_eq_some h
    have hbname : b.name = col.fieldName := by simpa using List.find?_some h
    rw [List.inj_on_of_nodup_map hkeys hbmem hcol (hkf col hcol b hbmem hbname)]
  | none =>
    have hrev : col ∈ t.columns.reverse := List.mem_reverse.mpr hcol
    obtain ⟨b, hb⟩ := Option.isSome_iff_exists.mp
      ((List.find?_isSome (p := fun c : Column => c.fieldName == col.fieldName)).mpr ⟨col, hrev, by simp⟩)
    have hbfield : b.fieldName = col.fieldName := by simpa using List.find?_some hb
    have hbmem : b ∈ t.columns := List.mem_reverse.mp (List.mem_of_find?_eq_some hb)
    simp only
    rw [hb, List.inj_on_of_nodup_map hfields hbmem hcol hbfield]

end Table

/-- In a catalog whose generated names are apart, the API has distinct type
names, distinct field names within every type (the query and mutation roots
included), and each column of a table is found under its key and under its
field name. -/
theorem generated_names_apart {c : Catalog} (hk : c.Keyed) (hn : c.NamesApart) {reg : Registry}
    (hreg : ∀ p ∈ reg.types, Generate.enumsOf p.2.type = []) (depthLimit : Option Nat) (b : Backend)
    (settings : BuildSettings) :
    (∀ api, GeneratedApi.generate reg ⟨c, depthLimit⟩ b settings = .ok api →
      (api.schema.definitions.map (·.name)).Nodup ∧ ∀ d ∈ api.schema.definitions, d.fieldNames.Nodup) ∧
    ∀ t ∈ c.tables, ∀ col ∈ t.columns, t.columnFor? col.name = some col ∧ t.columnFor? col.fieldName = some col :=
  ⟨fun _ h => ⟨generate_typeNames_nodup hk hn hreg h, generate_fieldNames_nodup hk hn h⟩,
    fun t ht _ hcol => ⟨Table.columnFor?_name (hn.columnKeys t ht) hcol,
      Table.columnFor?_fieldName (hn.columnKeys t ht) (hn.fieldNames t ht).of_append_left
        (hn.keysNotFields t ht) hcol⟩⟩

end TableGraph

namespace TableGraph.Samples

/-- Authors and the books they write, named without underscores. -/
def library : Catalog :=
  { tables := [
      { name := "authors"
        columns := [
          { name := "id", table := "authors", tag := "integer", columnType := "Integer" },
          { name := "name", table := "authors", tag := "text", columnType := "String" }]
        relations := [
          { name := "books", kind := .many, source := "authors", target := "books", pairs := [("id", "authorId")] }] },
      { name := "books"
        columns := [
          { name := "id", table := "books", tag := "integer", columnType := "Integer" },
          { name := "title", table := "books", tag := "text", columnType := "String" },
          { name := "authorId", table := "books", tag := "integer", columnType := "Integer" }]
        relations := [
          { name := "author", kind := .one, source := "books", target := "authors", pairs := [("authorId", "id")] }] }] }

theorem library_keyed : library.Keyed := ⟨by decide, by decide, by decide⟩

theorem library_namesApart : library.NamesApart where
  typeNames := by decide
  noExtension := by
    have hauthors : Text.pascalCase "authors" = "Authors" := by decide
    have hbooks : Text.pascalCase "books" = "Books" := by decide
    intro t ht u hu rest h
    simp only [library, List.mem_cons, List.not_mem_nil, or_false] at ht hu
    -- a type name continues only itself, and by nothing
    rcases ht with rfl | rfl <;> rcases hu with rfl | rfl <;>
      simp only [Table.typeName, hauthors, hbooks] at h <;>
      have hl := congrArg String.toList h <;>
      simp [String.toList_append] at hl
    all_goals simp [Text.startsUpper, hl]
  columnKeys := by decide
  columnParts := by decide
  columnPartsUpper := by decide
  keysNotFields := by decide
  fieldNames := by decide
  connectives := by decide
  queryNames := by decide
  singleNames := by decide

theorem library_names_apart :
    (∀ api, GeneratedApi.generate {} ⟨library, some 1⟩ Backend.sqlite {} = .ok api →
      (api.schema.definitions.map (·.name)).Nodup ∧ ∀ d ∈ api.schema.definitions, d.fieldNames.Nodup) ∧
    ∀ t ∈ library.tables, ∀ col ∈ t.columns, t.columnFor? col.name = some col ∧ t.columnFor? col.fieldName = some col :=
  generated_names_apart library_keyed library_namesApart (by simp) (some 1) Backend.sqlite {}

/-- Two tables keyed apart whose names differ only in the case of the first
letter, each with one integer column. -/
def clashing : Catalog :=
  { tables := [
      { name := "postComments"
        columns := [{ name := "id", table := "postComments", tag := "integer", columnType := "Integer" }] },
      { name := "PostComments"
        columns := [{ name := "id", table := "PostComments", tag := "integer", columnType := "Integer" }] }] }

theorem resolve_integer {c : Column} (h : c.tag = "integer") (isInput : Bool) :
    Registry.resolve {} c isInput = .ok { type := .int } := by
  rw [Registry.resolve]
  simp [Registry.find?, h]

/-- Distinct table keys do not keep generated names apart: the API of two
tables whose names differ in the case of the first letter is generated,
and names two types `PostCommentsFilters`, among others. -/
theorem clashing_type_names :
    clashing.Keyed ∧ (∀ t ∈ clashing.tables, (t.columns.map (·.name)).Nodup) ∧
      ∃ api, GeneratedApi.generate {} ⟨clashing, none⟩ Backend.sqlite {} = .ok api ∧
        ¬ (api.schema.definitions.map (·.name)).Nodup := by
  refine ⟨⟨by decide, by decide, by decide⟩, by decide, ?_⟩
  obtain ⟨api, hapi⟩ : ∃ api, GeneratedApi.generate {} ⟨clashing, none⟩ Backend.sqlite {} = .ok api := by
    simp [GeneratedApi.generate, Generate.tableInputs, Generate.columnFilterTypes, Generate.writeType,
      Registry.annotate, resolve_integer, Generate.nodeType, Generate.columnFields, Generate.itemType, clashing,
      RelationGraph.nodes, RelationGraph.levels, Backend.sqlite]
  refine ⟨api, hapi, fun hnodup => ?_⟩
  rw [generate_typeNames hapi] at hnodup
  have horigins : ((RelationGraph.origins ⟨clashing, none⟩ (!Backend.sqlite.canReportAffectedRows)).map
      TypeOrigin.name).Nodup := ((hnodup.of_append_left).of_append_left).of_append_left
  have hlower : TypeOrigin.filters "postComments" ∈
      RelationGraph.origins ⟨clashing, none⟩ (!Backend.sqlite.canReportAffectedRows) := by
    simp [RelationGraph.origins, Catalog.inputOrigins, clashing]
  have hupper : TypeOrigin.filters "PostComments" ∈
      RelationGraph.origins ⟨clashing, none⟩ (!Backend.sqlite.canReportAffectedRows) := by
    simp [RelationGraph.origins, Catalog.inputOrigins, clashing]
  have hsame : (TypeOrigin.filters "postComments").name = (TypeOrigin.filters "PostComments").name := by
    have hlowerCase : Text.pascalCase "postComments" = "PostComments" := by decide
    have hupperCase : Text.pascalCase "PostComments" = "PostComments" := by decide
    simp only [TypeOrigin.name, TypeOrigin.table, TypeOrigin.suffix, hlowerCase, hupperCase]
  have hdistinct : TypeOrigin.filters "postComments" ≠ TypeOrigin.filters "PostComments" := by decide
  exact hdistinct (List.inj_on_of_nodup_map horigins hlower hupper hsame)

end TableGraph.Samples
