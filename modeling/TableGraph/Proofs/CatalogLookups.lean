import Mathlib
import TableGraph.Api.Resolve
import TableGraph.Proofs.ArgumentForms
import TableGraph.Proofs.GraphLevels

/-!
# Lookups of a loaded catalog

Serving a catalog looks names up everywhere: the graph finds the table a
relation targets, the selection builder finds it again for a nested spec, a
read finds the columns it selects, orders by and joins on, and a write finds
the column of every input key. None of these lookups checks for failure on
its own; they rely on loading, which checks every name once.

The design fact is that loading works against the declarations, not against
the tables it has made: a relation's join keys are read from the declaration
loaded under its source's name and from the one under its target's name.
`Catalog.Laid` says what loading has established of the tables made so far
against those declarations, and every step of loading keeps it. From it,
`Catalog.WellFormed`: tables keyed by name, each with a column, and every
relation joining columns of its table to columns of its target's.

On the request side, `LoadSpec.Resolves` says a spec reads, orders by and
follows only what its catalog has. Collecting a selection keeps it step by
step, so every spec of a request resolves, and a resolving spec of a
well-formed catalog reads only columns of its tables.

## Main results

* `Catalog.load_wellFormed` — a loaded catalog is well formed.
* `SelectionContext.collect_resolves`, `CompiledSchema.rootSpec_resolves` —
  every spec a request collects resolves.
* `LoadSpec.Resolves.reads` — the reads of a resolving spec name columns of
  its table.
* `loaded_lookups_resolve` — every lookup by name that serving a loaded
  catalog makes succeeds.
-/

namespace TableGraph

/-- Under distinct names, a member is the one found under its name. -/
theorem find?_of_nodup_names {α : Type} {f : α → String} {xs : List α} (h : (xs.map f).Nodup)
    {x : α} (hx : x ∈ xs) : xs.find? (f · == f x) = some x := by
  have hsome : (xs.find? (f · == f x)).isSome := List.find?_isSome.mpr ⟨x, hx, by simp⟩
  obtain ⟨y, hy⟩ := Option.isSome_iff_exists.mp hsome
  have hsame : f y = f x := by simpa using List.find?_some hy
  rw [hy, List.inj_on_of_nodup_map h (List.mem_of_find?_eq_some hy) hx hsame]

/-- Appending a member whose name no member has keeps names distinct. -/
theorem nodup_names_append {α : Type} {f : α → String} {xs : List α} {y : α} (h : (xs.map f).Nodup)
    (hy : ¬(xs.any (f · == f y)) = true) : ((xs ++ [y]).map f).Nodup := by
  simp only [List.any_eq_true, beq_iff_eq, not_exists, not_and] at hy
  simp only [List.map_append, List.map_cons, List.map_nil]
  refine List.nodup_append.mpr ⟨h, List.nodup_singleton _, ?_⟩
  simp only [List.mem_singleton, List.mem_map]
  rintro _ ⟨x, hx, rfl⟩ _ rfl
  exact hy x hx

namespace ColumnDecl

/-- A described column is named by the column's attribute key. -/
theorem describe_name {c : ColumnDecl} {d : TableDecl} {b : Option Backend} {col : Column}
    (h : c.describe d b = .ok col) : col.name = c.key := by
  unfold describe at h
  by_cases harray : (c.type.tag b == "array") = true
  · simp only [harray, if_true] at h
    split at h
    · simp only [pure_bind, Outcome.pure_eq_ok] at h
      rw [← h]
    · cases h
  · simp only [harray, if_false, Bool.false_eq_true, pure_bind, Outcome.pure_eq_ok] at h
    rw [← h]

/-- A column of an array type is described on every backend, whatever its
type is classified as. -/
theorem describe_array {c : ColumnDecl} (d : TableDecl) (b : Option Backend) {n : String}
    {item : SqlType} (hc : c.type = .array n item) : ∃ col, c.describe d b = .ok col := by
  unfold describe
  have hitem : c.type.itemType? = some item := by rw [hc]; rfl
  by_cases harray : (c.type.tag b == "array") = true
  · simp only [harray, if_true, hitem]
    exact ⟨_, rfl⟩
  · simp only [harray, if_false, Bool.false_eq_true]
    exact ⟨_, rfl⟩

end ColumnDecl

/-- A described table has the declaration's name, a column under each
declared key and in order, some column, and no relation yet. -/
theorem TableDecl.describe_ok {d : TableDecl} {b : Option Backend} {t : Table}
    (h : d.describe b = .ok t) :
    t.name = d.name ∧ t.keys = d.columns.map (·.key) ∧ t.columns ≠ [] ∧ t.relations = [] := by
  unfold TableDecl.describe at h
  split at h
  · cases h
  · next hcols =>
    obtain ⟨cols, hmap, h⟩ := Outcome.bind_eq_ok.mp h
    rw [← Outcome.pure_eq_ok.mp h]
    have hnames := Outcome.forall₂_of_mapM hmap
    refine ⟨rfl, ?_, ?_, rfl⟩
    · show cols.map (·.name) = _
      clear h hmap hcols
      generalize d.columns = cs at hnames
      induction hnames with
      | nil => rfl
      | cons hcol _ ih => simp only [List.map_cons, ColumnDecl.describe_name hcol, ih]
    · show cols ≠ []
      rw [← List.length_pos_iff, ← hnames.length_eq, List.length_pos_iff]
      simpa using hcols

namespace Catalog

theorem keyOf?_mem {d : TableDecl} {stored k : String} (h : keyOf? d stored = some k) :
    k ∈ d.columns.map (·.key) := by
  simp only [keyOf?, Option.map_eq_some_iff] at h
  obtain ⟨c, hc, rfl⟩ := h
  exact List.mem_map_of_mem (List.mem_of_find?_eq_some hc)

theorem mem_setRelation {rs : List Relation} {r x : Relation} (hx : x ∈ setRelation rs r) : x ∈ rs ∨ x = r := by
  unfold setRelation at hx
  split at hx
  · obtain ⟨y, hy, rfl⟩ := List.mem_map.mp hx
    split
    · exact .inr rfl
    · exact .inl hy
  · simpa using hx

theorem setRelation_names {rs : List Relation} {r : Relation} (h : (rs.map (·.name)).Nodup) :
    ((setRelation rs r).map (·.name)).Nodup := by
  unfold setRelation
  split
  · next hany =>
    have : (rs.map fun x => if x.name == r.name then r else x).map (·.name) = rs.map (·.name) := by
      simp only [List.map_map]
      congr 1
      funext x
      by_cases hx : x.name = r.name <;> simp [hx]
    rw [this]
    exact h
  · next hany => exact nodup_names_append h hany


/-- What loading has established of the tables made so far, against the
declarations they were made from: one table per declaration, in order, with
its name, its column keys and some column; relations of distinct names; and
each relation joining columns of its table to columns of a declared target. -/
structure Laid (decls : List TableDecl) (ts : List Table) : Prop where
  names : (decls.map (·.name)).Nodup
  shape : List.Forall₂ (fun d t => t.name = d.name ∧ t.keys = d.columns.map (·.key) ∧ t.columns ≠ [])
    decls ts
  relationNames : ∀ t ∈ ts, (t.relations.map (·.name)).Nodup
  joins : ∀ t ∈ ts, ∀ r ∈ t.relations, r.localKeys ⊆ t.keys ∧
    ∃ d ∈ decls, d.name = r.target ∧ r.remoteKeys ⊆ d.columns.map (·.key)

namespace Laid

variable {decls : List TableDecl} {ts : List Table}

/-- The declaration a table was made from. -/
theorem decl_of_mem (h : Laid decls ts) {t : Table} (ht : t ∈ ts) :
    ∃ d ∈ decls, t.name = d.name ∧ t.keys = d.columns.map (·.key) ∧ t.columns ≠ [] :=
  exists_of_forall₂_right h.shape ht

/-- A declaration is the one found under its name. -/
theorem find?_name (h : Laid decls ts) {d : TableDecl} (hd : d ∈ decls) :
    decls.find? (·.name == d.name) = some d :=
  find?_of_nodup_names h.names hd


/-- Setting a relation on the tables named after its source keeps what
loading has established, when its local keys are columns of the source's
declaration and its remote keys columns of a declared target. -/
theorem setRelation (h : Laid decls ts) {source : String} {rel : Relation}
    (hlocal : ∀ d ∈ decls, d.name = source → rel.localKeys ⊆ d.columns.map (·.key))
    (hremote : ∃ d ∈ decls, d.name = rel.target ∧ rel.remoteKeys ⊆ d.columns.map (·.key)) :
    Laid decls (ts.map fun t =>
      if t.name == source then { t with relations := Catalog.setRelation t.relations rel } else t) := by
  refine ⟨h.names, ?_, ?_, ?_⟩
  · refine List.forall₂_map_right_iff.mpr (h.shape.imp fun d t hdt => ?_)
    split
    · exact hdt
    · exact hdt
  · intro t' ht'
    obtain ⟨t, ht, rfl⟩ := List.mem_map.mp ht'
    split
    · exact setRelation_names (h.relationNames t ht)
    · exact h.relationNames t ht
  · intro t' ht' r hr
    obtain ⟨t, ht, rfl⟩ := List.mem_map.mp ht'
    by_cases hsource : (t.name == source) = true
    · rw [if_pos hsource] at hr ⊢
      rcases mem_setRelation hr with hr | rfl
      · exact h.joins t ht r hr
      · obtain ⟨d, hd, hname, hkeys, -⟩ := h.decl_of_mem ht
        refine ⟨?_, hremote⟩
        show _ ⊆ t.keys
        rw [hkeys]
        exact hlocal d hd (hname ▸ beq_iff_eq.mp hsource)
    · rw [if_neg hsource] at hr ⊢
      exact h.joins t ht r hr

/-- Adding the relations a class declares keeps what loading has
established. -/
theorem addRelations (h : Laid decls ts) {cls : MappedClass} {ts' : List Table}
    (hadd : Catalog.addRelations ts decls cls = .ok ts') : Laid decls ts' := by
  refine Outcome.foldlM_preserves (Laid decls) (fun rd _ ts ts' hts hstep => ?_) h hadd
  dsimp only at hstep
  by_cases hvia : rd.viaAssociation = true
  · rw [if_pos hvia] at hstep
    exact (Outcome.pure_eq_ok.mp hstep) ▸ hts
  rw [if_neg hvia] at hstep
  cases htarget : decls.find? (·.name == rd.target) with
  | none => simp only [htarget] at hstep; cases hstep
  | some targetDecl =>
      simp only [htarget] at hstep
      obtain ⟨keys, hkeys, hts'⟩ := Outcome.bind_eq_ok.mp hstep
      rw [← Outcome.pure_eq_ok.mp hts']
      set sourceDecl := (decls.find? (·.name == cls.table.name)).getD cls.table
      have hjoin : ∀ p ∈ keys, p.1 ∈ sourceDecl.columns.map (·.key) ∧
          p.2 ∈ targetDecl.columns.map (·.key) := by
        intro p hp
        obtain ⟨x, hx, hxp⟩ := Outcome.exists_of_mem_mapM hkeys hp
        obtain ⟨⟨l, r⟩, -, rfl⟩ := List.mem_map.mp hx
        cases hl : keyOf? sourceDecl l <;> cases hr : keyOf? targetDecl r <;> simp [hl, hr] at hxp
        subst hxp
        exact ⟨keyOf?_mem hl, keyOf?_mem hr⟩
      apply hts.setRelation
      · intro d hd hname k hk
        have hsource : sourceDecl = d := by
          show (decls.find? (·.name == cls.table.name)).getD cls.table = d
          rw [← hname, hts.find?_name hd, Option.getD_some]
        obtain ⟨p, hp, rfl⟩ := List.mem_map.mp hk
        exact hsource ▸ (hjoin p hp).1
      · refine ⟨targetDecl, List.mem_of_find?_eq_some htarget, by simpa using List.find?_some htarget, ?_⟩
        intro k hk
        obtain ⟨p, hp, rfl⟩ := List.mem_map.mp hk
        exact (hjoin p hp).2

/-- The tables made so far carry the declarations' names, in order. -/
theorem names_eq (h : Laid decls ts) : ts.map (·.name) = decls.map (·.name) := by
  have hshape := h.shape
  clear h
  induction hshape with
  | nil => rfl
  | cons hdt _ ih => simp only [List.map_cons, hdt.1, ih]

end Laid

/-- The first declaration under each name has a name of its own. -/
theorem firstDecls_nodup (classes : List MappedClass) : ((firstDecls classes).map (·.name)).Nodup := by
  -- the fold appends a class's table only when no kept one has its name
  suffices ∀ acc : List TableDecl, (acc.map (·.name)).Nodup →
      ((classes.foldl (fun acc c => if acc.any (·.name == c.table.name) then acc else acc ++ [c.table])
        acc).map (·.name)).Nodup from this [] List.nodup_nil
  induction classes with
  | nil => exact fun acc h => h
  | cons c cs ih =>
    intro acc hacc
    apply ih
    dsimp only
    split
    · exact hacc
    · next hnew => exact nodup_names_append hacc hnew

/-- Tables described from distinct declarations are laid out as `Laid` says,
with no relations yet. -/
theorem laid_describe {decls : List TableDecl} {b : Option Backend} {ts : List Table}
    (hnames : (decls.map (·.name)).Nodup) (h : decls.mapM (·.describe b) = .ok ts) : Laid decls ts := by
  have hshape := Outcome.forall₂_of_mapM h
  have hempty : ∀ t ∈ ts, t.relations = [] := fun t ht => by
    obtain ⟨d, -, hd⟩ := exists_of_forall₂_right hshape ht
    exact (TableDecl.describe_ok hd).2.2.2
  refine ⟨hnames, hshape.imp fun d t hd => ?_, fun t ht => ?_, fun t ht r hr => ?_⟩
  · exact ⟨(TableDecl.describe_ok hd).1, (TableDecl.describe_ok hd).2.1, (TableDecl.describe_ok hd).2.2.1⟩
  · simp [hempty t ht]
  · simp [hempty t ht] at hr

/-- Loading classes lays out its tables against the first declaration under
each name. -/
theorem ofClasses_laid {classes : List MappedClass} {b : Option Backend} {c : Catalog}
    (h : ofClasses classes b = .ok c) : Laid (firstDecls classes) c.tables := by
  unfold ofClasses at h
  obtain ⟨ts₀, hts₀, h⟩ := Outcome.bind_eq_ok.mp h
  obtain ⟨ts, hts, h⟩ := Outcome.bind_eq_ok.mp h
  split at h
  · cases h
  · rw [← Outcome.pure_eq_ok.mp h]
    exact Outcome.foldlM_preserves (Laid (firstDecls classes)) (fun _ _ _ _ hlaid hstep => hlaid.addRelations hstep)
      (laid_describe (firstDecls_nodup classes) hts₀) hts

/-- A catalog whose lookups by name all succeed: tables keyed by name, each
with some column, and each relation joining columns of its table to columns
of the table found under its target. -/
structure WellFormed (c : Catalog) : Prop extends c.Keyed where
  columns : ∀ t ∈ c.tables, t.columns ≠ []
  joins : ∀ t ∈ c.tables, ∀ r ∈ t.relations, ∃ u, c.table? r.target = some u ∧
    r.localKeys ⊆ t.keys ∧ r.remoteKeys ⊆ u.keys

/-- Tables laid out against distinct declarations form a well-formed
catalog. -/
theorem Laid.wellFormed {decls : List TableDecl} {ts : List Table} (h : Laid decls ts) :
    WellFormed ⟨ts⟩ := by
  have hnames : (ts.map (·.name)).Nodup := h.names_eq ▸ h.names
  -- the table made from a declaration is the one found under its name
  have hfound : ∀ d ∈ decls, ∃ u ∈ ts, table? ⟨ts⟩ d.name = some u ∧ u.keys = d.columns.map (·.key) := by
    intro d hd
    obtain ⟨u, hu, hname, hkeys, -⟩ := exists_of_forall₂_left h.shape hd
    exact ⟨u, hu, hname ▸ find?_of_nodup_names hnames hu, hkeys⟩
  have hjoins : ∀ t ∈ ts, ∀ r ∈ t.relations, ∃ u, table? ⟨ts⟩ r.target = some u ∧
      r.localKeys ⊆ t.keys ∧ r.remoteKeys ⊆ u.keys := by
    intro t ht r hr
    obtain ⟨hlocal, d, hd, hname, hremote⟩ := h.joins t ht r hr
    obtain ⟨u, -, hu, hkeys⟩ := hfound d hd
    exact ⟨u, hname ▸ hu, hlocal, hkeys ▸ hremote⟩
  refine ⟨⟨hnames, h.relationNames, fun t ht r hr => ?_⟩, fun t ht => ?_, hjoins⟩
  · obtain ⟨u, hu, -⟩ := hjoins t ht r hr
    simp [hu]
  · obtain ⟨d, -, -, -, hcols⟩ := h.decl_of_mem ht
    exact hcols

/-- A loaded catalog is well formed. -/
theorem load_wellFormed {src : ModelSource} {b : Option Backend} {c : Catalog}
    (h : load src b = .ok c) : c.WellFormed := by
  unfold load at h
  split at h
  · exact (ofClasses_laid h).wellFormed
  · exact (ofClasses_laid h).wellFormed
  · split at h <;> cases h

end Catalog

namespace OrderClause

/-- Compiled order clauses order by columns of the table. -/
theorem compile_columns {t : Table} {orderBy : Value} {cs : List OrderClause}
    (h : compile t orderBy = .ok cs) : ∀ cl ∈ cs, cl.column ∈ t.columns := by
  cases htv : orderBy.truthy
  · rw [compile_falsy t htv, Outcome.pure_eq_ok] at h
    simp [← h]
  · by_cases hdict : ∃ es, orderBy = .dict es
    · obtain ⟨es, rfl⟩ := hdict
      have hne : es.isEmpty = false := by simpa [Value.truthy] using htv
      rw [compile_dict t hne, Outcome.foldlM_eq_flatten entryStep_append] at h
      obtain ⟨cls, hcls, h⟩ := Outcome.bind_eq_ok.mp h
      obtain ⟨clss, hclss, rfl⟩ := Outcome.map_eq_ok.mp hcls
      intro cl hcl
      rw [← Outcome.pure_eq_ok.mp h, List.mem_mergeSort] at hcl
      exact (mapM_entryStep_names hclss).2 cl (by simpa using hcl)
    · rw [compile_not_dict t (fun es he => hdict ⟨es, he⟩) htv] at h
      cases h

end OrderClause

/-- A key of a table names one of its columns. -/
theorem Table.column?_isSome {t : Table} {key : String} (h : key ∈ t.keys) : (t.column? key).isSome := by
  obtain ⟨col, hcol, rfl⟩ := List.mem_map.mp h
  exact List.find?_isSome.mpr ⟨col, hcol, by simp⟩

/-- The relation found under a name is one of the table's. -/
theorem Table.relationFor?_mem {t : Table} {key : String} {r : Relation} (h : t.relationFor? key = some r) :
    r ∈ t.relations := by
  unfold Table.relationFor? at h
  split at h
  · cases h
    exact List.mem_of_find?_eq_some ‹_›
  · exact List.mem_of_find?_eq_some h

namespace Store

/-- Appending new names gives names of either list. -/
theorem appendNew_subset {names more keys : List String} (hnames : names ⊆ keys) (hmore : more ⊆ keys) :
    appendNew names more ⊆ keys := by
  unfold appendNew
  induction more generalizing names with
  | nil => exact hnames
  | cons m ms ih =>
    rw [List.foldl_cons]
    refine ih ?_ (fun k hk => hmore (List.mem_cons_of_mem m hk))
    split
    · exact hnames
    · exact List.append_subset.mpr ⟨hnames, fun k hk => List.mem_singleton.mp hk ▸ hmore List.mem_cons_self⟩

/-- Appending the relations' local keys one relation at a time keeps names
among keys that hold them all. -/
theorem foldl_localKeys_subset {keys : List String} (es : List (String × Relation × LoadSpec))
    (names : List String) (hnames : names ⊆ keys) (hes : ∀ e ∈ es, e.2.1.localKeys ⊆ keys) :
    es.foldl (fun ns (_, r, _) => appendNew ns r.localKeys) names ⊆ keys := by
  induction es generalizing names with
  | nil => exact hnames
  | cons e es ih =>
    exact ih _ (appendNew_subset hnames (hes e List.mem_cons_self)) fun e' he' => hes e' (List.mem_cons_of_mem e he')

/-- The keys a read of a spec needs are among any keys that hold its columns,
its relations' local keys, the extra keys and the table's keys. -/
theorem specKeys_subset {s : LoadSpec} {extra keys : List String} (hcols : s.columns ⊆ keys)
    (hrels : ∀ e ∈ s.relations, e.2.1.localKeys ⊆ keys) (hextra : extra ⊆ keys)
    (htable : s.table.keys ⊆ keys) : specKeys s extra ⊆ keys := by
  have hnames := appendNew_subset (foldl_localKeys_subset s.relations s.columns hcols hrels) hextra
  unfold specKeys
  dsimp only
  split
  · intro k hk
    obtain ⟨col, hcol, rfl⟩ := Option.mem_toList.mp hk |> Option.map_eq_some_iff.mp
    exact htable (List.mem_map_of_mem (List.mem_of_mem_head? hcol))
  · exact hnames

/-- A read of a spec of a table with columns needs some key. -/
theorem specKeys_ne_nil {s : LoadSpec} (extra : List String) (h : s.table.columns ≠ []) :
    specKeys s extra ≠ [] := by
  unfold specKeys
  dsimp only
  split
  · obtain ⟨col, cols, hcols⟩ := List.exists_cons_of_ne_nil h
    simp [hcols]
  · next hne => exact fun hnil => hne (by simp [hnil])

end Store

namespace LoadSpec

/-- A spec built from arguments reads nothing yet, from the table given, in
an order of its columns. -/
theorem build_ok {reg : Registry} {t : Table} {filter orderBy offset limit : Value} {s : LoadSpec}
    (h : build reg t filter orderBy offset limit = .ok s) :
    s.table = t ∧ s.columns = [] ∧ s.relations = [] ∧ ∀ cl ∈ s.order, cl.column ∈ t.columns := by
  unfold build at h
  obtain ⟨_, -, h⟩ := Outcome.bind_eq_ok.mp h
  obtain ⟨order, horder, h⟩ := Outcome.bind_eq_ok.mp h
  obtain ⟨_, -, h⟩ := Outcome.bind_eq_ok.mp h
  obtain ⟨_, -, h⟩ := Outcome.bind_eq_ok.mp h
  rw [← Outcome.pure_eq_ok.mp h]
  exact ⟨rfl, rfl, rfl, OrderClause.compile_columns horder⟩

/-- A spec whose reads name only what its catalog has: its table is one of
the catalog's, it reads and orders by columns of that table, and it follows
relations of that table, each to a spec of the table found under the
relation's target that resolves in turn. -/
inductive Resolves (c : Catalog) : LoadSpec → Prop
  | intro {s : LoadSpec} : s.table ∈ c.tables → s.columns ⊆ s.table.keys →
      (∀ cl ∈ s.order, cl.column ∈ s.table.columns) →
      (∀ e ∈ s.relations, e.2.1 ∈ s.table.relations) →
      (∀ e ∈ s.relations, c.table? e.2.1.target = some e.2.2.table) →
      (∀ e ∈ s.relations, Resolves c e.2.2) → Resolves c s

@[simp] theorem addColumn_table (s : LoadSpec) (key : String) : (s.addColumn key).table = s.table := by
  unfold addColumn; split <;> rfl

@[simp] theorem setRelation_table (s : LoadSpec) (key : String) (rel : Relation) (child : LoadSpec) :
    (s.setRelation key rel child).table = s.table := rfl

/-- A relation entry after following a relation is the new one or an old
one. -/
theorem mem_setRelation {s child : LoadSpec} {key : String} {rel : Relation}
    {e : String × Relation × LoadSpec} (he : e ∈ (s.setRelation key rel child).relations) :
    e ∈ s.relations ∨ e = (key, rel, child) := by
  unfold setRelation at he
  dsimp only at he
  split at he
  · obtain ⟨x, hx, rfl⟩ := List.mem_map.mp he
    split
    · exact .inr rfl
    · exact .inl hx
  · simpa using he

namespace Resolves

variable {c : Catalog} {s : LoadSpec}

/-- Reading one more column of the table keeps a spec resolving. -/
theorem addColumn (h : s.Resolves c) {key : String} (hkey : key ∈ s.table.keys) :
    (s.addColumn key).Resolves c := by
  obtain ⟨htable, hcols, horder, hrels, htargets, hchildren⟩ := h
  unfold LoadSpec.addColumn
  split
  · exact ⟨htable, hcols, horder, hrels, htargets, hchildren⟩
  · refine ⟨htable, ?_, horder, hrels, htargets, hchildren⟩
    intro k hk
    rcases List.mem_append.mp hk with hk | hk
    · exact hcols hk
    · exact List.mem_singleton.mp hk ▸ hkey

/-- Following a relation of the table, to a resolving spec of the table
found under its target, keeps a spec resolving. -/
theorem setRelation (h : s.Resolves c) {key : String} {rel : Relation} {child : LoadSpec}
    (hrel : rel ∈ s.table.relations) (htarget : c.table? rel.target = some child.table)
    (hchild : child.Resolves c) : (s.setRelation key rel child).Resolves c := by
  obtain ⟨htable, hcols, horder, hrels, htargets, hchildren⟩ := h
  refine ⟨htable, hcols, horder, fun e he => ?_, fun e he => ?_, fun e he => ?_⟩
  · rcases mem_setRelation he with he | rfl
    · exact hrels e he
    · exact hrel
  · rcases mem_setRelation he with he | rfl
    · exact htargets e he
    · exact htarget
  · rcases mem_setRelation he with he | rfl
    · exact hchildren e he
    · exact hchild

/-- The reads of a resolving spec of a well-formed catalog name columns of
its table: the keys of its own read, given extra keys of the table; the
columns it converts for the API; the columns it orders by; and the remote
keys its relations match children on, for children that resolve in turn. -/
theorem reads (hc : c.WellFormed) (hs : s.Resolves c) :
    (∀ extra ⊆ s.table.keys, Store.specKeys s extra ⊆ s.table.keys ∧ Store.specKeys s extra ≠ []) ∧
    (∀ name ∈ s.columns, (s.table.column? name).isSome) ∧
    (∀ cl ∈ s.order, s.table.columnIndex cl.column.name < s.table.columns.length) ∧
    (∀ e ∈ s.relations, e.2.1.remoteKeys ⊆ e.2.2.table.keys ∧ e.2.2.Resolves c) := by
  obtain ⟨htable, hcols, horder, hrels, htargets, hchildren⟩ := hs
  -- each relation joins columns of the spec's table to columns of its child's
  have hjoin : ∀ e ∈ s.relations, e.2.1.localKeys ⊆ s.table.keys ∧ e.2.1.remoteKeys ⊆ e.2.2.table.keys := by
    intro e he
    obtain ⟨u, hu, hlocal, hremote⟩ := hc.joins s.table htable e.2.1 (hrels e he)
    rw [htargets e he, Option.some.injEq] at hu
    exact ⟨hlocal, hu ▸ hremote⟩
  refine ⟨fun extra hextra => ⟨?_, ?_⟩, fun name hname => Table.column?_isSome (hcols hname),
    fun cl hcl => (Table.getElem_columnIndex (horder cl hcl)).1, fun e he => ⟨(hjoin e he).2, hchildren e he⟩⟩
  · exact Store.specKeys_subset hcols (fun e he => (hjoin e he).1) hextra (List.Subset.refl _)
  · exact Store.specKeys_ne_nil extra (hc.columns s.table htable)

end Resolves

end LoadSpec

namespace SelectionContext

/-- The spec of a relation reads the table found under its target, and
resolves. -/
theorem relationSpec_ok {c : SelectionContext} {r : Relation} {args : List (String × GraphQL.Literal)}
    {s : LoadSpec} (h : c.relationSpec r args = .ok s) :
    c.catalog.table? r.target = some s.table ∧ s.Resolves c.catalog := by
  unfold relationSpec at h
  obtain ⟨u, hu, h⟩ := Outcome.bind_eq_ok.mp h
  have hfound : c.catalog.table? r.target = some u := by
    unfold Catalog.table at hu
    split at hu
    · cases hu; assumption
    · cases hu
  have hbuild : ∃ reg f o off l, LoadSpec.build reg u f o off l = .ok s := by
    split at h
    · exact ⟨_, _, _, _, _, h⟩
    · exact ⟨_, _, _, _, _, h⟩
  obtain ⟨_, _, _, _, _, hbuild⟩ := hbuild
  obtain ⟨htable, hcols, hrels, horder⟩ := LoadSpec.build_ok hbuild
  refine ⟨htable ▸ hfound, ⟨?_, ?_, htable ▸ horder, ?_, ?_, ?_⟩⟩
  · exact htable ▸ (Catalog.table?_eq_some hfound).1
  · simp [hcols]
  all_goals simp [hrels]

/-- The entry a relation selection of a resolving spec extends follows a
relation of its table, to a resolving spec of the table found under the
relation's target. -/
theorem relationEntry_ok {c : SelectionContext} {s : LoadSpec} (hs : s.Resolves c.catalog)
    {key : String} {r : Relation} (hr : r ∈ s.table.relations) {args : List (String × GraphQL.Literal)}
    {entry : Relation × LoadSpec} (h : c.relationEntry s key r args = .ok entry) :
    entry.1 ∈ s.table.relations ∧ c.catalog.table? entry.1.target = some entry.2.table ∧
      entry.2.Resolves c.catalog := by
  unfold relationEntry at h
  split at h
  · next rel child hfind =>
    obtain ⟨-, -, -, hrels, htargets, hchildren⟩ := hs
    have hmem := List.mem_of_find?_eq_some hfind
    rw [← Outcome.pure_eq_ok.mp h]
    exact ⟨hrels _ hmem, htargets _ hmem, hchildren _ hmem⟩
  · obtain ⟨child, hchild, h⟩ := Outcome.bind_eq_ok.mp h
    rw [← Outcome.pure_eq_ok.mp h]
    exact ⟨hr, relationSpec_ok hchild⟩

/-- One selection collected into a resolving spec gives a resolving spec of
the same table, when what it nests is collected so. -/
theorem collectOne_resolves (c : SelectionContext) {k : Nat → LoadSpec → List GraphQL.Selection → Outcome LoadSpec}
    (hk : ∀ (depth : Nat) (s : LoadSpec) (sels : List GraphQL.Selection) {s' : LoadSpec},
      k depth s sels = .ok s' → s.Resolves c.catalog → s'.Resolves c.catalog ∧ s'.table = s.table)
    (depth : Nat) (s : LoadSpec) (sel : GraphQL.Selection) {s' : LoadSpec}
    (h : c.collectOne k depth s sel = .ok s') (hs : s.Resolves c.catalog) :
    s'.Resolves c.catalog ∧ s'.table = s.table := by
  cases sel with
  | inline _ _ inner => exact hk depth s inner h hs
  | spread n _ =>
    simp only [collectOne] at h
    split at h
    · exact hk depth s _ h hs
    · cases h
  | field aliasName name args _ sub =>
    simp only [collectOne] at h
    split at h
    · -- meta fields and empty names read nothing
      rw [← Outcome.pure_eq_ok.mp h]
      exact ⟨hs, rfl⟩
    · split at h
      · next col hcol =>
        rw [← Outcome.pure_eq_ok.mp h]
        exact ⟨hs.addColumn (List.mem_map_of_mem (Table.columnFor?_mem hcol)), s.addColumn_table _⟩
      · split at h
        · rw [← Outcome.pure_eq_ok.mp h]
          exact ⟨hs, rfl⟩
        · next r hr =>
          obtain ⟨_, -, h⟩ := Outcome.bind_eq_ok.mp h
          obtain ⟨entry, hentry, h⟩ := Outcome.bind_eq_ok.mp h
          obtain ⟨child, hchild, h⟩ := Outcome.bind_eq_ok.mp h
          rw [← Outcome.pure_eq_ok.mp h]
          obtain ⟨hrel, htarget, hentryRes⟩ := relationEntry_ok hs (Table.relationFor?_mem hr) hentry
          obtain ⟨hchildRes, hchildTable⟩ := hk (depth + 1) entry.2 _ hchild hentryRes
          exact ⟨hs.setRelation hrel (hchildTable ▸ htarget) hchildRes, rfl⟩

/-- Collecting a selection into a resolving spec gives a resolving spec of
the same table. -/
theorem collect_resolves (c : SelectionContext) :
    ∀ (fuel depth : Nat) (s : LoadSpec) (sels : List GraphQL.Selection) {s' : LoadSpec},
      c.collect fuel depth s sels = .ok s' → s.Resolves c.catalog →
        s'.Resolves c.catalog ∧ s'.table = s.table := by
  -- on the fuel: what a selection nests is collected with one unit less
  intro fuel
  induction fuel with
  | zero =>
    intro depth s sels s' h hs
    rw [collect] at h
    cases h
    exact ⟨hs, rfl⟩
  | succ fuel ih =>
    intro depth s sels s' h hs
    -- one selection after the other, each keeping the spec resolving on its table
    refine Outcome.foldlM_preserves (fun s₁ => s₁.Resolves c.catalog ∧ s₁.table = s.table) ?_ ⟨hs, rfl⟩ h
    intro sel _ s₁ s₂ ⟨hs₁, ht₁⟩ hstep
    obtain ⟨hres, htable⟩ := collectOne_resolves c ih depth s₁ sel hstep hs₁
    exact ⟨hres, htable.trans ht₁⟩

end SelectionContext

/-- The spec of a root read of a table of the catalog resolves, on that
table. -/
theorem CompiledSchema.rootSpec_resolves {s : CompiledSchema} {t : Table} (ht : t ∈ s.catalog.tables)
    {call : GraphQL.RootCall} {paged : Bool} {spec : LoadSpec} (h : s.rootSpec t call paged = .ok spec) :
    spec.Resolves s.catalog ∧ spec.table = t := by
  unfold CompiledSchema.rootSpec at h
  obtain ⟨s₀, hbuild, h⟩ := Outcome.bind_eq_ok.mp h
  obtain ⟨htable, hcols, hrels, horder⟩ := LoadSpec.build_ok hbuild
  have hs₀ : s₀.Resolves s.catalog :=
    ⟨htable ▸ ht, by simp [hcols], htable ▸ horder, by simp [hrels], by simp [hrels], by simp [hrels]⟩
  obtain ⟨hres, hspec⟩ := SelectionContext.collect_resolves _ _ _ _ _ h hs₀
  exact ⟨hres, hspec.trans htable⟩

/-- The keys of an object after setting a key: the same keys, or one more
at the end. -/
theorem Value.keys_setKey (es : List (String × Value)) (k : String) (v : Value) :
    (Value.setKey es k v).map (·.1) = if es.any (·.1 == k) then es.map (·.1) else es.map (·.1) ++ [k] := by
  unfold Value.setKey
  split
  · simp only [List.map_map]
    congr 1
    funext e
    simp only [Function.comp_apply]
    split <;> rfl
  · simp

/-- An input row towards storage is keyed by columns of the table. -/
theorem Registry.inputRow_keys {reg : Registry} {t : Table} {row out : Row}
    (h : reg.inputRow t row = .ok out) : out.map (·.1) ⊆ t.keys := by
  refine Outcome.foldlM_preserves (fun out : Row => out.map (·.1) ⊆ t.keys)
    (fun kv _ out out' hout hstep => ?_) (by simp) h
  obtain ⟨key, v⟩ := kv
  dsimp only at hstep
  split at hstep
  · cases hstep
  · next c hc =>
    -- setting the column's key keeps the keys among the table's
    have hset : ∀ w, (Value.setKey out c.name w).map (·.1) ⊆ t.keys := by
      intro w
      have hname : c.name ∈ t.keys := List.mem_map_of_mem (Table.columnFor?_mem hc)
      rw [Value.keys_setKey]
      split
      · exact hout
      · exact List.append_subset.mpr ⟨hout, fun x hx => List.mem_singleton.mp hx ▸ hname⟩
    split at hstep
    · split at hstep
      · rw [← Outcome.pure_eq_ok.mp hstep]
        exact hset _
      · rw [← Outcome.pure_eq_ok.mp hstep]
        exact hout
    · obtain ⟨w, -, hstep⟩ := Outcome.bind_eq_ok.mp hstep
      rw [← Outcome.pure_eq_ok.mp hstep]
      exact hset w


/-- Every lookup by name that serving a loaded catalog makes succeeds. The
catalog is well formed; the graph has, at every level below its limit and
without one, an edge per relation to the node of its target; the selection
builder finds every relation's target; every spec a request collects for a
table of the catalog resolves, so the keys it reads, the columns it converts,
the columns it orders by and the join keys of its children are columns of
their tables; and the keys of an input row towards storage are columns of
its table. -/
theorem loaded_lookups_resolve {src : ModelSource} {b : Option Backend} {C : Catalog}
    (h : Catalog.load src b = .ok C) :
    C.WellFormed ∧
    (∀ N, RelationGraph.LevelledBy ⟨C, some N⟩ N) ∧ RelationGraph.Unlevelled ⟨C, none⟩ ∧
    (∀ t ∈ C.tables, ∀ r ∈ t.relations, ∃ u, C.table r.target = .ok u) ∧
    (∀ (s : CompiledSchema) (t : Table) (call : GraphQL.RootCall) (paged : Bool) (spec : LoadSpec),
      s.catalog = C → t ∈ C.tables → s.rootSpec t call paged = .ok spec → spec.Resolves C) ∧
    (∀ spec : LoadSpec, spec.Resolves C →
      (∀ extra ⊆ spec.table.keys, Store.specKeys spec extra ⊆ spec.table.keys ∧ Store.specKeys spec extra ≠ []) ∧
      (∀ name ∈ spec.columns, (spec.table.column? name).isSome) ∧
      (∀ cl ∈ spec.order, spec.table.columnIndex cl.column.name < spec.table.columns.length) ∧
      (∀ e ∈ spec.relations, e.2.1.remoteKeys ⊆ e.2.2.table.keys ∧ e.2.2.Resolves C)) ∧
    (∀ (reg : Registry) (t : Table) (row out : Row), reg.inputRow t row = .ok out → out.map (·.1) ⊆ t.keys) := by
  have hc := Catalog.load_wellFormed h
  refine ⟨hc, fun N => RelationGraph.levelledBy hc.toKeyed N, RelationGraph.unlevelled hc.toKeyed,
    fun t ht r hr => ?_, fun s t call paged spec hs ht hspec => ?_, fun spec hspec => hspec.reads hc,
    fun _ _ _ _ => Registry.inputRow_keys⟩
  · obtain ⟨u, hu, -⟩ := hc.joins t ht r hr
    exact ⟨u, by simp [Catalog.table, hu]⟩
  · subst hs
    exact (CompiledSchema.rootSpec_resolves ht hspec).1

/-- A column of tags, kept as an array. -/
def tagsColumn : ColumnDecl := { key := "tags", name := "tags", type := .array "ARRAY" (.basic "String" none) }

/-- Tags kept as one array column. -/
def tagLists : MappedClass := { name := "TagList", table := { name := "tag_lists", columns := [tagsColumn] } }

/-- A class of one array column loads on no backend, whatever its type is
classified as. -/
theorem tagLists_load : ∃ C, Catalog.load (.classes [tagLists]) none = .ok C := by
  obtain ⟨col, hcol⟩ := ColumnDecl.describe_array tagLists.table none (c := tagsColumn) rfl
  have hcols : tagLists.table.columns = [tagsColumn] := rfl
  have hdesc : tagLists.table.describe none = .ok { name := "tag_lists", columns := [col] } := by
    unfold TableDecl.describe
    rw [hcols]
    simp only [List.isEmpty_cons, Bool.false_eq_true, if_false, List.mapM_cons, List.mapM_nil, hcol]
    rfl
  refine ⟨⟨[{ name := "tag_lists", columns := [col] }]⟩, ?_⟩
  show (do
    let tables ← [tagLists.table].mapM (TableDecl.describe · none)
    let tables ← [tagLists].foldlM (fun ts c => Catalog.addRelations ts [tagLists.table] c) tables
    if tables.isEmpty then .error (.schemaBuild "No tables found in the provided models")
    else pure ({ tables } : Catalog)) = _
  simp only [List.mapM_cons, List.mapM_nil, hdesc]
  rfl

theorem tagLists_lookups_resolve : ∃ C, Catalog.load (.classes [tagLists]) none = .ok C ∧ C.WellFormed := by
  obtain ⟨C, hC⟩ := tagLists_load
  exact ⟨C, hC, (loaded_lookups_resolve hC).1⟩

end TableGraph
