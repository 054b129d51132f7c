import Mathlib
import TableGraph.Proofs.GraphLevels
import TableGraph.Proofs.Outcome
import TableGraph.Api.Generate

/-!
# Generated type names

The API names each type it generates for a table by the table's type name
(its key in `PascalCase`) followed by a suffix saying what the type is for;
the other types have fixed names, and enumerations names ending in `Enum`.
Distinct table keys do not keep these names apart: `postComments` and
`PostComments` share the type name `PostComments`, and a table named like
another followed by a capitalised word shares type names with that table's
column filters. `Catalog.NamesApart` states what keeps them apart: type names
that are distinct and do not continue one another with a capital, and column
parts that are distinct within a table and start with a capital.

Each table type has a `TypeOrigin`, and its name gives the origin back
(`TypeOrigin.name_inj`): the type-name stem is read first, then the suffix,
whose ending or trailing level digits tell the kinds apart.
`generate_typeNames` lists the names of an API's types and
`generate_typeNames_nodup` shows them distinct.
-/

namespace TableGraph

namespace Text

/-- Whether a text starts with an ASCII capital letter. -/
def startsUpper (s : String) : Bool :=
  match s.toList with
  | x :: _ => x.isUpper
  | [] => false

/-- A stem followed by a capitalised part is read back as that stem and
part, among stems none of which continues another with a capital. -/
theorem append_cancel_of_startsUpper {a b s s' : String} (hs : startsUpper s = true)
    (hs' : startsUpper s' = true) (hab : ∀ rest, b = a ++ rest → startsUpper rest = false)
    (hba : ∀ rest, a = b ++ rest → startsUpper rest = false) (h : a ++ s = b ++ s') :
    a = b ∧ s = s' := by
  have hl := congrArg String.toList h
  simp only [String.toList_append] at hl
  rcases List.append_eq_append_iff.mp hl with ⟨as, hb, hrest⟩ | ⟨bs, ha, hrest⟩
  · cases as with
    | nil =>
      simp only [List.append_nil, List.nil_append] at hb hrest
      exact ⟨String.toList_inj.mp hb.symm, String.toList_inj.mp hrest⟩
    | cons x as =>
      -- `b` would continue `a` with the first letter of `s`, a capital
      have hb' : b = a ++ String.ofList (x :: as) :=
        String.toList_inj.mp (by simp [hb])
      have hup := hab _ hb'
      simp only [startsUpper, hrest, List.cons_append] at hs
      simp [startsUpper, hs] at hup
  · cases bs with
    | nil =>
      simp only [List.append_nil, List.nil_append] at ha hrest
      exact ⟨String.toList_inj.mp ha, String.toList_inj.mp hrest.symm⟩
    | cons x bs =>
      have ha' : a = b ++ String.ofList (x :: bs) :=
        String.toList_inj.mp (by simp [ha])
      have hup := hba _ ha'
      simp only [startsUpper, hrest, List.cons_append] at hs'
      simp [startsUpper, hs'] at hup

/-- A text that starts with a capital keeps starting with it. -/
theorem startsUpper_append {a b : String} (ha : startsUpper a = true) : startsUpper (a ++ b) = true := by
  unfold startsUpper at ha ⊢
  rw [String.toList_append]
  split at ha
  · next x rest hx => simpa [hx] using ha
  · contradiction

/-- The decimal digits of a number, read from the end, start with a digit. -/
theorem toDigits_reverse_digit (k : Nat) :
    ∃ d ds, (Nat.toDigits 10 k).reverse = d :: ds ∧ d.isDigit = true := by
  cases h : (Nat.toDigits 10 k).reverse with
  | nil => exact absurd (List.reverse_eq_nil_iff.mp h) Nat.toDigits_ne_nil
  | cons d ds =>
    have hd : d ∈ Nat.toDigits 10 k := List.mem_reverse.mp (h ▸ List.mem_cons_self)
    exact ⟨d, ds, rfl, Nat.isDigit_of_mem_toDigits (by norm_num) (by norm_num) hd⟩

/-- Numbers with the same decimal digits are equal. -/
theorem toDigits_inj {i j : Nat} (h : Nat.toDigits 10 i = Nat.toDigits 10 j) : i = j := by
  rw [← Nat.ofDigitChars_ten_toDigits (n := i), h, Nat.ofDigitChars_ten_toDigits]

end Text


namespace Catalog

/-- A catalog whose generated names cannot meet. Every generated type name
is a table's type name followed by a part that starts with a capital, so
type names must be distinct and none may continue another with a capital;
the column part of a column's filter types must be distinct within the
table and start with a capital. Within each table, column keys are
distinct, no column's key is another column's field name, column and
relation field names are distinct and no column is named like the filter
connectives; the list query fields of tables are distinct, and none is
another's followed by `Single`. -/
structure NamesApart (c : Catalog) : Prop where
  typeNames : (c.tables.map (·.typeName)).Nodup
  noExtension : ∀ t ∈ c.tables, ∀ u ∈ c.tables, ∀ rest,
    u.typeName = t.typeName ++ rest → Text.startsUpper rest = false
  columnKeys : ∀ t ∈ c.tables, (t.columns.map (·.name)).Nodup
  columnParts : ∀ t ∈ c.tables, (t.columns.map fun col => Text.pascalCase col.name).Nodup
  columnPartsUpper : ∀ t ∈ c.tables, ∀ col ∈ t.columns, Text.startsUpper (Text.pascalCase col.name) = true
  keysNotFields : ∀ t ∈ c.tables, ∀ a ∈ t.columns, ∀ b ∈ t.columns, b.name = a.fieldName → b.name = a.name
  fieldNames : ∀ t ∈ c.tables, (t.columns.map (·.fieldName) ++ t.relations.map (·.fieldName)).Nodup
  connectives : ∀ t ∈ c.tables, ∀ col ∈ t.columns, col.fieldName ∉ ["AND", "OR", "NOT"]
  queryNames : (c.tables.map (·.fieldName)).Nodup
  singleNames : ∀ t ∈ c.tables, ∀ u ∈ c.tables, t.fieldName ≠ u.fieldName ++ "Single"

end Catalog

/-- What a type generated for a table is for: the filters of one of its
columns (the alternatives, or the column's own), its filters, its sort
order, its insert and update inputs, its node of the relation graph at a
level, or the rows a mutation returns. A table is named by its key, a
column by the part of the name its filter types take from it. -/
inductive TypeOrigin where
  | columnFilters (table part : String) (alternatives : Bool)
  | filters (table : String)
  | orderBy (table : String)
  | insertInput (table : String)
  | updateInput (table : String)
  | node (table : String) (level : Nat)
  | item (table : String)
  deriving DecidableEq

namespace TypeOrigin

/-- The table a type is generated for. -/
def table : TypeOrigin → String
  | columnFilters t _ _ | filters t | orderBy t | insertInput t | updateInput t | node t _ | item t => t

/-- The part of a type's name after its table's type name. -/
def suffix : TypeOrigin → String
  | columnFilters _ part alt => part ++ "Filters" ++ (if alt then "Or" else "")
  | filters _ => "Filters"
  | orderBy _ => "OrderBy"
  | insertInput _ => "InsertInput"
  | updateInput _ => "UpdateInput"
  | node _ 0 => "SelectItem"
  | node _ (k + 1) => "SelectItemDepth" ++ toString (k + 1)
  | item _ => "Item"

/-- The name of a generated type. -/
def name (o : TypeOrigin) : String := Text.pascalCase o.table ++ o.suffix

/-- The column part of a column's filter types starts with a capital. -/
def WellFormed : TypeOrigin → Prop
  | columnFilters _ part _ => Text.startsUpper part = true
  | _ => True

/-- Every suffix starts with a capital. -/
theorem startsUpper_suffix {o : TypeOrigin} (ho : o.WellFormed) : Text.startsUpper o.suffix = true := by
  rcases o with ⟨t, part, alt⟩ | t | t | t | t | ⟨t, _ | k⟩ | t <;> simp only [suffix]
  · exact Text.startsUpper_append (Text.startsUpper_append ho)
  all_goals first | decide | (apply Text.startsUpper_append; decide)

/-- The suffixes of one table's types are distinct: they end differently,
and where they end alike, a column part or a level tells them apart. -/
theorem suffix_inj {o o' : TypeOrigin} (ho : o.WellFormed) (ho' : o'.WellFormed)
    (ht : o.table = o'.table) (h : o.suffix = o'.suffix) : o = o' := by
  have hrev := congrArg (fun s : String => s.toList.reverse) h
  have hfwd := congrArg String.toList h
  rcases o with ⟨t, part, _ | _⟩ | t | t | t | t | ⟨t, _ | k⟩ | t <;>
  rcases o' with ⟨t', part', _ | _⟩ | t' | t' | t' | t' | ⟨t', _ | k'⟩ | t' <;>
  simp only [table] at ht <;> subst ht <;>
  simp [suffix, WellFormed, String.toList_append] at hrev hfwd ho ho' ⊢
  -- what is left: two column parts, an empty column part, a level's
  -- digits against a letter, and two levels' digits
  all_goals first
    | exact String.toList_inj.mp hfwd
    | (simp_all [Text.startsUpper]; done)
    | exact Nat.succ.inj (Text.toDigits_inj hfwd)
    | (obtain ⟨d, ds, hd, hdig⟩ := Text.toDigits_reverse_digit (k + 1)
       rw [hd, List.cons_append, List.cons.injEq] at hrev
       obtain ⟨rfl, -⟩ := hrev
       exact absurd hdig (by decide))
    | (obtain ⟨d, ds, hd, hdig⟩ := Text.toDigits_reverse_digit (k' + 1)
       rw [hd, List.cons_append, List.cons.injEq] at hrev
       obtain ⟨rfl, -⟩ := hrev
       exact absurd hdig (by decide))

/-- An origin a catalog can give a type: its table is one of the
catalog's, and its column part is well formed. -/
structure Valid (c : Catalog) (o : TypeOrigin) : Prop where
  table_mem : o.table ∈ c.tables.map (·.name)
  wellFormed : o.WellFormed

/-- Generated type names tell their origins apart: the type-name stem is
read back first, since no stem continues another with a capital, and the
suffix after it next. -/
theorem name_inj {c : Catalog} (hn : c.NamesApart) {o o' : TypeOrigin} (ho : o.Valid c)
    (ho' : o'.Valid c) (h : o.name = o'.name) : o = o' := by
  obtain ⟨t, ht, htn⟩ := List.mem_map.mp ho.table_mem
  obtain ⟨t', ht', htn'⟩ := List.mem_map.mp ho'.table_mem
  have hsplit : t.typeName = t'.typeName ∧ o.suffix = o'.suffix := by
    refine Text.append_cancel_of_startsUpper (startsUpper_suffix ho.wellFormed)
      (startsUpper_suffix ho'.wellFormed) (hn.noExtension t ht t' ht') (hn.noExtension t' ht' t ht) ?_
    simpa [name, Table.typeName, htn, htn'] using h
  have htt : t = t' := List.inj_on_of_nodup_map hn.typeNames ht ht' hsplit.1
  exact suffix_inj ho.wellFormed ho'.wellFormed (by rw [← htn, ← htn', htt]) hsplit.2

/-- The endings of generated type names, apart from the names of nodes
above level zero, which end in a digit. -/
def endings : List String := ["Filters", "FiltersOr", "OrderBy", "InsertInput", "UpdateInput", "Item"]

theorem ends_of {p e s : String} (h : s = p ++ e) : e.toList <:+ s.toList :=
  ⟨p.toList, by rw [h, String.toList_append]⟩

/-- Every generated type name has one of the endings, or ends in a digit. -/
theorem name_ending (o : TypeOrigin) :
    (∃ e ∈ endings, e.toList <:+ o.name.toList) ∨ ∃ d ∈ o.name.toList.reverse.head?, d.isDigit = true := by
  rcases o with ⟨t, part, _ | _⟩ | t | t | t | t | ⟨t, _ | k⟩ | t
  case node.succ =>
    obtain ⟨d, ds, hd, hdig⟩ := Text.toDigits_reverse_digit (k + 1)
    exact .inr ⟨d, by simp [name, suffix, String.toList_append, hd], hdig⟩
  case columnFilters.false =>
    exact .inl ⟨"Filters", by simp [endings], ends_of (p := Text.pascalCase t ++ part) (by simp [name, suffix, table, String.append_assoc])⟩
  case columnFilters.true =>
    exact .inl ⟨"FiltersOr", by simp [endings], ends_of (p := Text.pascalCase t ++ part) (by simp [name, suffix, table, String.append_assoc])⟩
  case filters => exact .inl ⟨"Filters", by simp [endings], ends_of rfl⟩
  case orderBy => exact .inl ⟨"OrderBy", by simp [endings], ends_of rfl⟩
  case insertInput => exact .inl ⟨"InsertInput", by simp [endings], ends_of rfl⟩
  case updateInput => exact .inl ⟨"UpdateInput", by simp [endings], ends_of rfl⟩
  case node.zero => exact .inl ⟨"Item", by simp [endings], ends_of (p := Text.pascalCase t ++ "Select") (by simp [name, suffix, table, String.append_assoc])⟩
  case item => exact .inl ⟨"Item", by simp [endings], ends_of rfl⟩

/-- A name with none of the endings and no final digit is no generated
type's name. -/
theorem name_ne {f : String} (hf : ∀ e ∈ endings, ¬ e.toList <:+ f.toList)
    (hd : ∀ d ∈ f.toList.reverse.head?, d.isDigit = false) (o : TypeOrigin) : o.name ≠ f := by
  rintro rfl
  rcases name_ending o with ⟨e, he, hsuf⟩ | ⟨d, hmem, hdig⟩
  · exact hf e he hsuf
  · simp [hd d hmem] at hdig

/-- A name ending in `Enum`, as enumeration types are named, is no
generated table type's name. -/
theorem name_ne_of_enum {f : String} (hf : "Enum".toList <:+ f.toList) (o : TypeOrigin) : o.name ≠ f := by
  have hendings : ∀ e ∈ endings, ¬ e.toList <:+ "Enum".toList ∧ ¬ "Enum".toList <:+ e.toList := by decide
  refine name_ne (fun e he hef => ?_) (fun d hd => ?_) o
  · rcases List.suffix_or_suffix_of_suffix hef hf with h | h
    · exact (hendings e he).1 h
    · exact (hendings e he).2 h
  · obtain ⟨p, hp⟩ := hf
    rw [← hp] at hd
    simp at hd
    subst hd
    decide

end TypeOrigin

/-! ## The origins of an API's table types -/

namespace Catalog

/-- The origins of a table's input types, in the order they are generated:
the alternatives and the own filters of each column, then the table's
filters, sort order, insert and update inputs. -/
def inputOrigins (t : Table) : List TypeOrigin :=
  (t.columns.flatMap fun col =>
    [.columnFilters t.name (Text.pascalCase col.name) true,
     .columnFilters t.name (Text.pascalCase col.name) false]) ++
  [.filters t.name, .orderBy t.name, .insertInput t.name, .updateInput t.name]

theorem table_of_mem_inputOrigins {t : Table} {o : TypeOrigin} (ho : o ∈ inputOrigins t) :
    o.table = t.name := by
  simp only [inputOrigins, List.mem_append, List.mem_flatMap, List.mem_cons, List.not_mem_nil] at ho
  rcases ho with ⟨col, -, rfl | rfl | h⟩ | rfl | rfl | rfl | rfl | h <;> first | rfl | exact h.elim

/-- A table's input types have distinct origins when its columns' parts
are distinct. -/
theorem inputOrigins_nodup {t : Table} (hparts : (t.columns.map fun col => Text.pascalCase col.name).Nodup) :
    (inputOrigins t).Nodup := by
  have hcols : (t.columns.flatMap fun col =>
      [TypeOrigin.columnFilters t.name (Text.pascalCase col.name) true,
       .columnFilters t.name (Text.pascalCase col.name) false]).Nodup := by
    refine List.nodup_flatMap.mpr ⟨fun col _ => by simp, ?_⟩
    refine (List.pairwise_map.mp hparts).imp fun hne => ?_
    simp [Function.onFun, Ne.symm hne]
  refine List.nodup_append.mpr ⟨hcols, by simp, ?_⟩
  intro a ha b hb
  simp only [List.mem_flatMap, List.mem_cons, List.not_mem_nil, or_false] at ha hb
  obtain ⟨col, -, rfl | rfl⟩ := ha <;> rcases hb with rfl | rfl | rfl | rfl <;> simp

/-- Lists of origins made table by table, each carrying its table's name,
have distinct members when each does and the tables' names are distinct. -/
theorem nodup_flatMap_tables {ts : List Table} (hts : (ts.map (·.name)).Nodup) {f : Table → List TypeOrigin}
    (htable : ∀ t ∈ ts, ∀ o ∈ f t, o.table = t.name) (hf : ∀ t ∈ ts, (f t).Nodup) :
    (ts.flatMap f).Nodup := by
  refine List.nodup_flatMap.mpr ⟨hf, (List.pairwise_map.mp hts).imp_of_mem ?_⟩
  intro t u ht hu hne o hot hou
  exact hne ((htable t ht o hot).symm.trans (htable u hu o hou))

end Catalog

/-- The origin of a node's output type. -/
def GraphNode.origin (n : GraphNode) : TypeOrigin := .node n.table.name (n.level.getD 0)

namespace RelationGraph

/-- The origins of the types an API generates for its tables: the input
types table by table, the nodes' output types, and the types of the rows
mutations return, unless the backend cannot return rows. -/
def origins (g : RelationGraph) (returnless : Bool) : List TypeOrigin :=
  g.catalog.tables.flatMap Catalog.inputOrigins ++ g.nodes.map GraphNode.origin ++
    (if returnless then [] else g.catalog.tables.map fun t => .item t.name)

/-- The levels of a graph, with level zero for an absent level, are
distinct. -/
theorem levels_getD_nodup (g : RelationGraph) : (g.levels.map (·.getD 0)).Nodup := by
  unfold levels
  cases g.depthLimit with
  | none => simp
  | some N => simpa [List.map_map, Function.comp_def] using List.nodup_range

theorem nodes_origins_nodup (g : RelationGraph) (hts : (g.catalog.tables.map (·.name)).Nodup) :
    (g.nodes.map GraphNode.origin).Nodup := by
  rw [nodes, List.map_flatMap]
  refine Catalog.nodup_flatMap_tables hts (fun t _ o ho => ?_) (fun t _ => ?_)
  · obtain ⟨n, hn, rfl⟩ := List.mem_map.mp ho
    obtain ⟨l, -, rfl⟩ := List.mem_map.mp hn
    rfl
  · have hinj : Function.Injective (TypeOrigin.node t.name) := fun _ _ h => (TypeOrigin.node.inj h).2
    simpa [List.map_map, Function.comp_def, GraphNode.origin] using (levels_getD_nodup g).map hinj

variable {g : RelationGraph}

/-- The origins of an API's table types are distinct. -/
theorem origins_nodup (hk : g.catalog.Keyed) (hn : g.catalog.NamesApart) (returnless : Bool) :
    (g.origins returnless).Nodup := by
  have hinputs : (g.catalog.tables.flatMap Catalog.inputOrigins).Nodup :=
    Catalog.nodup_flatMap_tables hk.tables (fun _ _ _ => Catalog.table_of_mem_inputOrigins)
      (fun t ht => Catalog.inputOrigins_nodup (hn.columnParts t ht))
  have hitems : (g.catalog.tables.map fun t => TypeOrigin.item t.name).Nodup := by
    have hinj : Function.Injective TypeOrigin.item := fun _ _ h => TypeOrigin.item.inj h
    simpa [List.map_map, Function.comp_def] using hk.tables.map hinj
  refine List.nodup_append.mpr ⟨List.nodup_append.mpr ⟨hinputs, nodes_origins_nodup g hk.tables, ?_⟩, ?_, ?_⟩
  · intro a ha b hb
    simp only [List.mem_flatMap, Catalog.inputOrigins, List.mem_append, List.mem_cons, List.not_mem_nil,
      or_false] at ha
    obtain ⟨n, -, rfl⟩ := List.mem_map.mp hb
    rcases ha with ⟨t, -, ⟨col, -, rfl | rfl⟩ | rfl | rfl | rfl | rfl⟩ <;> simp [GraphNode.origin]
  · cases returnless
    · exact hitems
    · simp
  · intro a ha b hb
    cases returnless
    · obtain ⟨t, -, rfl⟩ := List.mem_map.mp (by simpa using hb)
      simp only [List.mem_append, List.mem_flatMap, Catalog.inputOrigins, List.mem_cons, List.not_mem_nil,
        or_false, List.mem_map] at ha
      rcases ha with ⟨t, -, ⟨col, -, rfl | rfl⟩ | rfl | rfl | rfl | rfl⟩ | ⟨n, -, rfl⟩ <;>
        simp [GraphNode.origin]
    · simp at hb

/-- Every origin of an API's table types is one the catalog can give. -/
theorem valid_of_mem_origins (hn : g.catalog.NamesApart) {returnless : Bool} {o : TypeOrigin}
    (ho : o ∈ g.origins returnless) : o.Valid g.catalog := by
  simp only [origins, List.mem_append, List.mem_flatMap, List.mem_map] at ho
  rcases ho with (⟨t, ht, ho⟩ | ⟨n, hn', rfl⟩) | ho
  · refine ⟨?_, ?_⟩
    · rw [Catalog.table_of_mem_inputOrigins ho]
      exact List.mem_map_of_mem ht
    · simp only [Catalog.inputOrigins, List.mem_append, List.mem_flatMap, List.mem_cons, List.not_mem_nil,
        or_false] at ho
      rcases ho with ⟨col, hcol, rfl | rfl⟩ | rfl | rfl | rfl | rfl
      all_goals first | exact hn.columnPartsUpper t ht col hcol | trivial
  · exact ⟨List.mem_map_of_mem (mem_nodes.mp hn').1, trivial⟩
  · cases returnless
    · obtain ⟨t, ht, rfl⟩ := List.mem_map.mp (by simpa using ho)
      exact ⟨List.mem_map_of_mem ht, trivial⟩
    · simp at ho

/-- The names of an API's table types are distinct. -/
theorem origin_names_nodup (hk : g.catalog.Keyed) (hn : g.catalog.NamesApart) (returnless : Bool) :
    ((g.origins returnless).map TypeOrigin.name).Nodup :=
  (origins_nodup hk hn returnless).map_on fun _ ho _ ho' h =>
    TypeOrigin.name_inj hn (valid_of_mem_origins hn ho) (valid_of_mem_origins hn ho') h

end RelationGraph

/-! ## The names of the generated types -/

namespace Outcome

variable {α β γ : Type}

/-- What a `mapM` walk that succeeds gives, seen through `φ`, is its list
seen through `ψ`, when each step's value is. -/
theorem map_of_mapM {f : α → Outcome β} {φ : β → γ} {ψ : α → γ} (hf : ∀ x y, f x = .ok y → φ y = ψ x)
    {xs : List α} {ys : List β} (h : xs.mapM f = .ok ys) : ys.map φ = xs.map ψ := by
  have hall := forall₂_of_mapM h
  clear h
  induction hall with
  | nil => rfl
  | cons hxy _ ih => simp [hf _ _ hxy, ih]

/-- The same, for steps that give lists, joined. -/
theorem map_flatten_of_mapM {f : α → Outcome (List β)} {φ : β → γ} {ψ : α → List γ}
    (hf : ∀ x ys, f x = .ok ys → ys.map φ = ψ x) {xs : List α} {yss : List (List β)}
    (h : xs.mapM f = .ok yss) : yss.flatten.map φ = xs.flatMap ψ := by
  have hall := forall₂_of_mapM h
  clear h
  induction hall with
  | nil => rfl
  | cons hxy _ ih => simp [← ih, hf _ _ hxy]

end Outcome

namespace Registry

/-- The value registered under a key is one of the registered values. -/
theorem find?_mem {α : Type} {entries : List (String × α)} {key : String} {v : α}
    (h : find? entries key = some v) : ∃ p ∈ entries, p.2 = v := by
  simp only [find?, Option.map_eq_some_iff] at h
  obtain ⟨p, hp, rfl⟩ := h
  exact ⟨p, List.mem_of_find?_eq_some hp, rfl⟩

/-- The enumeration of a column is named after it. -/
theorem enumTypeOf_name {c : Column} {e : EnumType} (h : enumTypeOf c = .ok e) : e.name = enumTypeName c := by
  simp only [enumTypeOf, Outcome.bind_eq_ok, Outcome.pure_eq_ok] at h
  obtain ⟨_, _, rfl⟩ := h
  rfl

/-- The enumerations a column resolves to end in `Enum`, as enumerations
generated for columns are named, unless a registered type brings one. -/
theorem enumsOf_resolve {r : Registry} (hreg : ∀ p ∈ r.types, Generate.enumsOf p.2.type = [])
    {c : Column} {isInput : Bool} {res : Resolved} (h : r.resolve c isInput = .ok res) :
    ∀ e ∈ Generate.enumsOf res.type, "Enum".toList <:+ e.name.toList := by
  fun_induction r.resolve c isInput generalizing res
  case case1 c t hfind =>
    cases h
    have hmem : ∃ p ∈ r.types, p.2 = t := by
      cases hty : find? r.types c.columnType with
      | some t' => rw [hty] at hfind; cases hfind; exact find?_mem hty
      | none => rw [hty] at hfind; exact find?_mem hfind
    obtain ⟨p, hp, rfl⟩ := hmem
    simp [hreg p hp]
  case case7 c _ _ _ | case8 c _ _ =>
    unfold enumResolved at h
    split at h
    · cases h
      simp [Generate.enumsOf]
    · simp only [Outcome.bind_eq_ok, Outcome.pure_eq_ok] at h
      obtain ⟨e, he, rfl⟩ := h
      simp only [Generate.enumsOf, List.mem_singleton, forall_eq, enumTypeOf_name he]
      exact TypeOrigin.ends_of rfl
  case case20 item _ ih =>
    simp only [Outcome.bind_eq_ok, Outcome.pure_eq_ok] at h
    obtain ⟨inner, hinner, rfl⟩ := h
    have hinner' := ih hinner
    simpa [Generate.enumsOf] using hinner'
  case case18 =>
    cases h
    cases isInput <;> simp [Generate.enumsOf]
  all_goals (cases h <;> simp [Generate.enumsOf])

end Registry

section Pieces

open Generate GraphQL

variable {reg : Registry}

/-- The node a node's type is named for has that type's name. -/
theorem GraphNode.origin_name (n : GraphNode) : n.origin.name = n.name := by
  rcases n with ⟨t, _ | _ | k⟩ <;>
    simp [GraphNode.origin, GraphNode.name, TypeOrigin.name, TypeOrigin.suffix, TypeOrigin.table,
      Table.typeName, String.append_assoc]

theorem columnFilterTypes_names {t : Table} {col : Column} {ds : List NamedType}
    (h : columnFilterTypes reg t col = .ok ds) :
    ds.map (·.name) = [(TypeOrigin.columnFilters t.name (Text.pascalCase col.name) true).name,
      (TypeOrigin.columnFilters t.name (Text.pascalCase col.name) false).name] := by
  simp only [columnFilterTypes, Outcome.bind_eq_ok, Outcome.map_eq_ok, Outcome.pure_eq_ok] at h
  obtain ⟨_, _, rfl⟩ := h
  simp [TypeOrigin.name, TypeOrigin.suffix, TypeOrigin.table, columnFiltersName, Table.typeName,
    String.append_assoc]

theorem writeType_name {t : Table} {insert : Bool} {d : NamedType} (h : writeType reg t insert = .ok d) :
    d.name = t.typeName ++ (if insert then "InsertInput" else "UpdateInput") := by
  simp only [writeType, Outcome.bind_eq_ok, Outcome.pure_eq_ok] at h
  obtain ⟨_, _, rfl⟩ := h
  rfl

/-- A table's input types are named for their origins. -/
theorem tableInputs_names {t : Table} {ds : List NamedType} (h : tableInputs reg t = .ok ds) :
    ds.map (·.name) = (Catalog.inputOrigins t).map TypeOrigin.name := by
  simp only [tableInputs, Outcome.bind_eq_ok, Outcome.pure_eq_ok] at h
  obtain ⟨cts, hcts, ins, hins, upd, hupd, rfl⟩ := h
  have hcols := Outcome.map_flatten_of_mapM (fun _ _ h => columnFilterTypes_names h) hcts
  simp only [List.map_append, hcols, Catalog.inputOrigins, List.map_flatMap, List.map_cons, List.map_nil]
  simp [writeType_name hins, writeType_name hupd, filtersType, orderByType, TypeOrigin.name,
    TypeOrigin.suffix, TypeOrigin.table, Table.typeName]

theorem nodeType_name {g : RelationGraph} {n : GraphNode} {p : NamedType × List ((String × String) × FieldRole)}
    (h : nodeType reg g n = .ok p) : p.1.name = n.name := by
  simp only [nodeType, Outcome.bind_eq_ok, Outcome.pure_eq_ok] at h
  obtain ⟨_, _, rfl⟩ := h
  rfl

theorem itemType_name {t : Table} {p : NamedType × List ((String × String) × FieldRole)}
    (h : itemType reg t = .ok p) : p.1.name = (TypeOrigin.item t.name).name := by
  simp only [itemType, Outcome.bind_eq_ok, Outcome.pure_eq_ok] at h
  obtain ⟨_, _, rfl⟩ := h
  rfl

/-- Keeping the first enumeration of each name gives enumerations of
distinct names, each one of those it was given. -/
theorem dedup_enums (l acc : List EnumType) (hacc : (acc.map (·.name)).Nodup) :
    ((l.foldl (fun acc e => if acc.any (·.name == e.name) then acc else acc ++ [e]) acc).map (·.name)).Nodup ∧
      ∀ e ∈ l.foldl (fun acc e => if acc.any (·.name == e.name) then acc else acc ++ [e]) acc, e ∈ acc ∨ e ∈ l := by
  induction l generalizing acc with
  | nil => exact ⟨hacc, fun e he => .inl he⟩
  | cons e l ih =>
    rw [List.foldl_cons]
    split
    · obtain ⟨hnodup, hmem⟩ := ih acc hacc
      exact ⟨hnodup, fun e' he' => (hmem e' he').imp_right (List.mem_cons_of_mem _)⟩
    · next hnew =>
      have hacc' : ((acc ++ [e]).map (·.name)).Nodup := by
        simp only [List.any_eq_true, beq_iff_eq, not_exists, not_and] at hnew
        simpa [List.nodup_append, hacc] using fun a ha => hnew a ha
      obtain ⟨hnodup, hmem⟩ := ih (acc ++ [e]) hacc'
      refine ⟨hnodup, fun e' he' => ?_⟩
      rcases hmem e' he' with h | h
      · rcases List.mem_append.mp h with h | h
        · exact .inl h
        · exact .inr (by simp_all)
      · exact .inr (List.mem_cons_of_mem _ h)

/-- The enumeration types of a catalog have distinct names, each ending in
`Enum` when no registered type brings an enumeration. -/
theorem enumTypes_names {c : Catalog} (hreg : ∀ p ∈ reg.types, enumsOf p.2.type = []) :
    ((enumTypes reg c).map (·.name)).Nodup ∧ ∀ d ∈ enumTypes reg c, "Enum".toList <:+ d.name.toList := by
  unfold enumTypes
  dsimp only
  refine ⟨by rw [List.map_map]; exact (dedup_enums _ [] (by simp)).1, fun d hd => ?_⟩
  obtain ⟨e, he, rfl⟩ := List.mem_map.mp hd
  rcases (dedup_enums _ [] (by simp)).2 e he with h | h
  · simp at h
  · simp only [List.mem_flatMap, List.mem_cons, List.not_mem_nil, or_false, exists_eq_or_imp,
      exists_eq_left] at h
    obtain ⟨t, -, col, -, h⟩ := h
    -- the enumeration came from resolving the column for input or for output
    rcases h with h | h
    all_goals
      split at h
      · next r hr => exact Registry.enumsOf_resolve hreg hr e h
      · simp at h

end Pieces

section Definitions

open Generate GraphQL

/-- The names of the root and fixed types every API defines, whatever its
catalog: the query root, the mutation root when there are mutations, then
the outcome of mutations that return no rows, the sort entry and direction
and the point types. -/
def rootNames (mutation : Bool) : List String :=
  "Query" :: (if mutation then ["Mutation"] else []) ++
    ["MutationReturn", "InnerOrder", "OrderDirection", "GeometryXY", "GeometryXYInput"]

/-- The names of an API's types: those of its table types, named for their
origins, the root and fixed types, the enumerations, and the built-in
scalar and introspection types. -/
theorem generate_typeNames {reg : Registry} {g : RelationGraph} {b : Backend} {settings : BuildSettings}
    {api : GeneratedApi} (h : GeneratedApi.generate reg g b settings = .ok api) :
    api.schema.definitions.map (·.name) =
      (g.origins (!b.canReportAffectedRows)).map TypeOrigin.name ++ rootNames api.schema.mutation.isSome ++
        (enumTypes reg g.catalog).map (·.name) ++ (scalarTypes ++ introspectionTypes).map (·.name) := by
  unfold GeneratedApi.generate at h
  cases hb : b.canReportAffectedRows <;>
  simp only [hb, Bool.not_true, Bool.not_false, Bool.false_eq_true, if_true, if_false,
    Outcome.bind_eq_ok, Outcome.pure_eq_ok] at h
  all_goals
    obtain ⟨inputs, hinputs, nodes, hnodes, items, hitems, rfl⟩ := h
    have hA : inputs.flatten.map (·.name) = (g.catalog.tables.flatMap Catalog.inputOrigins).map TypeOrigin.name := by
      rw [List.map_flatMap]
      exact Outcome.map_flatten_of_mapM (fun _ _ h => tableInputs_names h) hinputs
    have hN : (nodes.map (·.1)).map (·.name) = (g.nodes.map GraphNode.origin).map TypeOrigin.name := by
      simp only [List.map_map, Function.comp_def]
      exact Outcome.map_of_mapM (fun n _ h => (nodeType_name h).trans (GraphNode.origin_name n).symm) hnodes
  · subst hitems
    simp only [List.map_append, hA, hN, RelationGraph.origins, if_true, Bool.not_false, List.map_nil,
      List.append_nil]
    split_ifs <;> simp_all [rootNames, mutationReturnType, innerOrderType, orderDirectionType, pointTypes]
  · have hI : (items.map (·.1)).map (·.name) = (g.catalog.tables.map fun t => TypeOrigin.item t.name).map TypeOrigin.name := by
      simp only [List.map_map, Function.comp_def]
      exact Outcome.map_of_mapM (fun t _ h => itemType_name h) hitems
    simp only [List.map_append, hA, hN, hI, RelationGraph.origins, if_false, Bool.not_true, Bool.false_eq_true]
    split_ifs <;> simp_all [rootNames, mutationReturnType, innerOrderType, orderDirectionType, pointTypes]

theorem builtin_names : (scalarTypes ++ introspectionTypes).map (·.name) =
    ["Int", "Float", "String", "Boolean", "ID", "__Schema", "__Type", "__TypeKind", "__Field", "__InputValue",
      "__EnumValue", "__Directive", "__DirectiveLocation"] := rfl

/-- The root, fixed and built-in names are distinct, and none has an ending
of a table type, a final digit or the ending of an enumeration. -/
theorem fixedNames_apart (mutation : Bool) :
    (rootNames mutation ++ (scalarTypes ++ introspectionTypes).map (·.name)).Nodup ∧
      ∀ f ∈ rootNames mutation ++ (scalarTypes ++ introspectionTypes).map (·.name),
        (∀ e ∈ TypeOrigin.endings, ¬ e.toList <:+ f.toList) ∧
          (∀ d ∈ f.toList.reverse.head?, d.isDigit = false) ∧ ¬ "Enum".toList <:+ f.toList := by
  rw [builtin_names]
  refine ⟨by cases mutation <;> decide +kernel, ?_⟩
  -- spelled out as characters, each name is checked against each ending
  cases mutation <;> simp [rootNames, TypeOrigin.endings] <;> and_intros <;> decide

/-- The types of an API generated for a catalog whose names are apart have
distinct names: its table types, its enumerations, its root and fixed types
and the built-in types. -/
theorem generate_typeNames_nodup {reg : Registry} {g : RelationGraph} (hk : g.catalog.Keyed)
    (hn : g.catalog.NamesApart) (hreg : ∀ p ∈ reg.types, enumsOf p.2.type = []) {b : Backend}
    {settings : BuildSettings} {api : GeneratedApi} (h : GeneratedApi.generate reg g b settings = .ok api) :
    (api.schema.definitions.map (·.name)).Nodup := by
  rw [generate_typeNames h]
  obtain ⟨hF, hFapart⟩ := fixedNames_apart api.schema.mutation.isSome
  obtain ⟨hE, hEnum⟩ := enumTypes_names hreg (c := g.catalog)
  have hA := RelationGraph.origin_names_nodup hk hn (!b.canReportAffectedRows)
  -- the enumerations are listed among the fixed types; take them out first
  have hperm : ∀ (A R E B : List String), (A ++ R ++ E ++ B).Perm (A ++ E ++ (R ++ B)) := fun A R E B => by
    simpa only [List.append_assoc] using ((@List.perm_append_comm _ R E).append_right B).append_left A
  refine (hperm _ _ _ _).nodup_iff.mpr (List.nodup_append.mpr ⟨List.nodup_append.mpr ⟨hA, hE, ?_⟩, hF, ?_⟩)
  · intro a ha e he
    obtain ⟨o, -, rfl⟩ := List.mem_map.mp ha
    obtain ⟨d, hd, rfl⟩ := List.mem_map.mp he
    exact TypeOrigin.name_ne_of_enum (hEnum d hd) o
  · intro a ha f hf
    obtain ⟨hfe, hfd, hfenum⟩ := hFapart f hf
    rcases List.mem_append.mp ha with ha | ha
    · obtain ⟨o, -, rfl⟩ := List.mem_map.mp ha
      exact TypeOrigin.name_ne hfe hfd o
    · obtain ⟨d, hd, rfl⟩ := List.mem_map.mp ha
      rintro rfl
      exact hfenum (hEnum d hd)

end Definitions

end TableGraph
