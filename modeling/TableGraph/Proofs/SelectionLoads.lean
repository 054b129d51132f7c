import Mathlib
import TableGraph.Proofs.LevelledApis

/-!
# What a selection loads

`SelectionContext.collect` reads a selection into a load spec one selection
after the other, entering fragments where they stand and the selections of
a relation field one level down. This module states what it reads at one
level as a function of the fields the selection asks for there.

`asked` lists those fields, through fragments, in order: a column by its
attribute key, a relation under its response key with the arguments and
selections of the field; meta fields and names the table does not know are
left out. Collecting a selection is folding its asked fields into the spec
(`collect_eq_asked`), and the fold leaves a spec `Collected` from them: its
columns are the distinct keys of the columns asked, in the order first
asked; its relations are the distinct response keys of the relations asked,
in the same order, each with the relation and the arguments of the first
field asked under it and a child collected from the selections of every
field asked under it, one after the other (`collected_asked`).

Fuel bounds how deep fragments and fields nest; a selection that `Fits` the
fuel is collected whatever fuel it is given past that (`collect_fuel_congr`),
so the children above are collected with the fuel of their parent.
-/

namespace TableGraph

open GraphQL

namespace GraphQL

/-- The selections a selection nests: those of an inline fragment, of the
fragment a spread names (none when the document has no such fragment), or of
a field (none for a field without selections). -/
def Document.nested? (doc : Document) : Selection → Option (List Selection)
  | .inline _ _ inner => some inner
  | .spread n _ => (doc.fragment? n).map (·.selections)
  | .field _ _ _ _ sub => some (sub.getD [])

/-- Selections whose fragments and fields nest fewer than `n` levels deep,
every spread among them naming a fragment of the document. -/
def Document.Fits (doc : Document) : Nat → List Selection → Prop
  | 0, sels => sels = []
  | n + 1, sels => ∀ x ∈ sels, ∃ l, doc.nested? x = some l ∧ doc.Fits n l

namespace Document.Fits

variable {doc : Document}

theorem nil : ∀ n, doc.Fits n []
  | 0 => rfl
  | _ + 1 => fun _ hx => absurd hx List.not_mem_nil

theorem nested {n : Nat} {sels : List Selection} (h : doc.Fits (n + 1) sels) {x : Selection} (hx : x ∈ sels)
    {l : List Selection} (hl : doc.nested? x = some l) : doc.Fits n l := by
  obtain ⟨l', hl', hfits⟩ := h x hx
  rw [hl] at hl'
  cases hl'
  exact hfits

/-- A selection that fits some fuel fits any more. -/
theorem mono : ∀ {n m : Nat} {sels : List Selection}, doc.Fits n sels → n ≤ m → doc.Fits m sels
  | 0, m, _, h, _ => by
    cases h
    exact nil m
  | n + 1, m + 1, _, h, hnm => fun x hx => by
    obtain ⟨l, hl, hfits⟩ := h x hx
    exact ⟨l, hl, mono hfits (by omega)⟩

theorem append {n : Nat} {l₁ l₂ : List Selection} (h₁ : doc.Fits n l₁) (h₂ : doc.Fits n l₂) :
    doc.Fits n (l₁ ++ l₂) := by
  cases n with
  | zero =>
    cases h₁
    exact h₂
  | succ n =>
    intro x hx
    rcases List.mem_append.mp hx with hx | hx
    · exact h₁ x hx
    · exact h₂ x hx

end Document.Fits

end GraphQL

/-- Folding a list of lists is folding each in turn. -/
theorem Outcome.foldlM_flatMap {ε α β γ : Type} {xs : List α} {g : α → List γ} {f : β → γ → Except ε β}
    (b : β) : (xs.flatMap g).foldlM f b = xs.foldlM (fun b x => (g x).foldlM f b) b := by
  induction xs generalizing b with
  | nil => rfl
  | cons x xs ih => simp only [List.flatMap_cons, List.foldlM_append, List.foldlM_cons, ih]

theorem List.eraseDups_append_singleton (l : List String) (a : String) :
    (l ++ [a]).eraseDups = if a ∈ l then l.eraseDups else l.eraseDups ++ [a] := by
  rw [List.eraseDups_append]
  split
  · next h => simp [List.removeAll, h]
  · next h => simp [List.removeAll, h, List.eraseDups_cons]

theorem List.nodup_eraseDups : ∀ (l : List String), l.eraseDups.Nodup
  | [] => List.nodup_nil
  | a :: as => by
    rw [List.eraseDups_cons]
    refine List.nodup_cons.mpr ⟨?_, List.nodup_eraseDups _⟩
    simp [List.mem_eraseDups]
termination_by l => l.length
decreasing_by
  have := List.length_filter_le (fun b => !b == a) as
  simp only [List.length_cons]
  omega

namespace LoadSpec

variable {s : LoadSpec} {key : String}

/-- Following a relation under a key the spec has replaces that entry. -/
theorem setRelation_of_mem (h : key ∈ s.relations.map (·.1)) (rel : Relation) (child : LoadSpec) :
    (s.setRelation key rel child).relations =
      s.relations.map fun e => if e.1 == key then (key, rel, child) else e := by
  have hany : s.relations.any (·.1 == key) = true := by
    obtain ⟨e, he, rfl⟩ := List.mem_map.mp h
    exact List.any_eq_true.mpr ⟨e, he, beq_self_eq_true _⟩
  simp only [setRelation, hany, if_true]

/-- Following a relation under a new key appends an entry. -/
theorem setRelation_of_not_mem (h : key ∉ s.relations.map (·.1)) (rel : Relation) (child : LoadSpec) :
    (s.setRelation key rel child).relations = s.relations ++ [(key, rel, child)] := by
  have hany : s.relations.any (·.1 == key) = false := by
    rw [List.any_eq_false]
    intro e he hkey
    exact h (List.mem_map.mpr ⟨e, he, by simpa using hkey⟩)
  simp only [setRelation, hany, Bool.false_eq_true, if_false]

/-- A spec that keeps all of another but its loads is that one with its own
loads. -/
theorem eq_of_base {s₀ s : LoadSpec}
    (h : { s with columns := [], relations := [] } = { s₀ with columns := [], relations := [] }) :
    s = { s₀ with columns := s.columns, relations := s.relations } := by
  cases s
  cases s₀
  simp only [LoadSpec.mk.injEq, and_true, true_and] at h ⊢
  exact h

@[simp] theorem setRelation_columns (rel : Relation) (child : LoadSpec) :
    (s.setRelation key rel child).columns = s.columns := rfl

end LoadSpec

namespace SelectionContext

variable (c : SelectionContext)

theorem collect_zero (depth : Nat) (s : LoadSpec) (sels : List Selection) : c.collect 0 depth s sels = .ok s := by
  rw [collect]

theorem collect_nil (fuel depth : Nat) (s : LoadSpec) : c.collect fuel depth s [] = .ok s := by
  cases fuel <;> rfl

/-- Collecting two selections one after the other. -/
theorem collect_append (fuel depth : Nat) (s : LoadSpec) (l₁ l₂ : List Selection) :
    c.collect fuel depth s (l₁ ++ l₂) = c.collect fuel depth s l₁ >>= fun s => c.collect fuel depth s l₂ := by
  cases fuel with
  | zero => simp only [collect_zero]; rfl
  | succ fuel => simp only [collect_succ, List.foldlM_append]

/-- One selection is collected alike by two ways of collecting what it
nests that agree there. -/
theorem collectOne_congr {k k' : Nat → LoadSpec → List Selection → Outcome LoadSpec} {x : Selection}
    (h : ∀ l, c.document.nested? x = some l → ∀ depth s, k depth s l = k' depth s l) (depth : Nat) (s : LoadSpec) :
    c.collectOne k depth s x = c.collectOne k' depth s x := by
  cases x with
  | inline cond ds inner => exact h inner rfl depth s
  | spread n ds =>
    rcases hf : c.document.fragment? n with _ | f
    · rw [collectOne_spread_missing _ ds hf, collectOne_spread_missing _ ds hf]
    · rw [collectOne_spread _ ds hf, collectOne_spread _ ds hf]
      exact h f.selections (by simp [Document.nested?, hf]) depth s
  | field a name args ds sub =>
    simp only [collectOne, h (sub.getD []) rfl]

/-- A selection that fits the fuel is collected alike with any more. -/
theorem collect_fuel_congr :
    ∀ n {sels : List Selection}, c.document.Fits n sels → ∀ m, n ≤ m → ∀ depth s,
      c.collect m depth s sels = c.collect n depth s sels := by
  -- on the fuel the selection fits: what it nests fits one less
  intro n
  induction n with
  | zero =>
    intro sels h m _ depth s
    cases h
    rw [collect_nil, collect_nil]
  | succ n ih =>
    intro sels h m hnm depth s
    obtain ⟨m, rfl⟩ : ∃ m', m = m' + 1 := ⟨m - 1, by omega⟩
    rw [collect_succ, collect_succ]
    refine List.foldlM_congr_of_mem (fun x hx b => ?_) s
    exact c.collectOne_congr (fun l hl depth s => ih (h.nested hx hl) m (by omega) depth s) depth b

/-! ## What a selection asks of a table -/

/-- A field a selection asks of a table at one level: a column by its
attribute key, or a relation under its response key, with the arguments and
the selections of the field. -/
inductive Asked where
  | column (key : String)
  | relation (key : String) (r : Relation) (args : List (String × Literal)) (sub : List Selection)

/-- The selections of an asked field: none for a column. -/
def Asked.selections : Asked → List Selection
  | .column _ => []
  | .relation _ _ _ sub => sub

/-- What one selection asks of a table, with `asked` for the selections of
its fragments. -/
def askedOne (doc : Document) (t : Table) (asked : List Selection → List Asked) : Selection → List Asked
  | .inline _ _ inner => asked inner
  | .spread n _ =>
    match doc.fragment? n with
    | some f => asked f.selections
    | none => []
  | .field a name args _ sub =>
    if name.isEmpty || name.startsWith "__" then []
    else
      match t.columnFor? name with
      | some col => [.column col.name]
      | none =>
        match t.relationFor? name with
        | none => []
        | some r => [.relation (a.getD name) r args (sub.getD [])]

/-- The fields a selection asks of a table, in order, through fragments
nesting fewer than `fuel` levels deep. -/
def asked (doc : Document) (t : Table) : Nat → List Selection → List Asked
  | 0, _ => []
  | fuel + 1, sels => sels.flatMap (askedOne doc t (asked doc t fuel))

/-- Collects one asked field into a spec, with `collect` for the selections
of a relation. -/
def applyAsked (collect : Nat → LoadSpec → List Selection → Outcome LoadSpec) (depth : Nat) (s : LoadSpec) :
    Asked → Outcome LoadSpec
  | .column key => pure (s.addColumn key)
  | .relation key r args sub => do
    c.checkDepth s r depth
    let entry ← c.relationEntry s key r args
    let child ← collect (depth + 1) entry.2 sub
    pure (s.setRelation key entry.1 child)

/-- The selections of the fields a selection asks of a table nest one level
less deep than it does. -/
theorem asked_fits (t : Table) :
    ∀ n {sels : List Selection}, c.document.Fits n sels → ∀ it ∈ asked c.document t n sels,
      c.document.Fits (n - 1) it.selections := by
  intro n
  induction n with
  | zero => intro sels _ it hit; simp [asked] at hit
  | succ n ih =>
    intro sels h it hit
    obtain ⟨x, hx, hit⟩ := List.mem_flatMap.mp hit
    cases x with
    | inline cond ds inner =>
      exact (ih (h.nested hx rfl) it hit).mono (by omega)
    | spread m ds =>
      obtain ⟨l, hl, -⟩ := h _ hx
      rcases hf : c.document.fragment? m with _ | f
      · simp [Document.nested?, hf] at hl
      · simp only [askedOne, hf] at hit
        exact (ih (h.nested hx (by simp [Document.nested?, hf])) it hit).mono (by omega)
    | field a name args ds sub =>
      simp only [askedOne] at hit
      split at hit
      · simp at hit
      split at hit
      · simp only [List.mem_singleton] at hit
        subst hit
        exact Document.Fits.nil _
      split at hit
      · simp at hit
      · simp only [List.mem_singleton] at hit
        subst hit
        exact h.nested hx rfl

theorem applyAsked_congr {k k' : Nat → LoadSpec → List Selection → Outcome LoadSpec} {it : Asked}
    (h : ∀ depth s, k depth s it.selections = k' depth s it.selections) (depth : Nat) (s : LoadSpec) :
    c.applyAsked k depth s it = c.applyAsked k' depth s it := by
  cases it with
  | column key => rfl
  | relation key r args sub =>
    have h' : ∀ depth s, k depth s sub = k' depth s sub := h
    simp only [applyAsked, h']

/-- One selection keeps the table of a spec, when what it nests does. -/
theorem collectOne_table {k : Nat → LoadSpec → List Selection → Outcome LoadSpec}
    (hk : ∀ depth (s : LoadSpec) sels {s'}, k depth s sels = .ok s' → s'.table = s.table) (depth : Nat)
    (s : LoadSpec) (x : Selection) {s' : LoadSpec} (h : c.collectOne k depth s x = .ok s') : s'.table = s.table := by
  cases x with
  | inline cond ds inner => exact hk depth s inner h
  | spread n ds =>
    rcases hf : c.document.fragment? n with _ | f
    · rw [collectOne_spread_missing _ ds hf] at h
      cases h
    · rw [collectOne_spread _ ds hf] at h
      exact hk depth s _ h
  | field a name args ds sub =>
    simp only [collectOne] at h
    split at h
    · cases h
      rfl
    split at h
    · cases h
      exact s.addColumn_table _
    split at h
    · cases h
      rfl
    · obtain ⟨_, -, h⟩ := Outcome.bind_eq_ok.mp h
      obtain ⟨entry, -, h⟩ := Outcome.bind_eq_ok.mp h
      obtain ⟨child, -, h⟩ := Outcome.bind_eq_ok.mp h
      cases h
      rfl

/-- Collecting keeps the table of a spec. -/
theorem collect_table :
    ∀ fuel depth (s : LoadSpec) sels {s'}, c.collect fuel depth s sels = .ok s' → s'.table = s.table := by
  intro fuel
  induction fuel with
  | zero =>
    intro depth s sels s' h
    rw [collect_zero] at h
    cases h
    rfl
  | succ fuel ih =>
    intro depth s sels s' h
    refine Outcome.foldlM_preserves (fun b => b.table = s.table) (fun x _ b b' hb hstep => ?_) rfl h
    rw [← hb]
    exact c.collectOne_table ih depth b x hstep

/-- Folding the fields a selection asks, their selections collected with one
fuel or another that both fit them. -/
theorem foldlM_asked_fuel {t : Table} {n : Nat} {sels : List Selection} (h : c.document.Fits n sels)
    {m m' : Nat} (hm : n - 1 ≤ m) (hm' : n - 1 ≤ m') (depth : Nat) (s : LoadSpec) :
    (asked c.document t n sels).foldlM (c.applyAsked (c.collect m) depth) s =
      (asked c.document t n sels).foldlM (c.applyAsked (c.collect m') depth) s := by
  refine List.foldlM_congr_of_mem (fun it hit b => c.applyAsked_congr (fun depth s => ?_) depth b) s
  have hfits := c.asked_fits t n h it hit
  rw [c.collect_fuel_congr _ hfits m hm, c.collect_fuel_congr _ hfits m' hm']

/-- One selection, on a spec of the table, is collected as the fields it
asks of the table are folded in, when what it nests is. -/
theorem collectOne_eq_asked {n : Nat}
    (hk : ∀ {l : List Selection}, c.document.Fits n l → ∀ depth (s : LoadSpec),
      c.collect n depth s l = (asked c.document s.table n l).foldlM (c.applyAsked (c.collect n) depth) s)
    {x : Selection} (hx : ∃ l, c.document.nested? x = some l ∧ c.document.Fits n l) (depth : Nat) (s : LoadSpec) :
    c.collectOne (c.collect n) depth s x =
      (askedOne c.document s.table (asked c.document s.table n) x).foldlM
        (c.applyAsked (c.collect (n + 1)) depth) s := by
  obtain ⟨l, hl, hfits⟩ := hx
  cases x with
  | inline cond ds inner =>
    cases hl
    rw [collectOne_inline, hk hfits]
    exact c.foldlM_asked_fuel hfits (by omega) (by omega) depth s
  | spread m ds =>
    rcases hf : c.document.fragment? m with _ | f
    · simp [Document.nested?, hf] at hl
    · simp only [Document.nested?, hf, Option.map_some, Option.some.injEq] at hl
      subst hl
      rw [collectOne_spread _ ds hf, hk hfits]
      simp only [askedOne, hf]
      exact c.foldlM_asked_fuel hfits (by omega) (by omega) depth s
  | field a name args ds sub =>
    cases hl
    cases hname : (name.isEmpty || name.startsWith "__")
    · rcases hcol : s.table.columnFor? name with _ | col
      · rcases hrel : s.table.relationFor? name with _ | r
        · rw [collectOne_unknown _ hname hcol hrel]
          simp only [askedOne, hname, hcol, hrel, Bool.false_eq_true, if_false]
          rfl
        · rw [collectOne_relation _ hname hcol hrel]
          simp only [askedOne, hname, hcol, hrel, Bool.false_eq_true, if_false, List.foldlM_cons,
            List.foldlM_nil, applyAsked, bind_pure]
          -- the field's own selections are collected alike with one fuel more
          simp only [c.collect_fuel_congr n hfits (n + 1) (by omega)]
      · rw [collectOne_column _ hname hcol]
        simp only [askedOne, hname, hcol, Bool.false_eq_true, if_false, List.foldlM_cons, List.foldlM_nil,
          applyAsked, bind_pure]
    · rw [collectOne_meta _ hname]
      simp only [askedOne, hname, if_true]
      rfl

/-- Collecting a selection that fits the fuel is folding the fields it asks
of the spec's table into the spec, their selections collected with the same
fuel. -/
theorem collect_eq_asked :
    ∀ n {sels : List Selection}, c.document.Fits n sels → ∀ depth (s : LoadSpec),
      c.collect n depth s sels = (asked c.document s.table n sels).foldlM (c.applyAsked (c.collect n) depth) s := by
  -- on the fuel: the fragments of a selection fit one less
  intro n
  induction n with
  | zero =>
    intro sels h depth s
    cases h
    rw [collect_nil]
    rfl
  | succ n ih =>
    intro sels h depth s
    rw [collect_succ, asked, Outcome.foldlM_flatMap]
    -- one selection after the other, on specs of the same table
    refine Outcome.foldlM_congr_of_preserves (fun b => b.table = s.table)
      (fun x hx b hb => ⟨?_, fun b' hstep => (c.collectOne_table (c.collect_table n) depth b x hstep).trans hb⟩) s rfl
    rw [← hb]
    exact c.collectOne_eq_asked (ih ·) (h x hx) depth b

/-! ## Folding the asked fields -/

/-- The key of a column asked. -/
def Asked.column? : Asked → Option String
  | .column key => some key
  | .relation .. => none

/-- The response key of a relation asked. -/
def Asked.relationKey? : Asked → Option String
  | .column _ => none
  | .relation key .. => some key

/-- The relation and the arguments of a relation asked under a key. -/
def Asked.under? (key : String) : Asked → Option (Relation × List (String × Literal))
  | .column _ => none
  | .relation k r args _ => if k = key then some (r, args) else none

/-- The selections of a relation asked under a key; none else. -/
def Asked.selectionsUnder (key : String) : Asked → List Selection
  | .column _ => []
  | .relation k _ _ sub => if k = key then sub else []

/-- A spec collected from asked fields into a spec `s₀` fresh from its
arguments: it keeps all of `s₀` but its loads; its columns are the distinct
keys of the columns asked, in the order first asked; its relations are under
the distinct response keys of the relations asked, in the same order; and
under each key stand the relation of the first field asked under it and a
child collected, with the fuel `fuel` one level below `depth`, from the spec
of that field's arguments and the selections of every field asked under the
key, one after the other. -/
structure Collected (fuel depth : Nat) (s₀ : LoadSpec) (items : List Asked) (s : LoadSpec) : Prop where
  base : { s with columns := [], relations := [] } = { s₀ with columns := [], relations := [] }
  columns : s.columns = (items.filterMap Asked.column?).eraseDups
  keys : s.relations.map (·.1) = (items.filterMap Asked.relationKey?).eraseDups
  entries : ∀ key ∈ items.filterMap Asked.relationKey?, ∃ r args spec₀ child,
    items.findSome? (Asked.under? key) = some (r, args) ∧ c.relationSpec r args = .ok spec₀ ∧
    c.collect fuel (depth + 1) spec₀ (items.flatMap (Asked.selectionsUnder key)) = .ok child ∧
    (key, r, child) ∈ s.relations

theorem findSome?_under_eq_none {items : List Asked} {key : String}
    (h : key ∉ items.filterMap Asked.relationKey?) : items.findSome? (Asked.under? key) = none := by
  rw [List.findSome?_eq_none_iff]
  intro it hit
  cases it with
  | column k => rfl
  | relation k r args sub =>
    have hk : k ≠ key := fun hk => h (List.mem_filterMap.mpr ⟨_, hit, by simp [Asked.relationKey?, hk]⟩)
    simp [Asked.under?, hk]

theorem selectionsUnder_eq_nil {items : List Asked} {key : String}
    (h : key ∉ items.filterMap Asked.relationKey?) : items.flatMap (Asked.selectionsUnder key) = [] := by
  rw [List.flatMap_eq_nil_iff]
  intro it hit
  cases it with
  | column k => rfl
  | relation k r args sub =>
    have hk : k ≠ key := fun hk => h (List.mem_filterMap.mpr ⟨_, hit, by simp [Asked.relationKey?, hk]⟩)
    simp [Asked.selectionsUnder, hk]

/-- A spec fresh from its arguments is collected from no asked field. -/
theorem collected_nil {fuel depth : Nat} {s : LoadSpec} (hcols : s.columns = []) (hrels : s.relations = []) :
    c.Collected fuel depth s [] s :=
  ⟨rfl, by simp [hcols], by simp [hrels], by simp⟩

theorem findSome?_under_append_ne {p : List Asked} {key k : String} (hk : k ≠ key) (r : Relation)
    (args : List (String × Literal)) (sub : List Selection) :
    (p ++ [Asked.relation k r args sub]).findSome? (Asked.under? key) = p.findSome? (Asked.under? key) := by
  simp [List.findSome?_append, Asked.under?, hk]

theorem selectionsUnder_append_ne {p : List Asked} {key k : String} (hk : k ≠ key) (r : Relation)
    (args : List (String × Literal)) (sub : List Selection) :
    (p ++ [Asked.relation k r args sub]).flatMap (Asked.selectionsUnder key) = p.flatMap (Asked.selectionsUnder key) := by
  simp [Asked.selectionsUnder, hk]

section Fold

variable {c} {fuel depth : Nat} {s₀ : LoadSpec} {p : List Asked} {b : LoadSpec}

/-- A column asked adds its key to the columns, once. -/
theorem Collected.column (h : c.Collected fuel depth s₀ p b) (key : String) :
    c.Collected fuel depth s₀ (p ++ [.column key]) (b.addColumn key) := by
  have hkeys : (p ++ [Asked.column key]).filterMap Asked.relationKey? = p.filterMap Asked.relationKey? := by
    simp [Asked.relationKey?]
  have hmem : key ∈ p.filterMap Asked.column? ↔ b.columns.contains key := by
    rw [List.contains_iff_mem, h.columns, List.mem_eraseDups]
  refine ⟨?_, ?_, ?_, ?_⟩
  · unfold LoadSpec.addColumn
    split <;> exact h.base
  · simp only [List.filterMap_append, List.filterMap_cons, List.filterMap_nil, Asked.column?,
      List.eraseDups_append_singleton, hmem, LoadSpec.addColumn, ← h.columns]
    split <;> rfl
  · simp only [LoadSpec.addColumn_relations, h.keys, hkeys]
  · intro k hk
    rw [hkeys] at hk
    obtain ⟨r, args, spec₀, child, hfirst, hspec, hchild, hin⟩ := h.entries k hk
    refine ⟨r, args, spec₀, child, ?_, hspec, ?_, by simpa using hin⟩
    · simpa [List.findSome?_append, Asked.under?] using hfirst
    · simpa [Asked.selectionsUnder] using hchild


/-- A relation entry under a key among distinct keys is the one the spec
has. -/
theorem relationEntry_of_mem {s : LoadSpec} {key : String} {r₀ : Relation} {child₀ : LoadSpec}
    (hnodup : (s.relations.map (·.1)).Nodup) (hmem : (key, r₀, child₀) ∈ s.relations) (r : Relation)
    (args : List (String × Literal)) : c.relationEntry s key r args = pure (r₀, child₀) := by
  have hfind : s.relations.find? (·.1 == key) = some (key, r₀, child₀) := by
    simpa using find?_of_nodup_names hnodup hmem
  simp only [relationEntry, hfind]

/-- A relation entry under a new key is made from the field's arguments. -/
theorem relationEntry_of_not_mem {s : LoadSpec} {key : String} (h : key ∉ s.relations.map (·.1)) (r : Relation)
    (args : List (String × Literal)) :
    c.relationEntry s key r args = (c.relationSpec r args >>= fun child => pure (r, child)) := by
  have hfind : s.relations.find? (·.1 == key) = none := by
    rw [List.find?_eq_none]
    intro e he hkey
    exact h (List.mem_map.mpr ⟨e, he, by simpa using hkey⟩)
  simp only [relationEntry, hfind]

/-- A relation asked again under a key goes on collecting into the child
under that key, with the relation and arguments of its first field. -/
theorem Collected.relation_old (h : c.Collected fuel depth s₀ p b) {key : String}
    (hold : key ∈ p.filterMap Asked.relationKey?) {r : Relation} {args : List (String × Literal)}
    {sub : List Selection} {b' : LoadSpec}
    (hstep : c.applyAsked (c.collect fuel) depth b (.relation key r args sub) = .ok b') :
    c.Collected fuel depth s₀ (p ++ [.relation key r args sub]) b' := by
  obtain ⟨r₀, args₀, spec₀, child₀, hfirst, hspec, hchild₀, hmem₀⟩ := h.entries key hold
  have hnodup : (b.relations.map (·.1)).Nodup := h.keys ▸ List.nodup_eraseDups _
  simp only [applyAsked, c.relationEntry_of_mem hnodup hmem₀, pure_bind] at hstep
  obtain ⟨_, -, hstep⟩ := Outcome.bind_eq_ok.mp hstep
  obtain ⟨child, hchild, hstep⟩ := Outcome.bind_eq_ok.mp hstep
  rw [← Outcome.pure_eq_ok.mp hstep]
  have hrels := LoadSpec.setRelation_of_mem (List.mem_map.mpr ⟨_, hmem₀, rfl⟩) r₀ child
  -- replacing the entry under the key keeps every key in place
  have hfst : ((·.1) ∘ fun e : String × Relation × LoadSpec => if e.1 == key then (key, r₀, child) else e) =
      (·.1) := by
    funext e
    by_cases he : e.1 = key <;> simp [he]
  refine ⟨h.base, by simpa [List.filterMap_cons, Asked.column?] using h.columns, ?_, ?_⟩
  · rw [hrels, List.map_map, hfst, h.keys]
    simp [Asked.relationKey?, List.eraseDups_append_singleton, hold]
  · intro k hk
    by_cases hkk : k = key
    · subst hkk
      refine ⟨r₀, args₀, spec₀, child, by simp [List.findSome?_append, hfirst], hspec, ?_, ?_⟩
      · simp only [List.flatMap_append, List.flatMap_cons, List.flatMap_nil, Asked.selectionsUnder, if_true,
          List.append_nil, collect_append, hchild₀]
        exact hchild
      · rw [hrels]
        exact List.mem_map.mpr ⟨_, hmem₀, by simp⟩
    · have hk' : k ∈ p.filterMap Asked.relationKey? := by simpa [Asked.relationKey?, hkk] using hk
      obtain ⟨r', args', spec', child', h₁, h₂, h₃, h₄⟩ := h.entries k hk'
      refine ⟨r', args', spec', child', ?_, h₂, ?_, ?_⟩
      · rwa [findSome?_under_append_ne (Ne.symm hkk)]
      · rwa [selectionsUnder_append_ne (Ne.symm hkk)]
      · rw [hrels]
        exact List.mem_map.mpr ⟨_, h₄, by simp [hkk]⟩

/-- A relation asked under a new key adds an entry under it, with the spec
of the field's arguments and a child collected from its selections. -/
theorem Collected.relation_new (h : c.Collected fuel depth s₀ p b) {key : String}
    (hnew : key ∉ p.filterMap Asked.relationKey?) {r : Relation} {args : List (String × Literal)}
    {sub : List Selection} {b' : LoadSpec}
    (hstep : c.applyAsked (c.collect fuel) depth b (.relation key r args sub) = .ok b') :
    c.Collected fuel depth s₀ (p ++ [.relation key r args sub]) b' := by
  have hnot : key ∉ b.relations.map (·.1) := by
    rwa [h.keys, List.mem_eraseDups]
  simp only [applyAsked, c.relationEntry_of_not_mem hnot, bind_assoc, pure_bind] at hstep
  obtain ⟨_, -, hstep⟩ := Outcome.bind_eq_ok.mp hstep
  obtain ⟨spec₀, hspec, hstep⟩ := Outcome.bind_eq_ok.mp hstep
  obtain ⟨child, hchild, hstep⟩ := Outcome.bind_eq_ok.mp hstep
  rw [← Outcome.pure_eq_ok.mp hstep]
  have hrels := LoadSpec.setRelation_of_not_mem hnot r child
  refine ⟨h.base, by simpa [List.filterMap_cons, Asked.column?] using h.columns, ?_, ?_⟩
  · rw [hrels, List.map_append, h.keys]
    simp [Asked.relationKey?, List.eraseDups_append_singleton, hnew]
  · intro k hk
    by_cases hkk : k = key
    · subst hkk
      refine ⟨r, args, spec₀, child, ?_, hspec, ?_, ?_⟩
      · simp [List.findSome?_append, findSome?_under_eq_none hnew, Asked.under?]
      · simpa [selectionsUnder_eq_nil hnew, Asked.selectionsUnder] using hchild
      · rw [hrels]
        exact List.mem_append_right _ (List.mem_singleton_self _)
    · have hk' : k ∈ p.filterMap Asked.relationKey? := by simpa [Asked.relationKey?, hkk] using hk
      obtain ⟨r', args', spec', child', h₁, h₂, h₃, h₄⟩ := h.entries k hk'
      refine ⟨r', args', spec', child', ?_, h₂, ?_, ?_⟩
      · rwa [findSome?_under_append_ne (Ne.symm hkk)]
      · rwa [selectionsUnder_append_ne (Ne.symm hkk)]
      · rw [hrels]
        exact List.mem_append_left _ h₄

/-- One asked field folded in keeps a spec collected from the fields asked
so far. -/
theorem Collected.step (h : c.Collected fuel depth s₀ p b) {it : Asked} {b' : LoadSpec}
    (hstep : c.applyAsked (c.collect fuel) depth b it = .ok b') : c.Collected fuel depth s₀ (p ++ [it]) b' := by
  cases it with
  | column key =>
    rw [← Outcome.pure_eq_ok.mp hstep]
    exact h.column key
  | relation key r args sub =>
    by_cases hold : key ∈ p.filterMap Asked.relationKey?
    · exact h.relation_old hold hstep
    · exact h.relation_new hold hstep

/-- Folding asked fields into a spec fresh from its arguments collects them. -/
theorem collected_foldlM (hcols : s₀.columns = []) (hrels : s₀.relations = []) :
    ∀ {items : List Asked} {s : LoadSpec}, items.foldlM (c.applyAsked (c.collect fuel) depth) s₀ = .ok s →
      c.Collected fuel depth s₀ items s := by
  intro items
  -- on the fields asked, the last one folded in last
  induction items using List.reverseRecOn with
  | nil =>
    intro s h
    cases h
    exact c.collected_nil hcols hrels
  | append_singleton p it ih =>
    intro s h
    rw [List.foldlM_append] at h
    obtain ⟨b, hb, h⟩ := Outcome.bind_eq_ok.mp h
    simp only [List.foldlM_cons, List.foldlM_nil, bind_pure] at h
    exact (ih hb).step h

end Fold

/-! ## Fields asked at every level -/

theorem asked_nil (doc : Document) (t : Table) (n : Nat) : asked doc t n [] = [] := by
  cases n <;> rfl

theorem asked_append (doc : Document) (t : Table) (n : Nat) (l₁ l₂ : List Selection) :
    asked doc t n (l₁ ++ l₂) = asked doc t n l₁ ++ asked doc t n l₂ := by
  cases n <;> simp [asked]

theorem askedOne_congr {doc : Document} (t : Table) {g g' : List Selection → List Asked} {x : Selection}
    (h : ∀ l, doc.nested? x = some l → g l = g' l) : askedOne doc t g x = askedOne doc t g' x := by
  cases x with
  | inline cond ds inner => exact h inner rfl
  | spread m ds =>
    rcases hf : doc.fragment? m with _ | f
    · simp only [askedOne, hf]
    · simp only [askedOne, hf]
      exact h f.selections (by simp [Document.nested?, hf])
  | field a name args ds sub => rfl

/-- A selection that fits the fuel asks the same fields with any more. -/
theorem asked_fuel_congr {doc : Document} (t : Table) :
    ∀ k {sels : List Selection}, doc.Fits k sels → ∀ m, k ≤ m → asked doc t m sels = asked doc t k sels := by
  intro k
  induction k with
  | zero =>
    intro sels h m _
    cases h
    rw [asked_nil, asked_nil]
  | succ k ih =>
    intro sels h m hkm
    obtain ⟨m, rfl⟩ : ∃ m', m = m' + 1 := ⟨m - 1, by omega⟩
    refine List.flatMap_congr fun x hx => askedOne_congr t fun l hl => ?_
    exact ih (h.nested hx hl) m (by omega)

/-- The selections asked under a key, of fields whose selections fit the
fuel, fit it. -/
theorem fits_selectionsUnder {doc : Document} {m : Nat} (key : String) :
    ∀ {items : List Asked}, (∀ it ∈ items, doc.Fits m it.selections) →
      doc.Fits m (items.flatMap (Asked.selectionsUnder key))
  | [], _ => Document.Fits.nil m
  | it :: items, h => by
    rw [List.flatMap_cons]
    refine Document.Fits.append ?_ (fits_selectionsUnder key fun it' hit' => h it' (List.mem_cons_of_mem it hit'))
    cases it with
    | column k => exact Document.Fits.nil m
    | relation k r args sub =>
      by_cases hk : k = key
      · simpa [Asked.selectionsUnder, Asked.selections, hk] using h _ List.mem_cons_self
      · simpa [Asked.selectionsUnder, hk] using Document.Fits.nil m

/-- The fields a selection asks, with any fuel past how deep it nests, have
selections that nest one level less deep. -/
theorem fits_asked {t : Table} {k n : Nat} {sels : List Selection} (hfits : c.document.Fits k sels) (hkn : k ≤ n) :
    ∀ it ∈ asked c.document t n sels, c.document.Fits (k - 1) it.selections := by
  rw [asked_fuel_congr t k hfits n hkn]
  exact c.asked_fits t k hfits

/-- Under each key, a selection asks of a table selections that nest one
level less deep than it does. -/
theorem fits_under {t : Table} {k n : Nat} {sels : List Selection} (hfits : c.document.Fits k sels) (hkn : k ≤ n)
    (key : String) : c.document.Fits (k - 1) ((asked c.document t n sels).flatMap (Asked.selectionsUnder key)) :=
  fits_selectionsUnder key (c.fits_asked hfits hkn)

/-- The first relation asked under a key is a relation asked under it. -/
theorem mem_relationKeys_of_findSome? {items : List Asked} {key : String}
    {x : Relation × List (String × Literal)} (h : items.findSome? (Asked.under? key) = some x) :
    key ∈ items.filterMap Asked.relationKey? := by
  obtain ⟨it, hit, hunder⟩ := List.exists_of_findSome?_eq_some h
  cases it with
  | column k => cases hunder
  | relation k r args sub =>
    have hk : k = key := by
      by_contra hk
      simp [Asked.under?, hk] at hunder
    exact List.mem_filterMap.mpr ⟨_, hit, by simp [Asked.relationKey?, hk]⟩

/-- A child spec made for a relation reads nothing yet. -/
theorem relationSpec_fresh {r : Relation} {args : List (String × Literal)} {spec₀ : LoadSpec}
    (h : c.relationSpec r args = .ok spec₀) : spec₀.columns = [] ∧ spec₀.relations = [] := by
  unfold relationSpec at h
  obtain ⟨u, -, h⟩ := Outcome.bind_eq_ok.mp h
  split at h <;> exact ⟨(LoadSpec.build_ok h).2.1, (LoadSpec.build_ok h).2.2.1⟩

/-- The spec a selection loads into a spec `s₀` fresh from its arguments,
at every level: all of `s₀` but its loads; the distinct keys of the columns
the selection asks of `s₀`'s table, in the order first asked; and under the
distinct response keys of the relations it asks, in the same order, the
relation of the first field asked under the key with a child loaded, from the
spec of that field's arguments, by the selections of every field asked under
the key, one after the other. -/
inductive Loaded (fuel : Nat) : LoadSpec → List Selection → LoadSpec → Prop
  | intro {s₀ : LoadSpec} {sels : List Selection} {relations : List (String × Relation × LoadSpec)} :
      relations.map (·.1) = ((asked c.document s₀.table fuel sels).filterMap Asked.relationKey?).eraseDups →
      (∀ key r child, (key, r, child) ∈ relations → ∃ args spec₀,
        (asked c.document s₀.table fuel sels).findSome? (Asked.under? key) = some (r, args) ∧
        c.relationSpec r args = .ok spec₀) →
      (∀ key r child args spec₀, (key, r, child) ∈ relations →
        (asked c.document s₀.table fuel sels).findSome? (Asked.under? key) = some (r, args) →
        c.relationSpec r args = .ok spec₀ →
        Loaded fuel spec₀ ((asked c.document s₀.table fuel sels).flatMap (Asked.selectionsUnder key)) child) →
      Loaded fuel s₀ sels
        { s₀ with columns := ((asked c.document s₀.table fuel sels).filterMap Asked.column?).eraseDups, relations }

/-- Some relation field of a selection asked of a table lies under more
than `n` relation fields, itself counted, the fields under one response key
taken together as collecting takes them: below the relation of the first,
with the selections of all. -/
inductive Deeper (fuel : Nat) : Nat → Table → List Selection → Prop
  | top {t : Table} {sels : List Selection} {key : String} :
      key ∈ (asked c.document t fuel sels).filterMap Asked.relationKey? → Deeper fuel 0 t sels
  | child {n : Nat} {t t' : Table} {sels : List Selection} {key : String} {r : Relation}
      {args : List (String × Literal)} :
      (asked c.document t fuel sels).findSome? (Asked.under? key) = some (r, args) →
      c.catalog.table? r.target = some t' →
      Deeper fuel n t' ((asked c.document t fuel sels).flatMap (Asked.selectionsUnder key)) →
      Deeper fuel (n + 1) t sels

/-- Every relation field of a selection asked of a table has arguments that
compile into a spec, at every level, the fields under one response key taken
together as collecting takes them. -/
inductive Compiles (fuel : Nat) : Table → List Selection → Prop
  | intro {t : Table} {sels : List Selection} :
      (∀ key r args sub, Asked.relation key r args sub ∈ asked c.document t fuel sels →
        ∃ spec₀, c.relationSpec r args = .ok spec₀) →
      (∀ key r args t', (asked c.document t fuel sels).findSome? (Asked.under? key) = some (r, args) →
        c.catalog.table? r.target = some t' →
        Compiles fuel t' ((asked c.document t fuel sels).flatMap (Asked.selectionsUnder key))) →
      Compiles fuel t sels

section Levels

variable {c} {n : Nat}

/-- A spec collected from the fields a selection asks, whose children load
what they are collected from, loads the selection. -/
theorem Collected.loaded {depth : Nat} {s₀ s : LoadSpec} {sels : List Selection}
    (h : c.Collected n depth s₀ (asked c.document s₀.table n sels) s)
    (hchildren : ∀ key r args spec₀ child, (asked c.document s₀.table n sels).findSome? (Asked.under? key) = some (r, args) →
      c.relationSpec r args = .ok spec₀ →
      c.collect n (depth + 1) spec₀ ((asked c.document s₀.table n sels).flatMap (Asked.selectionsUnder key)) = .ok child →
      c.Loaded n spec₀ ((asked c.document s₀.table n sels).flatMap (Asked.selectionsUnder key)) child) :
    c.Loaded n s₀ sels s := by
  have hnodup : (s.relations.map (·.1)).Nodup := h.keys ▸ List.nodup_eraseDups _
  -- each entry is the one the collection left under its key, keys being distinct
  have hentry : ∀ key r child, (key, r, child) ∈ s.relations → ∃ args spec₀,
      (asked c.document s₀.table n sels).findSome? (Asked.under? key) = some (r, args) ∧
      c.relationSpec r args = .ok spec₀ ∧
      c.collect n (depth + 1) spec₀ ((asked c.document s₀.table n sels).flatMap (Asked.selectionsUnder key)) =
        .ok child := by
    intro key r child hmem
    have hkey : key ∈ (asked c.document s₀.table n sels).filterMap Asked.relationKey? := by
      have := List.mem_map_of_mem (f := (·.1)) hmem
      rwa [h.keys, List.mem_eraseDups] at this
    obtain ⟨r', args, spec₀, child', hfirst, hspec, hchild, hmem'⟩ := h.entries key hkey
    cases List.inj_on_of_nodup_map hnodup hmem hmem' rfl
    exact ⟨args, spec₀, hfirst, hspec, hchild⟩
  rw [LoadSpec.eq_of_base h.base, h.columns]
  refine .intro h.keys (fun key r child hmem => ?_) fun key r child args spec₀ hmem hfirst hspec => ?_
  · obtain ⟨args, spec₀, hfirst, hspec, -⟩ := hentry key r child hmem
    exact ⟨args, spec₀, hfirst, hspec⟩
  · obtain ⟨args', spec₀', hfirst', hspec', hchild⟩ := hentry key r child hmem
    rw [hfirst] at hfirst'
    cases hfirst'
    rw [hspec] at hspec'
    cases hspec'
    exact hchildren key r args spec₀ child hfirst hspec hchild

/-- What a selection that fits collects, from a spec fresh from its
arguments, is the spec it loads. -/
theorem collect_loaded :
    ∀ k {sels : List Selection}, c.document.Fits k sels → k ≤ n → ∀ depth {s₀ s : LoadSpec},
      s₀.columns = [] → s₀.relations = [] → c.collect n depth s₀ sels = .ok s → c.Loaded n s₀ sels s := by
  -- on how deep the selection nests: the children nest one level less
  intro k
  induction k with
  | zero =>
    intro sels hfits _ depth s₀ s hcols hrels h
    cases hfits
    rw [collect_nil] at h
    cases h
    have hfold : (asked c.document s₀.table n []).foldlM (c.applyAsked (c.collect n) depth) s₀ = .ok s₀ := by
      rw [asked_nil]
      rfl
    refine (collected_foldlM hcols hrels hfold).loaded fun key r args spec₀ child hfirst _ _ => ?_
    simp [asked_nil] at hfirst
  | succ k ih =>
    intro sels hfits hkn depth s₀ s hcols hrels h
    rw [c.collect_eq_asked n (hfits.mono hkn)] at h
    refine (collected_foldlM hcols hrels h).loaded fun key r args spec₀ child _ hspec hchild => ?_
    obtain ⟨hcols₀, hrels₀⟩ := c.relationSpec_fresh hspec
    exact ih (c.fits_under hfits hkn key) (by omega) (depth + 1) hcols₀ hrels₀ hchild

/-- Merging more selections keeps a relation field too deep. -/
theorem Deeper.append_right {m : Nat} {t : Table} {l₁ : List Selection} (h : c.Deeper n m t l₁)
    (l₂ : List Selection) : c.Deeper n m t (l₁ ++ l₂) := by
  induction h generalizing l₂ with
  | @top t sels key hkey =>
    have hkey' : key ∈ (asked c.document t n (sels ++ l₂)).filterMap Asked.relationKey? := by
      rw [asked_append, List.filterMap_append]
      exact List.mem_append_left _ hkey
    exact .top hkey'
  | child hfirst htable _ ih =>
    refine .child (by rw [asked_append, List.findSome?_append, hfirst]; rfl) htable ?_
    rw [asked_append, List.flatMap_append]
    exact ih _

theorem Compiles.spec {t : Table} {sels : List Selection} (h : c.Compiles n t sels) {key : String} {r : Relation}
    {args : List (String × Literal)} {sub : List Selection}
    (hmem : Asked.relation key r args sub ∈ asked c.document t n sels) : ∃ spec₀, c.relationSpec r args = .ok spec₀ := by
  obtain ⟨hspecs, -⟩ := h
  exact hspecs key r args sub hmem

theorem Compiles.under {t t' : Table} {sels : List Selection} (h : c.Compiles n t sels) {key : String}
    {r : Relation} {args : List (String × Literal)}
    (hfirst : (asked c.document t n sels).findSome? (Asked.under? key) = some (r, args))
    (htable : c.catalog.table? r.target = some t') :
    c.Compiles n t' ((asked c.document t n sels).flatMap (Asked.selectionsUnder key)) := by
  obtain ⟨-, hchildren⟩ := h
  exact hchildren key r args t' hfirst htable

/-- The arguments of the first selections of a selection compile when those
of all of it do. -/
theorem Compiles.of_append {t : Table} {l₁ l₂ : List Selection} (h : c.Compiles n t (l₁ ++ l₂)) :
    c.Compiles n t l₁ := by
  generalize hl : l₁ ++ l₂ = l at h
  induction h generalizing l₁ l₂ with
  | @intro t l hspecs _ ih =>
    subst hl
    refine .intro (fun key r args sub hmem => hspecs key r args sub ?_) fun key r args t' hfirst htable => ?_
    · rw [asked_append]
      exact List.mem_append_left _ hmem
    · have hsplit : (asked c.document t n l₁).flatMap (Asked.selectionsUnder key) ++
          (asked c.document t n l₂).flatMap (Asked.selectionsUnder key) =
          (asked c.document t n (l₁ ++ l₂)).flatMap (Asked.selectionsUnder key) := by
        rw [asked_append, List.flatMap_append]
      exact ih key r args t' (by rw [asked_append, List.findSome?_append, hfirst]; rfl) htable hsplit

/-- A loaded spec with a relation field too deep for `m` levels does not fit
`m` levels. -/
theorem Loaded.not_within :
    ∀ {m : Nat} {t : Table} {sels : List Selection}, c.Deeper n m t sels →
      ∀ {s₀ s : LoadSpec}, s₀.table = t → c.Loaded n s₀ sels s → ¬ s.Within m := by
  intro m t sels hdeep
  -- on the chain of relation fields: the spec has an entry for each, down to the last
  induction hdeep with
  | top hkey =>
    intro s₀ s htable hloaded hwithin
    subst htable
    obtain ⟨hkeys, -, -⟩ := hloaded
    obtain ⟨hpos, -⟩ := hwithin
    have hne : _ ≠ [] := List.ne_nil_of_mem (hkeys ▸ List.mem_eraseDups.mpr hkey)
    exact absurd (hpos fun h => hne (List.map_eq_nil_iff.mpr h)) (lt_irrefl 0)
  | child hfirst htable _ ih =>
    intro s₀ s hs₀ hloaded hwithin
    subst hs₀
    obtain ⟨hkeys, hentries, hchildren⟩ := hloaded
    obtain ⟨-, hwithinChildren⟩ := hwithin
    obtain ⟨⟨key', r', child⟩, hmem, hkey'⟩ :=
      List.mem_map.mp (hkeys ▸ List.mem_eraseDups.mpr (mem_relationKeys_of_findSome? hfirst))
    cases hkey'
    obtain ⟨args', spec₀, hfirst', hspec⟩ := hentries _ _ _ hmem
    rw [hfirst] at hfirst'
    cases hfirst'
    have hspecTable := (c.relationSpec_ok hspec).1
    rw [htable] at hspecTable
    exact ih (Option.some.inj hspecTable).symm (hchildren _ _ _ _ _ hmem hfirst hspec) (hwithinChildren _ hmem)

end Levels

/-! ## Refusal for depth -/

/-- An outcome that is a value, or the refusal of a relation past the depth
budget, where `deep` holds of the budget. -/
def OkOrTooDeep {α : Type} (deep : Nat → Prop) (x : Outcome α) : Prop :=
  (∃ a, x = .ok a) ∨ ∃ B, c.depthBudget = some B ∧ deep B ∧ ∃ t r, x = .error (depthExceeded t r B)

section Refusal

variable {c} {n : Nat} {α β : Type} {deep : Nat → Prop}

theorem OkOrTooDeep.pure (a : α) : c.OkOrTooDeep deep (pure a) :=
  .inl ⟨a, rfl⟩

theorem OkOrTooDeep.bind {x : Outcome α} {f : α → Outcome β} (hx : c.OkOrTooDeep deep x)
    (hf : ∀ a, x = .ok a → c.OkOrTooDeep deep (f a)) : c.OkOrTooDeep deep (x >>= f) := by
  rcases hx with ⟨a, ha⟩ | ⟨B, hB, hdeep, t, r, herr⟩
  · rw [ha]
    exact hf a ha
  · exact .inr ⟨B, hB, hdeep, t, r, by rw [herr]; rfl⟩

theorem OkOrTooDeep.mono {deep' : Nat → Prop} {x : Outcome α} (h : c.OkOrTooDeep deep x)
    (hd : ∀ B, c.depthBudget = some B → deep B → deep' B) : c.OkOrTooDeep deep' x := by
  rcases h with hok | ⟨B, hB, hdeep, herr⟩
  · exact .inl hok
  · exact .inr ⟨B, hB, hd B hB hdeep, herr⟩

/-- The depth check passes, with a level left below the depth, or refuses at
a depth the budget has reached. -/
theorem checkDepth_cases (s : LoadSpec) (r : Relation) (depth : Nat) :
    (c.checkDepth s r depth = pure () ∧ ∀ B, c.depthBudget = some B → depth < B) ∨
      ∃ B, c.depthBudget = some B ∧ B - depth = 0 ∧
        c.checkDepth s r depth = .error (depthExceeded s.table.name r.name B) := by
  rcases hB : c.depthBudget with _ | B
  · exact .inl ⟨checkDepth_none hB s r depth, fun _ h => by cases h⟩
  · by_cases hdeep : depth + 1 > B
    · exact .inr ⟨B, rfl, by omega, by rw [checkDepth_some hB, if_pos hdeep]⟩
    · refine .inl ⟨by rw [checkDepth_some hB, if_neg hdeep], fun B' hB' => ?_⟩
      cases hB'
      omega

/-- The child under a key, collected from the fields asked under it among the
first ones a selection asks, gives a spec or a refusal for depth of a field
too deep, when the selection's children do and the budget leaves a level
below the depth. -/
theorem prefixChild_ok_or_too_deep {k depth : Nat} {s₀ : LoadSpec} {sels : List Selection} {p q : List Asked}
    (hcomp : c.Compiles n s₀.table sels) (hitems : asked c.document s₀.table n sels = p ++ q)
    (hfits : ∀ it ∈ asked c.document s₀.table n sels, c.document.Fits k it.selections)
    (hk : ∀ (spec₀ : LoadSpec) (l : List Selection), spec₀.columns = [] → spec₀.relations = [] →
      c.document.Fits k l → c.Compiles n spec₀.table l →
      c.OkOrTooDeep (fun B => c.Deeper n (B - (depth + 1)) spec₀.table l) (c.collect n (depth + 1) spec₀ l))
    (key : String) {r : Relation} {args : List (String × Literal)} {spec₀ : LoadSpec}
    (hfirst : p.findSome? (Asked.under? key) = some (r, args)) (hspec : c.relationSpec r args = .ok spec₀)
    (hroom : ∀ B, c.depthBudget = some B → depth < B) :
    c.OkOrTooDeep (fun B => c.Deeper n (B - depth) s₀.table sels)
      (c.collect n (depth + 1) spec₀ (p.flatMap (Asked.selectionsUnder key))) := by
  -- the fields asked so far under the key are the first of all those asked under it
  have hunion : p.flatMap (Asked.selectionsUnder key) ++ q.flatMap (Asked.selectionsUnder key) =
      (asked c.document s₀.table n sels).flatMap (Asked.selectionsUnder key) := by
    rw [hitems, List.flatMap_append]
  have hfirstAll : (asked c.document s₀.table n sels).findSome? (Asked.under? key) = some (r, args) := by
    rw [hitems, List.findSome?_append, hfirst]
    rfl
  obtain ⟨hcols₀, hrels₀⟩ := c.relationSpec_fresh hspec
  have htable := (c.relationSpec_ok hspec).1
  have hfitsSoFar : c.document.Fits k (p.flatMap (Asked.selectionsUnder key)) :=
    fits_selectionsUnder key fun it hit => hfits it (by rw [hitems]; exact List.mem_append_left q hit)
  have hcompAll := hcomp.under hfirstAll htable
  rw [← hunion] at hcompAll
  refine (hk spec₀ _ hcols₀ hrels₀ hfitsSoFar hcompAll.of_append).mono fun B hB hdeep => ?_
  -- a field too deep below the child is too deep below the selection, one level further
  have hdeepAll := hdeep.append_right (q.flatMap (Asked.selectionsUnder key))
  rw [hunion] at hdeepAll
  have hlevel : B - (depth + 1) + 1 = B - depth := by
    have := hroom B hB
    omega
  exact hlevel ▸ Deeper.child hfirstAll htable hdeepAll

/-- One asked field, folded into a spec collected from the fields asked
before it, gives a spec or a refusal for depth of a relation field too deep,
when the children of the selection, collected from the fields asked under a
key, do. -/
theorem applyAsked_ok_or_too_deep {k depth : Nat} {s₀ b : LoadSpec} {sels : List Selection} {p q : List Asked}
    {it : Asked} (hcomp : c.Compiles n s₀.table sels) (hitems : asked c.document s₀.table n sels = p ++ it :: q)
    (hcol : c.Collected n depth s₀ p b)
    (hfits : ∀ it ∈ asked c.document s₀.table n sels, c.document.Fits k it.selections)
    (hk : ∀ (spec₀ : LoadSpec) (l : List Selection), spec₀.columns = [] → spec₀.relations = [] →
      c.document.Fits k l → c.Compiles n spec₀.table l →
      c.OkOrTooDeep (fun B => c.Deeper n (B - (depth + 1)) spec₀.table l) (c.collect n (depth + 1) spec₀ l)) :
    c.OkOrTooDeep (fun B => c.Deeper n (B - depth) s₀.table sels) (c.applyAsked (c.collect n) depth b it) := by
  cases it with
  | column key => exact .pure _
  | relation key r args sub =>
    have hmem : Asked.relation key r args sub ∈ asked c.document s₀.table n sels := by
      rw [hitems]
      exact List.mem_append_right _ List.mem_cons_self
    have hsplit : asked c.document s₀.table n sels = (p ++ [Asked.relation key r args sub]) ++ q := by
      rw [hitems]
      simp
    rcases c.checkDepth_cases b r depth with ⟨hpass, hroom⟩ | ⟨B, hB, hzero, hfail⟩
    · simp only [applyAsked, hpass, pure_bind]
      by_cases hold : key ∈ p.filterMap Asked.relationKey?
      · -- a key asked before: the child under it goes on collecting
        obtain ⟨r₀, args₀, spec₀, child₀, hfirst, hspec, hchild₀, hmem₀⟩ := hcol.entries key hold
        have hnodup : (b.relations.map (·.1)).Nodup := hcol.keys ▸ List.nodup_eraseDups _
        have hrun := c.prefixChild_ok_or_too_deep hcomp hsplit hfits hk key
          (by simp [List.findSome?_append, hfirst]) hspec hroom
        simp only [List.flatMap_append, List.flatMap_cons, List.flatMap_nil, Asked.selectionsUnder, if_true,
          List.append_nil, collect_append, hchild₀] at hrun
        rw [c.relationEntry_of_mem hnodup hmem₀, pure_bind]
        exact OkOrTooDeep.bind hrun fun _ _ => .pure _
      · -- a new key: the spec of the field's arguments starts its child
        have hnot : key ∉ b.relations.map (·.1) := by
          rwa [hcol.keys, List.mem_eraseDups]
        obtain ⟨spec₀, hspec⟩ := hcomp.spec hmem
        have hrun := c.prefixChild_ok_or_too_deep hcomp hsplit hfits hk key
          (by simp [List.findSome?_append, findSome?_under_eq_none hold, Asked.under?]) hspec hroom
        simp only [List.flatMap_append, List.flatMap_cons, List.flatMap_nil, Asked.selectionsUnder, if_true,
          List.append_nil, selectionsUnder_eq_nil hold, List.nil_append] at hrun
        have hspec' : c.relationSpec r args = pure spec₀ := hspec
        rw [c.relationEntry_of_not_mem hnot, hspec', pure_bind, pure_bind]
        exact OkOrTooDeep.bind hrun fun _ _ => .pure _
    · -- refused here: the budget leaves no level for a relation field at this depth
      simp only [applyAsked, hfail]
      refine .inr ⟨B, hB, ?_, _, _, rfl⟩
      show c.Deeper n (B - depth) s₀.table sels
      rw [hzero]
      exact .top (List.mem_filterMap.mpr ⟨_, hmem, rfl⟩)

/-- Collecting a selection that fits, from a spec fresh from its arguments,
gives a spec, or refuses for depth a relation field too deep for the budget,
when the arguments of its relation fields compile. -/
theorem collect_ok_or_too_deep :
    ∀ k {sels : List Selection}, c.document.Fits k sels → k ≤ n → ∀ depth {s₀ : LoadSpec},
      s₀.columns = [] → s₀.relations = [] → c.Compiles n s₀.table sels →
      c.OkOrTooDeep (fun B => c.Deeper n (B - depth) s₀.table sels) (c.collect n depth s₀ sels) := by
  -- on how deep the selection nests: the children nest one level less
  intro k
  induction k with
  | zero =>
    intro sels hfits _ depth s₀ _ _ _
    cases hfits
    rw [collect_nil]
    exact .pure s₀
  | succ k ih =>
    intro sels hfits hkn depth s₀ hcols hrels hcomp
    rw [c.collect_eq_asked n (hfits.mono hkn)]
    -- on the fields asked so far, the last one folded in last
    have hfold : ∀ p q, asked c.document s₀.table n sels = p ++ q →
        c.OkOrTooDeep (fun B => c.Deeper n (B - depth) s₀.table sels)
          (p.foldlM (c.applyAsked (c.collect n) depth) s₀) := by
      intro p
      induction p using List.reverseRecOn with
      | nil => exact fun _ _ => .pure s₀
      | append_singleton p it ihp =>
        intro q hq
        rw [List.foldlM_append]
        refine (ihp (it :: q) (by simp [hq])).bind fun b hb => ?_
        simp only [List.foldlM_cons, List.foldlM_nil, bind_pure]
        have hitems : asked c.document s₀.table n sels = p ++ it :: q := by simp [hq]
        exact applyAsked_ok_or_too_deep hcomp hitems (collected_foldlM hcols hrels hb)
          (c.fits_asked hfits hkn) fun spec₀ l hcols₀ hrels₀ hfits₀ hcomp₀ =>
            ih hfits₀ (by omega) (depth + 1) hcols₀ hrels₀ hcomp₀
    simpa using hfold _ [] (List.append_nil _).symm

end Refusal

/-! ## What a selection loads -/

section Loads

variable {c} {n : Nat}

/-- A selection that fits the fuel, collected from a spec fresh from its
arguments with the arguments of its relation fields compiling, is refused for
depth when the budget is exceeded by some relation field, under more relation
fields, itself counted, than the budget leaves below the depth; otherwise it
is collected into the spec it loads, at every level. -/
theorem collect_loads {sels : List Selection} (hfits : c.document.Fits n sels) {s₀ : LoadSpec}
    (hcols : s₀.columns = []) (hrels : s₀.relations = []) (hcomp : c.Compiles n s₀.table sels) (depth : Nat) :
    (∀ B, c.depthBudget = some B → c.Deeper n (B - depth) s₀.table sels →
      ∃ t r, c.collect n depth s₀ sels = .error (depthExceeded t r B)) ∧
    ((∀ B, c.depthBudget = some B → ¬ c.Deeper n (B - depth) s₀.table sels) →
      ∃ s, c.collect n depth s₀ sels = .ok s ∧ c.Loaded n s₀ sels s) := by
  have hrun := c.collect_ok_or_too_deep n hfits le_rfl depth hcols hrels hcomp
  refine ⟨fun B hB hdeep => ?_, fun hshallow => ?_⟩
  · rcases hrun with ⟨s, hs⟩ | ⟨B', hB', -, t, r, herr⟩
    · -- a spec collected under the budget fits it, and the one loaded does not
      have hwithin := collect_within hB n depth s₀ sels hs (LoadSpec.Within.of_relations_nil hrels)
      exact absurd hwithin (Loaded.not_within hdeep rfl (c.collect_loaded n hfits le_rfl depth hcols hrels hs))
    · rw [hB] at hB'
      cases hB'
      exact ⟨t, r, herr⟩
  · rcases hrun with ⟨s, hs⟩ | ⟨B, hB, hdeep, -⟩
    · exact ⟨s, hs, c.collect_loaded n hfits le_rfl depth hcols hrels hs⟩
    · exact absurd hdeep (hshallow B hB)

end Loads

end SelectionContext

namespace CompiledSchema

/-- A root read whose own arguments compile collects its selection into the
spec they give. -/
theorem rootSpec_of_build (s : CompiledSchema) (t : Table) (call : RootCall) (paged : Bool) {spec : LoadSpec}
    (hbuild : LoadSpec.build s.registry t (callArgument call "where") (callArgument call "order_by")
      (callArgument call "offset") (if paged then callArgument call "limit" else .none) = .ok spec) :
    s.rootSpec t call paged = (s.selectionContext call).collect SelectionContext.collectFuel 0 spec call.selections := by
  have hbuild' : LoadSpec.build s.registry t (callArgument call "where") (callArgument call "order_by")
      (callArgument call "offset") (if paged then callArgument call "limit" else .none) = pure spec := hbuild
  simp only [rootSpec, hbuild', pure_bind]

/-- The spec of a root read whose own arguments compile, of a selection that
fits collection's fuel and whose relation fields' arguments compile: refused
for depth when the API has a depth budget that some relation field of the
selection exceeds, lying under more relation fields than the budget, itself
counted; otherwise the spec the selection loads, at every level, into the
spec of the read's arguments. -/
theorem rootSpec_loads (s : CompiledSchema) (t : Table) (call : RootCall) (paged : Bool) {spec : LoadSpec}
    (hbuild : LoadSpec.build s.registry t (callArgument call "where") (callArgument call "order_by")
      (callArgument call "offset") (if paged then callArgument call "limit" else .none) = .ok spec)
    (hfits : call.document.Fits SelectionContext.collectFuel call.selections)
    (hcomp : (s.selectionContext call).Compiles SelectionContext.collectFuel t call.selections) :
    (∀ B, s.depthBudget = some B →
      (s.selectionContext call).Deeper SelectionContext.collectFuel B t call.selections →
      ∃ t' r, s.rootSpec t call paged = .error (SelectionContext.depthExceeded t' r B)) ∧
    ((∀ B, s.depthBudget = some B →
      ¬ (s.selectionContext call).Deeper SelectionContext.collectFuel B t call.selections) →
      ∃ spec', s.rootSpec t call paged = .ok spec' ∧
        (s.selectionContext call).Loaded SelectionContext.collectFuel spec call.selections spec') := by
  obtain ⟨htable, hcols, hrels, -⟩ := LoadSpec.build_ok hbuild
  obtain ⟨hrefused, hloads⟩ := SelectionContext.collect_loads (c := s.selectionContext call) hfits hcols hrels
    (htable ▸ hcomp) 0
  rw [s.rootSpec_of_build t call paged hbuild]
  simp only [Nat.sub_zero, htable] at hrefused hloads
  exact ⟨hrefused, hloads⟩

end CompiledSchema

end TableGraph

namespace TableGraph.Samples

open GraphQL SelectionContext CompiledSchema

/-- An API over users and their posts with a budget of one relation level. -/
def postsReader : CompiledSchema :=
  { (default : CompiledSchema) with catalog := RelationGraph.writers, settings := { maxRelationDepth := 1 } }

/-- The users' ids and the ids of their posts. -/
def usersWithPosts : RootCall :=
  { rootType := "Query", field := "users", responseKey := "users", args := [], variableValues := [],
    document := default,
    selections := [.field none "id" [] [] none, .field none "posts" [] [] (some [.field none "id" [] [] none])] }

/-- The users' ids with the ids of their posts fit a budget of one level:
the read loads them. -/
theorem usersWithPosts_loads :
    LoadSpec.build postsReader.registry (RelationGraph.writers.tables[0]!) (callArgument usersWithPosts "where")
        (callArgument usersWithPosts "order_by") (callArgument usersWithPosts "offset") .none =
        .ok { table := RelationGraph.writers.tables[0]! } ∧
      usersWithPosts.document.Fits collectFuel usersWithPosts.selections ∧
      (postsReader.selectionContext usersWithPosts).Compiles collectFuel (RelationGraph.writers.tables[0]!)
        usersWithPosts.selections ∧
      ∃ spec, postsReader.rootSpec (RelationGraph.writers.tables[0]!) usersWithPosts false = .ok spec ∧
        (postsReader.selectionContext usersWithPosts).Loaded collectFuel
          { table := RelationGraph.writers.tables[0]! } usersWithPosts.selections spec := by
  have hbuild : LoadSpec.build postsReader.registry (RelationGraph.writers.tables[0]!)
      (callArgument usersWithPosts "where") (callArgument usersWithPosts "order_by")
      (callArgument usersWithPosts "offset") .none = .ok { table := RelationGraph.writers.tables[0]! } := by
    cbv
  have hfits : usersWithPosts.document.Fits collectFuel usersWithPosts.selections := by
    refine Document.Fits.mono (n := 2) ?_ (by decide)
    simp [Document.Fits, Document.nested?, usersWithPosts]
  -- users are asked their id and their posts, posts their id
  have hasked : asked (postsReader.selectionContext usersWithPosts).document (RelationGraph.writers.tables[0]!)
      collectFuel
      usersWithPosts.selections = [.column "id", .relation "posts" ((RelationGraph.writers.tables[0]!).relations[0]!)
        [] [.field none "id" [] [] none]] := by
    cbv
  have haskedPosts : asked (postsReader.selectionContext usersWithPosts).document (RelationGraph.writers.tables[1]!)
      collectFuel
      [.field none "id" [] [] none] = [.column "id"] := by
    cbv
  have htarget : (postsReader.selectionContext usersWithPosts).catalog.table?
      ((RelationGraph.writers.tables[0]!).relations[0]!).target = some (RelationGraph.writers.tables[1]!) := by
    cbv
  -- the one relation asked of users is their posts
  have hfirstUsers : ∀ key r args, (asked (postsReader.selectionContext usersWithPosts).document
      (RelationGraph.writers.tables[0]!) collectFuel usersWithPosts.selections).findSome? (Asked.under? key) =
        some (r, args) → key = "posts" ∧ r = (RelationGraph.writers.tables[0]!).relations[0]! ∧ args = [] := by
    intro key r args hfirst
    rw [hasked] at hfirst
    by_cases hk : "posts" = key
    · subst hk
      simp only [List.findSome?_cons, Asked.under?, ↓reduceIte, Option.some.injEq, Prod.mk.injEq] at hfirst
      exact ⟨rfl, hfirst.1.symm, hfirst.2.symm⟩
    · simp only [List.findSome?_cons, List.findSome?_nil, Asked.under?, hk, if_false] at hfirst
      cases hfirst
  have hunderPosts : (asked (postsReader.selectionContext usersWithPosts).document (RelationGraph.writers.tables[0]!)
      collectFuel usersWithPosts.selections).flatMap (Asked.selectionsUnder "posts") = [.field none "id" [] [] none] := by
    rw [hasked]
    rfl
  have hcomp : (postsReader.selectionContext usersWithPosts).Compiles collectFuel (RelationGraph.writers.tables[0]!)
      usersWithPosts.selections := by
    refine .intro (fun key r args sub hmem => ?_) fun key r args t' hfirst htable => ?_
    · simp only [hasked, List.mem_cons, reduceCtorEq, false_or, Asked.relation.injEq, List.not_mem_nil,
        or_false] at hmem
      obtain ⟨-, rfl, rfl, -⟩ := hmem
      exact ⟨{ table := RelationGraph.writers.tables[1]! }, by cbv⟩
    · obtain ⟨rfl, rfl, rfl⟩ := hfirstUsers key r args hfirst
      rw [htarget] at htable
      cases htable
      rw [hunderPosts]
      refine .intro (fun key r args sub hmem => ?_) fun key r args t' hfirst _ => ?_
      · rw [haskedPosts] at hmem
        simp at hmem
      · rw [haskedPosts] at hfirst
        simp [Asked.under?] at hfirst
  -- the posts, one level down, ask no relation
  have hshallow : ¬ (postsReader.selectionContext usersWithPosts).Deeper collectFuel 1
      (RelationGraph.writers.tables[0]!) usersWithPosts.selections := by
    intro hdeep
    cases hdeep with
    | child hfirst htable hchild =>
      obtain ⟨rfl, rfl, rfl⟩ := hfirstUsers _ _ _ hfirst
      rw [htarget] at htable
      cases htable
      rw [hunderPosts] at hchild
      cases hchild with
      | top hkey =>
        rw [haskedPosts] at hkey
        simp [Asked.relationKey?] at hkey
  obtain ⟨-, hloads⟩ := rootSpec_loads postsReader (RelationGraph.writers.tables[0]!) usersWithPosts false hbuild
    hfits hcomp
  refine ⟨hbuild, hfits, hcomp, hloads fun B hB => ?_⟩
  cases hB
  exact hshallow

end TableGraph.Samples
