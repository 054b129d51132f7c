import Mathlib
import TableGraph.Proofs.CatalogLookups
import TableGraph.Proofs.ExecutionSimulation

/-!
# The depth budget of a selection

An API built without a depth limit has one output type per table, and its
relation fields point back into the same types, so the types alone do not
stop a query from nesting relations without end. The selection is checked
instead while it is collected into a load spec: a relation field one level
past the budget is refused (`SelectionContext.checkDepth`). Collecting is
otherwise the same with a budget as without one, and this module compares
the two.

A spec is `Within n` when it follows relations at most `n` levels deep. The
budget only ever replaces an outcome by the depth refusal
(`collect_budget_cases`), and a budgeted collection that succeeds fits its
budget (`collect_within`). So the spec collected without a budget decides
what the budget does with a selection: a spec deeper than the budget is
refused for depth (`collect_budget_exceeded`), and a failure of the
unbudgeted collection stays that failure unless a relation field past the
budget is met before it. In particular the refusal is not the only error a
too-deep selection can get: an argument of a relation above the budget that
fails is reported first (`negative_offset_before_depth`).

The selection itself also tells: one whose fields named like relations nest
within the budget (`Document.Nests`) is never refused for depth, and is
collected as without a budget (`collect_budget_free`).

## Main results

* `collect_budget_cases` — a budget changes an outcome only into the depth
  refusal.
* `collect_within` — a budgeted collection that succeeds fits its budget.
* `collect_budget_exceeded` — a spec deeper than the budget is refused.
* `collect_budget_free` — a selection nesting within the budget is collected
  as without one.
-/

namespace TableGraph

open GraphQL

namespace Outcome

variable {ε α β : Type}

/-- Two folds whose steps agree, or whose first step fails with a failure
`P` accepts, agree, or the first fails so. -/
theorem foldlM_eq_or_error {xs : List α} {f g : β → α → Except ε β} (P : ε → Prop)
    (step : ∀ x ∈ xs, ∀ b, f b x = g b x ∨ ∃ e, P e ∧ f b x = .error e) (b : β) :
    xs.foldlM f b = xs.foldlM g b ∨ ∃ e, P e ∧ xs.foldlM f b = .error e := by
  induction xs generalizing b with
  | nil => exact .inl rfl
  | cons x xs ih =>
    simp only [List.foldlM_cons]
    rcases step x List.mem_cons_self b with heq | ⟨e, he, herr⟩
    · rw [← heq]
      rcases f b x with e | b₁
      · exact .inl rfl
      · exact ih (fun y hy => step y (List.mem_cons_of_mem x hy)) b₁
    · exact .inr ⟨e, he, by rw [herr]; rfl⟩

/-- Two folds whose steps agree on accumulators that `P` accepts, the first
keeping `P`, agree from such an accumulator. -/
theorem foldlM_congr_of_preserves {xs : List α} {f g : β → α → Except ε β} (P : β → Prop)
    (step : ∀ x ∈ xs, ∀ b, P b → f b x = g b x ∧ ∀ b', f b x = .ok b' → P b') :
    ∀ b, P b → xs.foldlM f b = xs.foldlM g b := by
  induction xs with
  | nil => intros; rfl
  | cons x xs ih =>
    intro b hb
    obtain ⟨heq, hkeep⟩ := step x List.mem_cons_self b hb
    simp only [List.foldlM_cons]
    rw [← heq]
    rcases hx : f b x with e | b₁
    · rfl
    · exact ih (fun y hy => step y (List.mem_cons_of_mem x hy)) b₁ (hkeep b₁ hx)

end Outcome

namespace LoadSpec

/-- A spec that follows relations at most `n` levels deep. -/
inductive Within : Nat → LoadSpec → Prop
  | intro {n : Nat} {s : LoadSpec} : (s.relations ≠ [] → 0 < n) →
      (∀ e ∈ s.relations, Within (n - 1) e.2.2) → Within n s

@[simp] theorem addColumn_relations (s : LoadSpec) (key : String) : (s.addColumn key).relations = s.relations := by
  unfold addColumn; split <;> rfl

namespace Within

variable {n : Nat} {s : LoadSpec}

theorem of_relations_nil (h : s.relations = []) : s.Within n :=
  .intro (fun hne => absurd h hne) (by simp [h])

theorem addColumn (h : s.Within n) (key : String) : (s.addColumn key).Within n := by
  obtain ⟨hpos, hchildren⟩ := h
  exact .intro (by simpa using hpos) (by simpa using hchildren)

/-- Following a relation to a spec one level shallower keeps a spec within
its depth, when there is a level to go down. -/
theorem setRelation (h : s.Within n) (hn : 0 < n) {key : String} {rel : Relation} {child : LoadSpec}
    (hchild : child.Within (n - 1)) : (s.setRelation key rel child).Within n := by
  obtain ⟨-, hchildren⟩ := h
  refine .intro (fun _ => hn) fun e he => ?_
  rcases mem_setRelation he with he | rfl
  · exact hchildren e he
  · exact hchild

end Within

end LoadSpec

/-! ## Selections that nest within a depth

A selection nests within `n` levels when every field named like a relation,
reached through fragments and at any depth below, has a level left for it.
The name alone decides, whatever table the field is selected on: a field
counts when some relation of the catalog has that name or that field name.
The selections of every field count one level deeper, a relation's or not,
so that fields merged under one response key always nest alike. -/

/-- Some relation of the catalog has this name or this field name. -/
def Catalog.RelationNamed (C : Catalog) (name : String) : Prop :=
  ∃ t ∈ C.tables, ∃ r ∈ t.relations, r.name = name ∨ r.fieldName = name

/-- The relation found under a name has that name or that field name. -/
theorem Table.relationFor?_named {t : Table} {key : String} {r : Relation} (h : t.relationFor? key = some r) :
    r.name = key ∨ r.fieldName = key := by
  unfold Table.relationFor? at h
  split at h
  · next r' hfind =>
    cases h
    exact .inl (by simpa using List.find?_some hfind)
  · exact .inr (by simpa using List.find?_some h)

namespace GraphQL

/-- Selections whose fields named by `relation` nest at most `n` levels
deep, through fragments and the selections of fields, with every selection
met on the way satisfying `ok`. -/
inductive Document.Nests (doc : Document) (relation : String → Prop) (ok : Selection → Prop) :
    Nat → List Selection → Prop
  | intro {n : Nat} {sels : List Selection} :
      (∀ x, doc.Reaches sels x → ok x) →
      (∀ x nd, doc.Reaches sels x → x.fieldNode? = some nd → relation nd.name → 0 < n) →
      (∀ x nd, doc.Reaches sels x → x.fieldNode? = some nd →
        Document.Nests doc relation ok (n - 1) (nd.selections.getD [])) →
      Document.Nests doc relation ok n sels

/-- What a member of the selections reaches, they reach. -/
theorem Document.Reaches.of_mem {doc : Document} {sels : List Selection} {x y : Selection} (hx : x ∈ sels)
    (h : doc.Reaches [x] y) : doc.Reaches sels y := by
  induction sels with
  | nil => cases hx
  | cons z rest ih =>
    rcases List.mem_cons.mp hx with rfl | hmem
    · cases h with
      | head => exact .head _ _
      | tail _ h => cases h
      | inline h => exact .inline h
      | spread hf h => exact .spread hf h
    · exact .tail z (ih hmem)

namespace Document.Nests

variable {doc : Document} {relation : String → Prop} {ok : Selection → Prop} {n : Nat} {sels : List Selection}

theorem of_reaches (h : doc.Nests relation ok n sels) {sels' : List Selection}
    (hsub : ∀ x, doc.Reaches sels' x → doc.Reaches sels x) : doc.Nests relation ok n sels' := by
  obtain ⟨hok, hrel, hfields⟩ := h
  exact .intro (fun x hx => hok x (hsub x hx)) (fun x nd hx => hrel x nd (hsub x hx))
    (fun x nd hx => hfields x nd (hsub x hx))

theorem ok_of_reaches (h : doc.Nests relation ok n sels) {x : Selection} (hx : doc.Reaches sels x) : ok x := by
  obtain ⟨hok, -, -⟩ := h
  exact hok x hx

/-- A field reached from the selections has a level left when it is named
like a relation, and its own selections nest one level less deep. -/
theorem field (h : doc.Nests relation ok n sels) {x : Selection} {nd : FieldNode} (hx : doc.Reaches sels x)
    (hnd : x.fieldNode? = some nd) :
    (relation nd.name → 0 < n) ∧ doc.Nests relation ok (n - 1) (nd.selections.getD []) := by
  obtain ⟨-, hrel, hfields⟩ := h
  exact ⟨hrel x nd hx hnd, hfields x nd hx hnd⟩

theorem head_field {a : Option String} {name : String} {args : List (String × Literal)} {ds : List DirectiveUse}
    {sub : Option (List Selection)} {rest : List Selection}
    (h : doc.Nests relation ok n (.field a name args ds sub :: rest)) :
    (relation name → 0 < n) ∧ doc.Nests relation ok (n - 1) (sub.getD []) :=
  h.field (.head _ rest) rfl

theorem tail {sel : Selection} {rest : List Selection} (h : doc.Nests relation ok n (sel :: rest)) :
    doc.Nests relation ok n rest :=
  h.of_reaches fun _ hx => .tail sel hx

theorem inline {cond : Option String} {ds : List DirectiveUse} {inner rest : List Selection}
    (h : doc.Nests relation ok n (.inline cond ds inner :: rest)) : doc.Nests relation ok n inner :=
  h.of_reaches fun _ hx => .inline hx

theorem spread {m : String} {ds : List DirectiveUse} {rest : List Selection} {f : Fragment}
    (h : doc.Nests relation ok n (.spread m ds :: rest)) (hf : doc.fragment? m = some f) :
    doc.Nests relation ok n f.selections :=
  h.of_reaches fun _ hx => .spread hf hx

/-- A member of the selections nests as they do. -/
theorem of_mem (h : doc.Nests relation ok n sels) {x : Selection} (hx : x ∈ sels) : doc.Nests relation ok n [x] :=
  h.of_reaches fun _ hy => .of_mem hx hy

/-- A selection that nests within some depth nests within any larger one. -/
theorem mono (h : doc.Nests relation ok n sels) {m : Nat} (hnm : n ≤ m) : doc.Nests relation ok m sels := by
  induction h generalizing m with
  | intro hok hrel _ ih =>
    exact .intro hok (fun x nd hx hnd hr => Nat.lt_of_lt_of_le (hrel x nd hx hnd hr) hnm)
      fun x nd hx hnd => ih x nd hx hnd (Nat.sub_le_sub_right hnm 1)

end Document.Nests

end GraphQL

namespace SelectionContext

/-! ## One step of collection

Collection takes one selection after the other (`collect_succ`); these
equations give the step of each form of selection, so that later proofs
never unfold `collectOne`. -/

section Steps

variable (c : SelectionContext) {k : Nat → LoadSpec → List Selection → Outcome LoadSpec} {depth : Nat}
  {s : LoadSpec}

theorem collect_succ (fuel : Nat) (sels : List Selection) :
    c.collect (fuel + 1) depth s sels = sels.foldlM (c.collectOne (c.collect fuel) depth) s := rfl

theorem collectOne_inline (cond : Option String) (ds : List DirectiveUse) (inner : List Selection) :
    c.collectOne k depth s (.inline cond ds inner) = k depth s inner := rfl

theorem collectOne_spread {n : String} {f : Fragment} (ds : List DirectiveUse) (hf : c.document.fragment? n = some f) :
    c.collectOne k depth s (.spread n ds) = k depth s f.selections := by
  simp only [collectOne, hf]

theorem collectOne_spread_missing {n : String} (ds : List DirectiveUse) (hf : c.document.fragment? n = none) :
    c.collectOne k depth s (.spread n ds) = .error ⟨.missingKey, "'" ++ n ++ "'"⟩ := by
  simp only [collectOne, hf]

variable {a : Option String} {name : String} {args : List (String × Literal)} {ds : List DirectiveUse}
  {sub : Option (List Selection)}

theorem collectOne_meta (hname : (name.isEmpty || name.startsWith "__") = true) :
    c.collectOne k depth s (.field a name args ds sub) = pure s := by
  simp only [collectOne, hname, if_true]

theorem collectOne_column (hname : (name.isEmpty || name.startsWith "__") = false) {col : Column}
    (hcol : s.table.columnFor? name = some col) :
    c.collectOne k depth s (.field a name args ds sub) = pure (s.addColumn col.name) := by
  simp only [collectOne, hname, hcol, Bool.false_eq_true, if_false]

theorem collectOne_unknown (hname : (name.isEmpty || name.startsWith "__") = false)
    (hcol : s.table.columnFor? name = none) (hrel : s.table.relationFor? name = none) :
    c.collectOne k depth s (.field a name args ds sub) = pure s := by
  simp only [collectOne, hname, hcol, hrel, Bool.false_eq_true, if_false]

theorem collectOne_relation (hname : (name.isEmpty || name.startsWith "__") = false)
    (hcol : s.table.columnFor? name = none) {r : Relation} (hrel : s.table.relationFor? name = some r) :
    c.collectOne k depth s (.field a name args ds sub) =
      (do c.checkDepth s r depth
          let entry ← c.relationEntry s (a.getD name) r args
          let child ← k (depth + 1) entry.2 (sub.getD [])
          pure (s.setRelation (a.getD name) entry.1 child)) := by
  simp only [collectOne, hname, hcol, hrel, Bool.false_eq_true, if_false]

end Steps

/-! ## The budget -/

theorem checkDepth_none {c : SelectionContext} (h : c.depthBudget = none) (s : LoadSpec) (r : Relation)
    (depth : Nat) : c.checkDepth s r depth = pure () := by
  simp [checkDepth, h]

theorem checkDepth_some {c : SelectionContext} {budget : Nat} (h : c.depthBudget = some budget) (s : LoadSpec)
    (r : Relation) (depth : Nat) :
    c.checkDepth s r depth =
      if depth + 1 > budget then .error (depthExceeded s.table.name r.name budget) else pure () := by
  simp [checkDepth, h]

/-- The entry a relation selection extends does not depend on the budget. -/
theorem relationEntry_budget (c : SelectionContext) (b : Option Nat) :
    ({ c with depthBudget := b } : SelectionContext).relationEntry = c.relationEntry := rfl

/-- A child spec made for a relation reads no relations yet. -/
theorem relationSpec_relations {c : SelectionContext} {r : Relation} {args : List (String × Literal)}
    {s : LoadSpec} (h : c.relationSpec r args = .ok s) : s.relations = [] := by
  unfold relationSpec at h
  obtain ⟨u, -, h⟩ := Outcome.bind_eq_ok.mp h
  split at h <;> exact (LoadSpec.build_ok h).2.2.1

/-- The child spec a relation selection extends: one the spec follows
already, or a new one that reads no relations. -/
theorem relationEntry_child {c : SelectionContext} {s : LoadSpec} {key : String} {r : Relation}
    {args : List (String × Literal)} {entry : Relation × LoadSpec} (h : c.relationEntry s key r args = .ok entry) :
    (key, entry) ∈ s.relations ∨ entry.2.relations = [] := by
  rcases hfind : s.relations.find? (·.1 == key) with _ | ⟨k, rel, child⟩
  · simp only [relationEntry, hfind] at h
    obtain ⟨child, hchild, h⟩ := Outcome.bind_eq_ok.mp h
    rw [← Outcome.pure_eq_ok.mp h]
    exact .inr (relationSpec_relations hchild)
  · simp only [relationEntry, hfind, Outcome.pure_eq_ok] at h
    have hk : k = key := by simpa using List.find?_some hfind
    rw [← h, ← hk]
    exact .inl (List.mem_of_find?_eq_some hfind)

section Budget

variable {c : SelectionContext} {budget : Nat} (hc : c.depthBudget = some budget)
include hc

/-- One selection changes, under a budget, what it gives only into the
refusal of a relation past the budget, when what it nests does. -/
theorem collectOne_budget_cases {k k' : Nat → LoadSpec → List Selection → Outcome LoadSpec}
    (hk : ∀ depth s sels, k depth s sels = k' depth s sels ∨
      ∃ t r, k depth s sels = .error (depthExceeded t r budget)) (depth : Nat) (s : LoadSpec) (sel : Selection) :
    c.collectOne k depth s sel = ({ c with depthBudget := none } : SelectionContext).collectOne k' depth s sel ∨
      ∃ t r, c.collectOne k depth s sel = .error (depthExceeded t r budget) := by
  cases sel with
  | inline cond ds inner => exact hk depth s inner
  | spread n ds =>
    rcases hf : c.document.fragment? n with _ | f
    · left
      rw [collectOne_spread_missing _ ds hf, collectOne_spread_missing { c with depthBudget := none } ds hf]
    · rw [collectOne_spread _ ds hf, collectOne_spread { c with depthBudget := none } ds hf]
      exact hk depth s f.selections
  | field a name args ds sub =>
    cases hname : (name.isEmpty || name.startsWith "__")
    · rcases hcol : s.table.columnFor? name with _ | col
      · rcases hrel : s.table.relationFor? name with _ | r
        · left
          rw [collectOne_unknown _ hname hcol hrel, collectOne_unknown _ hname hcol hrel]
        · rw [collectOne_relation _ hname hcol hrel, collectOne_relation { c with depthBudget := none } hname hcol hrel,
            checkDepth_some hc, checkDepth_none rfl, relationEntry_budget c none]
          -- past the budget the relation is refused; otherwise both sides go on alike
          by_cases hdeep : depth + 1 > budget
          · exact .inr ⟨_, _, by simp only [hdeep, if_true]; rfl⟩
          simp only [hdeep, if_false, pure_bind]
          rcases c.relationEntry s (a.getD name) r args with e | entry
          · exact .inl rfl
          simp only [bind, Except.bind]
          rcases hk (depth + 1) entry.2 (sub.getD []) with heq | ⟨t, r', herr⟩
          · rw [← heq]
            exact .inl rfl
          · exact .inr ⟨t, r', by rw [herr]⟩
      · left
        rw [collectOne_column _ hname hcol, collectOne_column _ hname hcol]
    · left
      rw [collectOne_meta _ hname, collectOne_meta _ hname]

/-- A budget changes what collecting a selection gives only into the
refusal of a relation past the budget. -/
theorem collect_budget_cases :
    ∀ fuel depth s sels, c.collect fuel depth s sels = ({ c with depthBudget := none } : SelectionContext).collect
        fuel depth s sels ∨ ∃ t r, c.collect fuel depth s sels = .error (depthExceeded t r budget) := by
  intro fuel
  -- on the fuel: what a selection nests is collected with one unit less
  induction fuel with
  | zero => intros; exact .inl rfl
  | succ fuel ih =>
    intro depth s sels
    rw [collect_succ, collect_succ]
    rcases Outcome.foldlM_eq_or_error (fun e => ∃ t r, e = depthExceeded t r budget)
        (fun sel _ b => (collectOne_budget_cases hc ih depth b sel).imp_right
          fun ⟨t, r, h⟩ => ⟨_, ⟨t, r, rfl⟩, h⟩) s with heq | ⟨e, ⟨t, r, rfl⟩, herr⟩
    · exact .inl heq
    · exact .inr ⟨t, r, herr⟩

/-- One budgeted selection keeps a spec within the budget, less the depth it
is collected at, when what it nests does. -/
theorem collectOne_within {k : Nat → LoadSpec → List Selection → Outcome LoadSpec}
    (hk : ∀ depth s sels {s'}, k depth s sels = .ok s' → s.Within (budget - depth) → s'.Within (budget - depth))
    (depth : Nat) (s : LoadSpec) (sel : Selection) {s' : LoadSpec} (h : c.collectOne k depth s sel = .ok s')
    (hs : s.Within (budget - depth)) : s'.Within (budget - depth) := by
  cases sel with
  | inline cond ds inner => exact hk depth s inner h hs
  | spread n ds =>
    rcases hf : c.document.fragment? n with _ | f
    · rw [collectOne_spread_missing _ ds hf] at h
      cases h
    · rw [collectOne_spread _ ds hf] at h
      exact hk depth s _ h hs
  | field a name args ds sub =>
    cases hname : (name.isEmpty || name.startsWith "__")
    · rcases hcol : s.table.columnFor? name with _ | col
      · rcases hrel : s.table.relationFor? name with _ | r
        · rw [collectOne_unknown _ hname hcol hrel] at h
          rw [← Outcome.pure_eq_ok.mp h]
          exact hs
        · rw [collectOne_relation _ hname hcol hrel, checkDepth_some hc] at h
          -- the check passed, so there is a level left below this one
          have hroom : depth + 1 ≤ budget := by
            by_contra hdeep
            rw [if_pos (by omega)] at h
            cases h
          rw [if_neg (by omega), pure_bind] at h
          obtain ⟨entry, hentry, h⟩ := Outcome.bind_eq_ok.mp h
          obtain ⟨child, hchild, h⟩ := Outcome.bind_eq_ok.mp h
          have hentryWithin : entry.2.Within (budget - (depth + 1)) := by
            rcases relationEntry_child hentry with hmem | hnil
            · obtain ⟨-, hchildren⟩ := hs
              simpa [Nat.sub_sub] using hchildren _ hmem
            · exact .of_relations_nil hnil
          have hchildWithin := hk (depth + 1) entry.2 _ hchild hentryWithin
          rw [← Outcome.pure_eq_ok.mp h]
          refine hs.setRelation (by omega) ?_
          simpa [Nat.sub_sub] using hchildWithin
      · rw [collectOne_column _ hname hcol] at h
        rw [← Outcome.pure_eq_ok.mp h]
        exact hs.addColumn _
    · rw [collectOne_meta _ hname] at h
      rw [← Outcome.pure_eq_ok.mp h]
      exact hs

/-- A budgeted collection that succeeds gives a spec within the budget, less
the depth it starts at, when the spec it starts from is. -/
theorem collect_within :
    ∀ fuel depth s sels {s'}, c.collect fuel depth s sels = .ok s' → s.Within (budget - depth) →
      s'.Within (budget - depth) := by
  intro fuel
  -- on the fuel, each selection at one depth keeping the spec within the budget
  induction fuel with
  | zero =>
    intro depth s sels s' h hs
    rw [collect] at h
    cases h
    exact hs
  | succ fuel ih =>
    intro depth s sels s' h hs
    exact Outcome.foldlM_preserves (fun s₁ => s₁.Within (budget - depth))
      (fun sel _ s₁ s₂ hs₁ hstep => collectOne_within hc ih depth s₁ sel hstep hs₁) hs h

/-- A selection whose spec, collected without a budget, follows relations
deeper than the budget is refused for depth. -/
theorem collect_budget_exceeded {fuel depth : Nat} {s s' : LoadSpec} {sels : List Selection}
    (h : ({ c with depthBudget := none } : SelectionContext).collect fuel depth s sels = .ok s')
    (hdeep : ¬ s'.Within (budget - depth)) (hs : s.Within (budget - depth)) :
    ∃ t r, c.collect fuel depth s sels = .error (depthExceeded t r budget) := by
  rcases collect_budget_cases hc fuel depth s sels with heq | hrefused
  · exact absurd (collect_within hc fuel depth s sels (heq.trans h) hs) hdeep
  · exact hrefused

/-- One selection whose fields named like relations nest within the budget,
less the depth it is collected at, is collected as without a budget, into a
spec whose tables are the catalog's, when what it nests is. -/
theorem collectOne_budget_free {ok : Selection → Prop} {k k' : Nat → LoadSpec → List Selection → Outcome LoadSpec}
    (hk : ∀ depth s sels, c.document.Nests c.catalog.RelationNamed ok (budget - depth) sels →
      s.Resolves c.catalog → k depth s sels = k' depth s sels)
    (depth : Nat) (s : LoadSpec) (sel : Selection)
    (hsel : c.document.Nests c.catalog.RelationNamed ok (budget - depth) [sel]) (hs : s.Resolves c.catalog) :
    c.collectOne k depth s sel = ({ c with depthBudget := none } : SelectionContext).collectOne k' depth s sel := by
  cases sel with
  | inline cond ds inner => exact hk depth s inner hsel.inline hs
  | spread n ds =>
    rcases hf : c.document.fragment? n with _ | f
    · rw [collectOne_spread_missing _ ds hf, collectOne_spread_missing { c with depthBudget := none } ds hf]
    · rw [collectOne_spread _ ds hf, collectOne_spread { c with depthBudget := none } ds hf]
      exact hk depth s _ (hsel.spread hf) hs
  | field a name args ds sub =>
    cases hname : (name.isEmpty || name.startsWith "__")
    · rcases hcol : s.table.columnFor? name with _ | col
      · rcases hrel : s.table.relationFor? name with _ | r
        · rw [collectOne_unknown _ hname hcol hrel, collectOne_unknown _ hname hcol hrel]
        · obtain ⟨hpos, hsub⟩ := hsel.head_field
          have hr := Table.relationFor?_mem hrel
          -- the field is named like a relation of a table of the catalog, so a level is left for it
          have hroom : depth + 1 ≤ budget := by
            obtain ⟨htable, -⟩ := hs
            have := hpos ⟨s.table, htable, r, hr, Table.relationFor?_named hrel⟩
            omega
          rw [collectOne_relation _ hname hcol hrel,
            collectOne_relation { c with depthBudget := none } hname hcol hrel,
            checkDepth_some hc, checkDepth_none rfl, relationEntry_budget c none, if_neg (by omega)]
          rcases hentry : c.relationEntry s (a.getD name) r args with e | entry
          · rfl
          obtain ⟨-, -, hentryRes⟩ := relationEntry_ok hs hr hentry
          simp only [bind, Except.bind]
          rw [hk (depth + 1) entry.2 _ (by simpa [Nat.sub_sub] using hsub) hentryRes]
      · rw [collectOne_column _ hname hcol, collectOne_column _ hname hcol]
    · rw [collectOne_meta _ hname, collectOne_meta _ hname]

/-- A selection whose fields named like relations nest within the budget,
less the depth it starts at, is collected as without a budget, from a spec
whose tables are the catalog's. -/
theorem collect_budget_free {ok : Selection → Prop} :
    ∀ fuel depth s sels, c.document.Nests c.catalog.RelationNamed ok (budget - depth) sels →
      s.Resolves c.catalog →
      c.collect fuel depth s sels = ({ c with depthBudget := none } : SelectionContext).collect fuel depth s sels := by
  intro fuel
  -- on the fuel, each selection at one depth keeping the spec's tables the catalog's
  induction fuel with
  | zero => intros; rfl
  | succ fuel ih =>
    intro depth s sels hsels hs
    rw [collect_succ, collect_succ]
    refine Outcome.foldlM_congr_of_preserves (fun s₁ => s₁.Resolves c.catalog)
      (fun sel hsel s₁ hs₁ => ⟨?_, fun s₂ h₂ => ?_⟩) s hs
    · exact collectOne_budget_free hc ih depth s₁ sel (hsels.of_mem hsel) hs₁
    · exact (collectOne_resolves c (collect_resolves c fuel) depth s₁ sel h₂ hs₁).1

end Budget

/-- Under a budget of one level, posts with their author and the author's
posts nest three levels deep, yet the selection is refused for the negative
offset of its first relation, read before the relations below it are met. -/
theorem negative_offset_before_depth :
    ({ catalog := RelationGraph.writers, registry := {}, document := default, variableValues := []
       depthBudget := some 1, plain := resolverInput } : SelectionContext).collect collectFuel 0
      { table := RelationGraph.writers.tables[0]! }
      [.field none "posts" [("offset", .int "-1")] []
        (some [.field none "author" [] [] (some [.field none "posts" [] [] (some [.field none "id" [] [] none])])])] =
      .error (.validation "offset must be non-negative") := by
  cbv

end SelectionContext

end TableGraph
