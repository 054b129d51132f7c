import Mathlib
import TableGraph.Proofs.ChildRows
import TableGraph.Proofs.FailedMutations

/-!
# Loading a relation parent by parent

A relation is loaded for all its parents with one read (`ChildRows`), and
the children read then have their own relations loaded, again with one read
per relation. This module shows that the result is what loading each parent
alone would give, at every depth, and draws the two consequences for a
relation to many rows that reads a page of children:

* the store may number each parent's children with a window function, or the
  loader may count them: every parent is given the same rows;
* the rows a parent is given are the page (offset, then limit) of the rows
  the relation gives it with no page.

`Batched F P` carries the argument: a load of many rows succeeds with exactly
what it gives each row alone, and fails only where it fails for some row
alone. It is closed under running loads one after another (`Batched.bind`,
`batched_foldlM`), so a relation step that goes parent by parent
(`relationStep_batched`) gives, by induction on the depth, the whole load
(`loadRelations_batched`). Comparing two loads, or a load and its page, then
comes down to one parent and one key, where `ChildRows` has done the work.

What loading assumes of the store is `LoadSound`: every child table is
`ChildSound` for the keys of the parents it is read for, at every level. The
sample at the end discharges it for comments of the seeded blog. Among those
assumptions, a table read with no child order must be stored in key order:
a window with no order numbers rows by primary key, counting by the order
they are read in, and notes stored out of key order give an owner different
first notes on the two paths (`notes_windows_differ`).

## Main results

* `loadRelations_succ` — following relations one level deeper is a fold of
  `relationStep` over the relations of the spec.
* `relationStep_batched`, `loadRelations_batched` — a relation step and a
  whole load go parent by parent.
* `relationStep_windows`, `loadRelations_windows` — window functions change
  neither what a load gives nor whether it succeeds.
* `relationStep_paged` — a paged relation to many rows gives each parent the
  same rows on both paths, and the page of the rows it gives unpaged.
-/

namespace TableGraph.LoadSpec

/-- A spec with its page taken off: no offset and no limit. -/
def unpaged (s : LoadSpec) : LoadSpec := { s with offset := none, limit := none }

end TableGraph.LoadSpec

namespace TableGraph.Store

/-! ## One relation step -/

/-- One step of collecting parent keys: a key with a null part, or one equal
as a key to a key already taken, is left out. -/
def parentKeyStep (r : Relation) (ks : List (List Value)) (p : LoadedRow) : List (List Value) :=
  if (keyOf p.values r.localKeys).any (· == .none) || ks.any (keyEq (keyOf p.values r.localKeys)) then ks
  else ks ++ [keyOf p.values r.localKeys]

/-- The distinct keys of parent rows along a relation, in order of first
appearance. -/
def parentKeysOf (r : Relation) (rows : List LoadedRow) : List (List Value) :=
  rows.foldl (parentKeyStep r) []

/-- A parent row with the rows of a relation appended under its key. -/
def extend (key : String) (M : LoadedRow → List LoadedRow) (p : LoadedRow) : LoadedRow :=
  { p with related := p.related ++ [(key, M p)] }

/-- The children matched to a parent: those whose remote key equals its
local key, at most one for a relation to one row. -/
def matchedFor (r : Relation) (children : List LoadedRow) (p : LoadedRow) : List LoadedRow :=
  let matched := children.filter (matchesKey r (keyOf p.values r.localKeys))
  if r.isMany then matched else matched.take 1

/-- The children a relation reads for parent rows, with their own relations:
none without a parent key, else one read for all the keys. -/
def childrenFor (db : Database) (windows : Bool) (fuel : Nat) (r : Relation) (child : LoadSpec)
    (rows : List LoadedRow) : Outcome (List LoadedRow) :=
  if (parentKeysOf r rows).isEmpty then pure [] else do
    let cs ← fetchChildren db windows r child (parentKeysOf r rows)
    loadRelations db windows fuel child cs

/-- Loads one relation for parent rows: the children of all their keys, and
each parent's matches appended under the relation's key. -/
def relationStep (db : Database) (windows : Bool) (fuel : Nat) (rows : List LoadedRow) (key : String)
    (r : Relation) (child : LoadSpec) : Outcome (List LoadedRow) := do
  let parentKeys := parentKeysOf r rows
  let children ← if parentKeys.isEmpty then pure [] else do
    let cs ← fetchChildren db windows r child parentKeys
    loadRelations db windows fuel child cs
  pure (rows.map (extend key (matchedFor r children)))

/-- Following relations one level deeper is a fold of relation steps over
the relations of the spec. -/
theorem loadRelations_succ (db : Database) (windows : Bool) (fuel : Nat) (s : LoadSpec) (rows : List LoadedRow) :
    loadRelations db windows (fuel + 1) s rows =
      s.relations.foldlM (fun rows e => relationStep db windows fuel rows e.1 e.2.1 e.2.2) rows := rfl

theorem relationStep_eq (db : Database) (windows : Bool) (fuel : Nat) (rows : List LoadedRow) (key : String)
    (r : Relation) (child : LoadSpec) :
    relationStep db windows fuel rows key r child =
      childrenFor db windows fuel r child rows >>= fun children =>
        pure (rows.map (extend key (matchedFor r children))) := by
  unfold relationStep childrenFor
  dsimp only
  split
  · rfl
  · simp only [bind_assoc]

@[simp] theorem extend_values (key : String) (M : LoadedRow → List LoadedRow) (p : LoadedRow) :
    (extend key M p).values = p.values := rfl

/-! ## The keys of the parents -/

section ParentKeys

variable {r : Relation}

/-- A key collected is one taken before, or the key of a parent, with no
null part. -/
theorem mem_foldl_parentKeyStep {rows : List LoadedRow} {ks : List (List Value)} {k : List Value}
    (h : k ∈ rows.foldl (parentKeyStep r) ks) :
    k ∈ ks ∨ ∃ p ∈ rows, k = keyOf p.values r.localKeys ∧ k.any (· == .none) = false := by
  induction rows generalizing ks with
  | nil => exact .inl h
  | cons p rows ih =>
    rcases ih h with hk | ⟨q, hq, rfl, hnull⟩
    · unfold parentKeyStep at hk
      split at hk
      · exact .inl hk
      · rcases List.mem_append.mp hk with hk | hk
        · exact .inl hk
        · -- the key of `p`, taken because it has no null part
          rw [List.mem_singleton] at hk
          subst hk
          refine .inr ⟨p, List.mem_cons_self, rfl, ?_⟩
          simp_all
    · exact .inr ⟨q, List.mem_cons_of_mem _ hq, rfl, hnull⟩

/-- Keys taken are never dropped. -/
theorem mem_foldl_parentKeyStep_of_mem {rows : List LoadedRow} {ks : List (List Value)} {k : List Value}
    (hk : k ∈ ks) : k ∈ rows.foldl (parentKeyStep r) ks := by
  induction rows generalizing ks with
  | nil => exact hk
  | cons p rows ih =>
    apply ih
    unfold parentKeyStep
    split
    · exact hk
    · exact List.mem_append_left _ hk

/-- The key of every parent without a null part is collected, or a key equal
to it as a key. -/
theorem exists_parentKey {rows : List LoadedRow} {K : List (List Value)} {p : LoadedRow} (hp : p ∈ rows)
    (hnull : (keyOf p.values r.localKeys).any (· == .none) = false) :
    ∃ k ∈ rows.foldl (parentKeyStep r) K, k = keyOf p.values r.localKeys ∨
      keyEq (keyOf p.values r.localKeys) k = true := by
  induction rows generalizing K with
  | nil => simp at hp
  | cons q rows ih =>
    rcases List.mem_cons.mp hp with rfl | hp
    · rw [List.foldl_cons]
      unfold parentKeyStep
      split
      case isTrue h =>
        -- left out: an equal key was taken before
        rw [hnull, Bool.false_or, List.any_eq_true] at h
        obtain ⟨k, hk, heq⟩ := h
        exact ⟨k, mem_foldl_parentKeyStep_of_mem hk, .inr heq⟩
      case isFalse =>
        exact ⟨_, mem_foldl_parentKeyStep_of_mem (List.mem_append_right _ (List.mem_singleton_self _)), .inl rfl⟩
    · exact ih hp

theorem parentKeysOf_single (p : LoadedRow) :
    parentKeysOf r [p] =
      if (keyOf p.values r.localKeys).any (· == .none) then [] else [keyOf p.values r.localKeys] := by
  simp [parentKeysOf, parentKeyStep]

end ParentKeys

/-! ## Keys that match no child -/

theorem beq_none_iff {v : Value} : (v == Value.none) = true ↔ v = .none := by
  cases v <;> simp [BEq.beq, Value.beq]

theorem keyValueEq_none_right (x : Value) : keyValueEq x .none = (x == .none) := by
  cases x <;> rfl

theorem keyValueEq_none_left (y : Value) : keyValueEq .none y = (Value.none == y) := by
  cases y <;> rfl

/-- Values equal as keys are both null or both not. -/
theorem keyValueEq_null {x y : Value} (h : keyValueEq x y = true) : (x == .none) = (y == .none) := by
  by_cases hx : x = .none
  · subst hx
    rw [keyValueEq_none_left] at h
    have hy : y = .none := by
      cases y <;> simp_all [BEq.beq, Value.beq]
    simp [hy]
  · by_cases hy : y = .none
    · subst hy
      rw [keyValueEq_none_right, beq_none_iff] at h
      exact absurd h hx
    · rw [Bool.eq_iff_iff, beq_none_iff, beq_none_iff]
      exact ⟨fun h' => absurd h' hx, fun h' => absurd h' hy⟩

theorem keyEq_cons {x y : Value} {xs ys : List Value} :
    keyEq (x :: xs) (y :: ys) = (keyValueEq x y && keyEq xs ys) := by
  simp only [keyEq, List.length_cons, List.zip_cons_cons, List.all_cons]
  cases keyValueEq x y <;> simp

/-- Keys equal as keys have a null part alike. -/
theorem keyEq_null {a b : List Value} (h : keyEq a b = true) :
    a.any (· == .none) = b.any (· == .none) := by
  induction a generalizing b with
  | nil =>
    cases b with
    | nil => rfl
    | cons y ys => simp [keyEq] at h
  | cons x xs ih =>
    cases b with
    | nil => simp [keyEq] at h
    | cons y ys =>
      rw [keyEq_cons, Bool.and_eq_true] at h
      simp only [List.any_cons, keyValueEq_null h.1, ih h.2]

/-- A child that matches a key with no null part matches no key with one. -/
theorem matchesKey_eq_false_of_null {r : Relation} {k k' : List Value} {c : LoadedRow}
    (hk : matchesKey r k c = true) (hnull : k.any (· == .none) = false)
    (hnull' : k'.any (· == .none) = true) : matchesKey r k' c = false := by
  by_contra h
  have h₁ := keyEq_null hk
  have h₂ := keyEq_null (Bool.eq_true_of_not_eq_false h)
  rw [h₁, hnull] at h₂
  rw [hnull'] at h₂
  cases h₂

/-! ## Loads that go parent by parent -/

/-- A load keeps the values of the rows it is given, in order. -/
def KeepsValues (F : List LoadedRow → Outcome (List LoadedRow)) : Prop :=
  ∀ L L', F L = .ok L' → L'.map (·.values) = L.map (·.values)

/-- A load of many rows goes row by row: what it gives is what it gives each
row alone, and it fails only where it fails for some row alone. `P` is what
is known of the values of the rows it is given. -/
structure Batched (F : List LoadedRow → Outcome (List LoadedRow)) (P : Row → Prop) : Prop where
  ok : ∀ L L', (∀ p ∈ L, P p.values) → F L = .ok L' → List.Forall₂ (fun p q => F [p] = .ok [q]) L L'
  error : ∀ L e, (∀ p ∈ L, P p.values) → F L = .error e → ∃ p ∈ L, ∃ e', F [p] = .error e'

section Batched

variable {F G : List LoadedRow → Outcome (List LoadedRow)} {P : Row → Prop}

/-- The rows a load that keeps values gives have the values of the rows it
was given. -/
theorem KeepsValues.values {L L' : List LoadedRow} (hF : KeepsValues F) (h : F L = .ok L')
    (hL : ∀ p ∈ L, P p.values) : ∀ q ∈ L', P q.values := by
  intro q hq
  have hmem : q.values ∈ L.map (·.values) := hF L L' h ▸ List.mem_map_of_mem hq
  obtain ⟨p, hp, hpq⟩ := List.mem_map.mp hmem
  exact hpq ▸ hL p hp

theorem KeepsValues.single {p q : LoadedRow} (hF : KeepsValues F) (h : F [p] = .ok [q]) :
    q.values = p.values := by
  simpa using hF [p] [q] h

/-- A load that goes row by row succeeds with exactly the rows it gives the
rows alone. -/
theorem Batched.ok_iff (hF : Batched F P) {L L' : List LoadedRow} (hL : ∀ p ∈ L, P p.values) :
    F L = .ok L' ↔ List.Forall₂ (fun p q => F [p] = .ok [q]) L L' := by
  refine ⟨hF.ok L L' hL, fun h => ?_⟩
  cases hFL : F L with
  | error e =>
    obtain ⟨p, hp, e', hpe⟩ := hF.error L e hL hFL
    obtain ⟨q, -, hpq⟩ := exists_of_forall₂_left h hp
    rw [hpe] at hpq
    cases hpq
  | ok L₀ =>
    -- each row alone gives one answer, so the two lists agree
    have hunique : Relator.RightUnique (fun p q => F [p] = .ok [q]) := by
      intro p q q' h₁ h₂
      rw [h₁] at h₂
      simpa using h₂
    rw [List.right_unique_forall₂' hunique (hF.ok L L₀ hL hFL) h]

/-- A load that goes row by row fails where it fails for one of the rows. -/
theorem Batched.error_of_mem (hF : Batched F P) {L : List LoadedRow} (hL : ∀ p ∈ L, P p.values)
    {p : LoadedRow} (hp : p ∈ L) {e : Failure} (he : F [p] = .error e) : ∃ e', F L = .error e' := by
  cases hFL : F L with
  | error e' => exact ⟨e', rfl⟩
  | ok L' =>
    obtain ⟨q, -, hpq⟩ := exists_of_forall₂_left (hF.ok L L' hL hFL) hp
    rw [he] at hpq
    cases hpq

/-- A load that goes row by row and keeps values gives, for the rows a test
of their values keeps, the rows the same test keeps. -/
theorem Batched.filter (hF : Batched F P) (hkeep : KeepsValues F) {L L' : List LoadedRow}
    (hL : ∀ p ∈ L, P p.values) (h : F L = .ok L') (m : Row → Bool) :
    F (L.filter (m ·.values)) = .ok (L'.filter (m ·.values)) := by
  have hrel : List.Forall₂ (fun p q => F [p] = .ok [q]) (L.filter (m ·.values)) (L'.filter (m ·.values)) := by
    refine List.rel_filter (fun p q hpq => ?_) (hF.ok L L' hL h)
    show m p.values = true ↔ m q.values = true
    rw [hkeep.single hpq]
  exact (hF.ok_iff fun p hp => hL p (List.mem_of_mem_filter hp)).mpr hrel

/-- Two loads that go row by row agree on many rows when they agree on each
row alone. -/
theorem Batched.agree (hF : Batched F P) (hG : Batched G P)
    (hsingle : ∀ p, P p.values → Outcome.Agree Eq (F [p]) (G [p])) {L : List LoadedRow}
    (hL : ∀ p ∈ L, P p.values) : Outcome.Agree Eq (F L) (G L) := by
  -- a row alone gives the same rows under both loads
  have hiff : ∀ p ∈ L, ∀ q, F [p] = .ok [q] ↔ G [p] = .ok [q] := by
    intro p hp q
    have h := hsingle p (hL p hp)
    cases hFp : F [p] <;> cases hGp : G [p] <;> simp_all [Outcome.Agree]
  cases hFL : F L with
  | ok L' =>
    have hGL : G L = .ok L' :=
      (hG.ok_iff hL).mpr (forall₂_imp_mem (hF.ok L L' hL hFL) fun p hp q => (hiff p hp q).mp)
    rw [hGL]
    rfl
  | error e =>
    cases hGL : G L with
    | error e' => trivial
    | ok L' =>
      have hFL' : F L = .ok L' :=
        (hF.ok_iff hL).mpr (forall₂_imp_mem (hG.ok L L' hL hGL) fun p hp q => (hiff p hp q).mpr)
      rw [hFL] at hFL'
      cases hFL'

theorem batched_pure : Batched (fun L => pure L) P where
  ok L L' _ h := by
    rw [Outcome.pure_eq_ok] at h
    subst h
    exact List.forall₂_same.mpr fun _ _ => rfl
  error _ _ _ h := by cases h

/-- One load after another goes row by row when each does and the first
keeps values. -/
theorem Batched.bind (hF : Batched F P) (hG : Batched G P) (hkeep : KeepsValues F) :
    Batched (fun L => F L >>= G) P where
  ok L L'' hL h := by
    obtain ⟨L', hFL, hGL⟩ := Outcome.bind_eq_ok.mp h
    refine (forall₂_compose (hF.ok L L' hL hFL) (hG.ok L' L'' (hkeep.values hFL hL) hGL)).imp ?_
    rintro p q ⟨p', hp, hq⟩
    show F [p] >>= G = _
    rw [hp]
    exact hq
  error L e hL h := by
    cases hFL : F L with
    | error e' =>
      obtain ⟨p, hp, e'', hpe⟩ := hF.error L e' hL hFL
      exact ⟨p, hp, e'', by simp only [hpe]; rfl⟩
    | ok L' =>
      -- the second load failed for a row the first gave
      rw [hFL] at h
      obtain ⟨p', hp', e', hpe⟩ := hG.error L' e (hkeep.values hFL hL) h
      obtain ⟨p, hp, hpp'⟩ := exists_of_forall₂_right (hF.ok L L' hL hFL) hp'
      exact ⟨p, hp, e', by simp only [hpp']; exact hpe⟩

theorem keepsValues_pure : KeepsValues (fun L => pure L) := by
  intro L L' h
  rw [Outcome.pure_eq_ok] at h
  rw [h]

theorem KeepsValues.bind (hF : KeepsValues F) (hG : KeepsValues G) : KeepsValues (fun L => F L >>= G) := by
  intro L L'' h
  obtain ⟨L', hFL, hGL⟩ := Outcome.bind_eq_ok.mp h
  rw [hG L' L'' hGL, hF L L' hFL]

variable {ι : Type} {steps : List ι} {H : ι → List LoadedRow → Outcome (List LoadedRow)}

/-- Loads run one after another over a list keep values when each does. -/
theorem keepsValues_foldlM (hH : ∀ i ∈ steps, KeepsValues (H i)) :
    KeepsValues (fun L => steps.foldlM (fun L i => H i L) L) := by
  induction steps with
  | nil => exact keepsValues_pure
  | cons i steps ih =>
    exact (hH i List.mem_cons_self).bind (ih fun j hj => hH j (List.mem_cons_of_mem _ hj))

/-- Loads run one after another over a list go row by row when each does and
keeps values. -/
theorem batched_foldlM (hH : ∀ i ∈ steps, Batched (H i) P) (hkeep : ∀ i ∈ steps, KeepsValues (H i)) :
    Batched (fun L => steps.foldlM (fun L i => H i L) L) P := by
  induction steps with
  | nil => exact batched_pure
  | cons i steps ih =>
    exact (hH i List.mem_cons_self).bind
      (ih (fun j hj => hH j (List.mem_cons_of_mem _ hj)) fun j hj => hkeep j (List.mem_cons_of_mem _ hj))
      (hkeep i List.mem_cons_self)

end Batched

/-- A relation step keeps the parents' values. -/
theorem relationStep_keepsValues (db : Database) (windows : Bool) (fuel : Nat) (key : String) (r : Relation)
    (child : LoadSpec) : KeepsValues (fun L => relationStep db windows fuel L key r child) := by
  intro L L' h
  dsimp only at h
  rw [relationStep_eq, Outcome.bind_eq_ok] at h
  obtain ⟨children, -, h⟩ := h
  rw [Outcome.pure_eq_ok] at h
  subst h
  simp [Function.comp_def]

/-- Following relations keeps the rows' values. -/
theorem loadRelations_keepsValues (db : Database) (windows : Bool) (fuel : Nat) (s : LoadSpec) :
    KeepsValues (loadRelations db windows fuel s) := by
  cases fuel with
  | zero =>
    intro L L' h
    cases h
    rfl
  | succ fuel =>
    intro L L' h
    rw [loadRelations_succ] at h
    exact keepsValues_foldlM (fun e _ => relationStep_keepsValues db windows fuel e.1 e.2.1 e.2.2) L L' h

/-! ## The children of one parent, among the children of all -/

theorem mem_parentKeysOf {r : Relation} {L : List LoadedRow} {k : List Value} (hk : k ∈ parentKeysOf r L) :
    ∃ p ∈ L, k = keyOf p.values r.localKeys ∧ k.any (· == .none) = false :=
  (mem_foldl_parentKeyStep hk).resolve_left List.not_mem_nil

/-- The keys of parents whose values satisfy `P`, with no null part: the keys
a relation reads children for. -/
def parentKeySet (r : Relation) (P : Row → Prop) (k : List Value) : Prop :=
  ∃ v, P v ∧ k = keyOf v r.localKeys ∧ k.any (· == .none) = false

theorem parentKeySet_of_mem {r : Relation} {P : Row → Prop} {L : List LoadedRow} (hL : ∀ p ∈ L, P p.values) :
    ∀ k ∈ parentKeysOf r L, parentKeySet r P k := by
  intro k hk
  obtain ⟨p, hp, rfl, hnull⟩ := mem_parentKeysOf hk
  exact ⟨p.values, hL p hp, rfl, hnull⟩

namespace StoredTable

/-- The values a child row can have: those some row of the table reads to. -/
def childValues (t : StoredTable) (r : Relation) (child : LoadSpec) (v : Row) : Prop :=
  ∃ a ∈ t.rows, ∃ c, t.readChild r child a = .ok c ∧ c.values = v

variable {t : StoredTable} {r : Relation} {child : LoadSpec}

theorem keyRows_congr {c₁ c₂ : Condition} (h : ∀ a ∈ t.rows, c₁.selects a = c₂.selects a) :
    t.keyRows r child c₁ = t.keyRows r child c₂ := by
  unfold keyRows
  rw [selectRows_all, selectRows_all, List.filter_congr h]

theorem selects_keyCondition_iff {cells : List Cell} {filter : Condition} {a : StoredRow} :
    (t.keyCondition r [cells] filter).selects a = true ↔
      keyEquals a (t.keyColumns r.remoteKeys) cells = some true ∧ filter.selects a = true := by
  simp [keyCondition, selects_all_pair, selects_keyIn]

end StoredTable

section Children

variable {db : Database} {windows : Bool} {r : Relation} {child : LoadSpec} {t : StoredTable}
  {U : List Value → Prop} {K : List (List Value)} {cs : List LoadedRow}

/-- A child read for some parent keys is read from a row of the table and
matches one of the keys. -/
theorem fetchChildren_mem (h : fetchChildren db windows r child K = .ok cs) (ht : db.tableOf child.table = .ok t)
    (hsound : t.ChildSound r child U) (hU : ∀ k ∈ K, U k) {c : LoadedRow} (hc : c ∈ cs) :
    (∃ a ∈ t.rows, t.readChild r child a = .ok c) ∧ ∃ k ∈ K, matchesKey r k c = true := by
  obtain ⟨t', cellsK, pos, filter, n, ht', hcells, -, -, hrows⟩ := StoredTable.fetchChildren_ok h
  rw [ht] at ht'
  cases ht'
  obtain ⟨a, ha, hac⟩ := Outcome.exists_of_mem_mapM hrows hc
  obtain ⟨hat, hsel⟩ := StoredTable.mem_childRows ha
  simp only [StoredTable.keyCondition, selects_all_pair, selects_keyIn] at hsel
  obtain ⟨cells, hcK, hkc⟩ := hsel.1
  obtain ⟨k, hk, n', hk'⟩ := exists_of_forall₂_right hcells hcK
  exact ⟨⟨a, hat, hac⟩, k, hk, (hsound.reads k (hU k hk) cells n' hk' a hat c hac).mpr hkc⟩

/-- The read of one of the keys alone gives the children of that key among
those read for all keys, with or without window functions. -/
theorem fetchChildren_key (h : fetchChildren db windows r child K = .ok cs) (ht : db.tableOf child.table = .ok t)
    (hsound : t.ChildSound r child U) (hU : ∀ k ∈ K, U k) {k : List Value} (hk : k ∈ K) (windows' : Bool) :
    fetchChildren db windows' r child [k] = .ok (cs.filter (matchesKey r k)) := by
  obtain ⟨cells, n, filter, pos, m, hkc, hfilter, hrows⟩ := StoredTable.fetchChildren_filter h ht hsound hU hk
  rw [StoredTable.fetchChildren_single windows' ht hsound (hU k hk) hkc hfilter]
  exact hrows

/-- So does the read of a key equal as a key to one of them. -/
theorem fetchChildren_keyEq (h : fetchChildren db windows r child K = .ok cs) (ht : db.tableOf child.table = .ok t)
    (hsound : t.ChildSound r child U) (hU : ∀ k ∈ K, U k) {k k' : List Value} (hk : k ∈ K) (hk' : U k')
    (heq : keyEq k' k = true) (windows' : Bool) :
    fetchChildren db windows' r child [k'] = .ok (cs.filter (matchesKey r k')) := by
  obtain ⟨cells, n, filter, pos, m, hkc, hfilter, hrows⟩ := StoredTable.fetchChildren_filter h ht hsound hU hk
  obtain ⟨cells', n', hkc'⟩ := (hsound.binds k' k hk' (hU k hk) heq).mpr ⟨cells, n, hkc⟩
  have hsel := hsound.selects k' k hk' (hU k hk) heq cells' n' cells n hkc' hkc
  -- the cells of equal keys select the same rows
  have hrowsEq : t.keyRows r child (t.keyCondition r [cells'] filter) =
      t.keyRows r child (t.keyCondition r [cells] filter) := by
    apply StoredTable.keyRows_congr
    intro a ha
    rw [Bool.eq_iff_iff, StoredTable.selects_keyCondition_iff, StoredTable.selects_keyCondition_iff, hsel a ha]
  -- and a child read matches one key exactly when it matches the other
  have hmatch : cs.filter (matchesKey r k) = cs.filter (matchesKey r k') := by
    apply List.filter_congr
    intro c hc
    obtain ⟨⟨a, ha, hac⟩, -⟩ := fetchChildren_mem h ht hsound hU hc
    rw [Bool.eq_iff_iff, hsound.reads k (hU k hk) cells n hkc a ha c hac,
      hsound.reads k' hk' cells' n' hkc' a ha c hac, hsel a ha]
  rw [StoredTable.fetchChildren_single windows' ht hsound hk' hkc' hfilter, hrowsEq, hrows, hmatch]

/-- Every child read for some parent keys has values a row of the table
reads to. -/
theorem fetchChildren_values (h : fetchChildren db windows r child K = .ok cs)
    (ht : db.tableOf child.table = .ok t) : ∀ c ∈ cs, t.childValues r child c.values := by
  intro c hc
  obtain ⟨t', cellsK, pos, filter, n, ht', -, -, -, hrows⟩ := StoredTable.fetchChildren_ok h
  rw [ht] at ht'
  cases ht'
  obtain ⟨a, ha, hac⟩ := Outcome.exists_of_mem_mapM hrows hc
  exact ⟨a, (StoredTable.mem_childRows ha).1, c, hac, rfl⟩

end Children

/-! ## What loading assumes of the store -/

/-- What following the relations of a spec, `fuel` levels deep, assumes of
the store, for rows whose values satisfy `P`: the child table of each
relation, when there is one, reads children soundly for the keys of such
rows, and the relations below are sound for the values its rows read to. -/
def LoadSound (db : Database) : Nat → LoadSpec → (Row → Prop) → Prop
  | 0, _, _ => True
  | fuel + 1, s, P => ∀ e ∈ s.relations, ∀ t, db.tableOf e.2.2.table = .ok t →
      t.ChildSound e.2.1 e.2.2 (parentKeySet e.2.1 P) ∧ LoadSound db fuel e.2.2 (t.childValues e.2.1 e.2.2)

/-- What loading one relation, with `fuel` levels below it, assumes of the
store. -/
def RelationSound (db : Database) (fuel : Nat) (r : Relation) (child : LoadSpec) (P : Row → Prop) : Prop :=
  ∀ t, db.tableOf child.table = .ok t →
    t.ChildSound r child (parentKeySet r P) ∧ LoadSound db fuel child (t.childValues r child)

/-! ## A relation step goes parent by parent -/

section Step

variable {db : Database} {windows : Bool} {fuel : Nat} {r : Relation} {child : LoadSpec} {P : Row → Prop}
  {L : List LoadedRow}

/-- The children loaded for parents with no null key part: one read for
their keys, then the children's own relations. -/
theorem childrenFor_of_ne (h : (parentKeysOf r L).isEmpty = false) :
    childrenFor db windows fuel r child L =
      fetchChildren db windows r child (parentKeysOf r L) >>= loadRelations db windows fuel child := by
  simp only [childrenFor, h, Bool.false_eq_true, if_false]

theorem childrenFor_single_null {p : LoadedRow} (hnull : (keyOf p.values r.localKeys).any (· == .none) = true) :
    childrenFor db windows fuel r child [p] = .ok [] := by
  simp [childrenFor, parentKeysOf_single, hnull]

theorem childrenFor_single_key {p : LoadedRow} (hnull : (keyOf p.values r.localKeys).any (· == .none) = false) :
    childrenFor db windows fuel r child [p] =
      fetchChildren db windows r child [keyOf p.values r.localKeys] >>= loadRelations db windows fuel child := by
  rw [childrenFor_of_ne (by simp [parentKeysOf_single, hnull])]
  simp [parentKeysOf_single, hnull]

variable (hsound : RelationSound db fuel r child P)
  (hnest : ∀ t, db.tableOf child.table = .ok t → Batched (loadRelations db windows fuel child) (t.childValues r child))
include hsound hnest

/-- A parent alone is matched to the children it is matched to among all
the parents. -/
theorem childrenFor_single (hL : ∀ p ∈ L, P p.values) {children : List LoadedRow}
    (h : childrenFor db windows fuel r child L = .ok children) {p : LoadedRow} (hp : p ∈ L) :
    ∃ cp, childrenFor db windows fuel r child [p] = .ok cp ∧ matchedFor r cp p = matchedFor r children p := by
  cases hnull : (keyOf p.values r.localKeys).any (· == .none)
  case true =>
    -- a parent with a null key part has no children, alone or among all
    refine ⟨[], childrenFor_single_null hnull, ?_⟩
    unfold childrenFor at h
    split at h
    · rw [Outcome.pure_eq_ok] at h
      rw [← h]
    · obtain ⟨cs, hcs, hds⟩ := Outcome.bind_eq_ok.mp h
      obtain ⟨t, -, -, -, -, ht, -⟩ := StoredTable.fetchChildren_ok hcs
      have hU := parentKeySet_of_mem (r := r) hL
      have hnone : children.filter (matchesKey r (keyOf p.values r.localKeys)) = [] := by
        rw [List.filter_eq_nil_iff]
        intro d hd
        -- each child loaded has the values of a child read, which matches a key
        have hmem : d.values ∈ cs.map (·.values) :=
          loadRelations_keepsValues db windows fuel child cs children hds ▸ List.mem_map_of_mem hd
        obtain ⟨c, hc, hcd⟩ := List.mem_map.mp hmem
        obtain ⟨-, k, hk, hkc⟩ := fetchChildren_mem hcs ht (hsound t ht).1 hU hc
        obtain ⟨-, -, -, hknull⟩ := mem_parentKeysOf hk
        have hfalse := matchesKey_eq_false_of_null hkc hknull hnull
        simp only [matchesKey, hcd] at hfalse
        simp [matchesKey, hfalse]
      simp [matchedFor, hnone]
  case false =>
    -- a key: the parent's children among all are read again for its key alone
    obtain ⟨k, hkK, hkeq⟩ := exists_parentKey (K := []) hp hnull
    have hne : (parentKeysOf r L).isEmpty = false := by
      rw [List.isEmpty_eq_false_iff]
      exact List.ne_nil_of_mem hkK
    rw [childrenFor_of_ne hne] at h
    obtain ⟨cs, hcs, hds⟩ := Outcome.bind_eq_ok.mp h
    obtain ⟨t, -, -, -, -, ht, -⟩ := StoredTable.fetchChildren_ok hcs
    have hU := parentKeySet_of_mem (r := r) hL
    have hfetch : fetchChildren db windows r child [keyOf p.values r.localKeys] =
        .ok (cs.filter (matchesKey r (keyOf p.values r.localKeys))) := by
      rcases hkeq with rfl | heq
      · exact fetchChildren_key hcs ht (hsound t ht).1 hU hkK windows
      · exact fetchChildren_keyEq hcs ht (hsound t ht).1 hU hkK ⟨p.values, hL p hp, rfl, hnull⟩ heq windows
    have hload := (hnest t ht).filter (loadRelations_keepsValues db windows fuel child)
      (fetchChildren_values hcs ht) hds (fun v => keyEq (keyOf v r.remoteKeys) (keyOf p.values r.localKeys))
    refine ⟨children.filter (matchesKey r (keyOf p.values r.localKeys)), ?_, ?_⟩
    · rw [childrenFor_single_key hnull, hfetch]
      exact hload
    · simp [matchedFor, List.filter_filter]

/-- A failure to load children for many parents is a failure for one of
them alone. -/
theorem childrenFor_error (hL : ∀ p ∈ L, P p.values) {e : Failure}
    (h : childrenFor db windows fuel r child L = .error e) :
    ∃ p ∈ L, ∃ e', childrenFor db windows fuel r child [p] = .error e' := by
  cases hne : (parentKeysOf r L).isEmpty
  case true =>
    simp [childrenFor, hne] at h
    cases h
  case false =>
    rw [childrenFor_of_ne hne] at h
    have hU := parentKeySet_of_mem (r := r) hL
    cases hcs : fetchChildren db windows r child (parentKeysOf r L) with
    | error e₁ =>
      -- the read fails for one key alone
      obtain ⟨k, hk, e₂, hke⟩ := StoredTable.fetchChildren_error windows
        (List.isEmpty_eq_false_iff.mp hne) hcs (fun t ht => (hsound t ht).1) hU
      obtain ⟨p, hp, rfl, hnull⟩ := mem_parentKeysOf hk
      exact ⟨p, hp, e₂, by rw [childrenFor_single_key hnull, hke]; rfl⟩
    | ok cs =>
      -- the children's relations fail for a child of one key
      rw [hcs] at h
      obtain ⟨t, -, -, -, -, ht, -⟩ := StoredTable.fetchChildren_ok hcs
      have hQ := fetchChildren_values hcs ht
      obtain ⟨c, hc, e₁, hce⟩ := (hnest t ht).error cs e hQ h
      obtain ⟨-, k, hk, hkc⟩ := fetchChildren_mem hcs ht (hsound t ht).1 hU hc
      obtain ⟨p, hp, rfl, hnull⟩ := mem_parentKeysOf hk
      have hfetch := fetchChildren_key hcs ht (hsound t ht).1 hU hk windows
      obtain ⟨e₂, hload⟩ := (hnest t ht).error_of_mem (fun c hc => hQ c (List.mem_of_mem_filter hc))
        (List.mem_filter.mpr ⟨hc, hkc⟩) hce
      exact ⟨p, hp, e₂, by rw [childrenFor_single_key hnull, hfetch]; exact hload⟩

/-- A relation step goes parent by parent. -/
theorem relationStep_batched (key : String) : Batched (fun L => relationStep db windows fuel L key r child) P where
  ok L L' hL h := by
    rw [relationStep_eq, Outcome.bind_eq_ok] at h
    obtain ⟨children, hch, h⟩ := h
    rw [Outcome.pure_eq_ok] at h
    subst h
    rw [List.forall₂_map_right_iff]
    refine List.forall₂_same.mpr fun p hp => ?_
    obtain ⟨cp, hcp, hm⟩ := childrenFor_single hsound hnest hL hch hp
    rw [relationStep_eq, hcp]
    simp [extend, hm]
  error L e hL h := by
    rw [relationStep_eq] at h
    cases hch : childrenFor db windows fuel r child L with
    | ok children =>
      rw [hch] at h
      cases h
    | error e' =>
      obtain ⟨p, hp, e'', hpe⟩ := childrenFor_error hsound hnest hL hch
      exact ⟨p, hp, e'', by rw [relationStep_eq, hpe]; rfl⟩

end Step

/-- Following relations goes parent by parent, wherever the store is sound
for it. -/
theorem loadRelations_batched {db : Database} (windows : Bool) {fuel : Nat} {s : LoadSpec} {P : Row → Prop}
    (hs : LoadSound db fuel s P) : Batched (loadRelations db windows fuel s) P := by
  induction fuel generalizing s P with
  | zero => exact batched_pure
  | succ fuel ih =>
    -- one relation step per relation, each going parent by parent
    have hfold : loadRelations db windows (fuel + 1) s =
        fun L => s.relations.foldlM (fun L e => relationStep db windows fuel L e.1 e.2.1 e.2.2) L :=
      funext (loadRelations_succ db windows fuel s)
    rw [hfold]
    refine batched_foldlM (fun e he => ?_) (fun e _ => relationStep_keepsValues db windows fuel e.1 e.2.1 e.2.2)
    exact relationStep_batched (hs e he) (fun t ht => ih ((hs e he t ht).2)) e.1

/-! ## Window functions do not change what a parent is given -/

section Windows

variable {db : Database} {fuel : Nat} {r : Relation} {child : LoadSpec} {P : Row → Prop}

/-- The read of one key gives the same rows with or without window
functions. -/
theorem fetchChildren_single_windows {U : List Value → Prop}
    (hsound : ∀ t, db.tableOf child.table = .ok t → t.ChildSound r child U) {k : List Value} (hk : U k) :
    fetchChildren db true r child [k] = fetchChildren db false r child [k] := by
  rw [StoredTable.fetchChildren_eq, StoredTable.fetchChildren_eq]
  cases ht : db.tableOf child.table with
  | error e => rfl
  | ok t =>
    simp only [bind, Except.bind]
    cases hb : (t.bindKeys r.remoteKeys [k]).run 0 with
    | error e => rfl
    | ok res =>
      obtain ⟨keyCond, pos⟩ := res
      obtain ⟨cellsK, rfl, hcells⟩ := StoredTable.bindKeys_ok hb
      cases hcells with
      | cons hc hrest =>
        cases hrest
        obtain ⟨n, hkc⟩ := hc
        cases hf : (t.bindPredicate child.predicate).run pos with
        | error e => simp only [hf]
        | ok res' =>
          obtain ⟨filter, m⟩ := res'
          simp only [hf]
          -- the read of one key takes the rows of that key on both paths
          have hwin := StoredTable.childRows_single true (hsound t ht) hk hkc filter
          have hcount := StoredTable.childRows_single false (hsound t ht) hk hkc filter
          unfold StoredTable.keyCondition at hwin hcount
          rw [hwin, hcount]

/-- The children of one parent are the same with or without window
functions, when the loads below agree. -/
theorem childrenFor_single_windows (hs : RelationSound db fuel r child P)
    (hnest : ∀ t, db.tableOf child.table = .ok t → ∀ L, (∀ c ∈ L, t.childValues r child c.values) →
      Outcome.Agree Eq (loadRelations db true fuel child L) (loadRelations db false fuel child L))
    {p : LoadedRow} (hp : P p.values) :
    Outcome.Agree Eq (childrenFor db true fuel r child [p]) (childrenFor db false fuel r child [p]) := by
  cases hnull : (keyOf p.values r.localKeys).any (· == .none)
  case true =>
    rw [childrenFor_single_null hnull, childrenFor_single_null hnull]
    rfl
  case false =>
    rw [childrenFor_single_key hnull, childrenFor_single_key hnull,
      fetchChildren_single_windows (fun t ht => (hs t ht).1) ⟨p.values, hp, rfl, hnull⟩]
    cases hf : fetchChildren db false r child [keyOf p.values r.localKeys] with
    | error e => trivial
    | ok cs =>
      obtain ⟨t, -, -, -, -, ht, -⟩ := StoredTable.fetchChildren_ok hf
      exact hnest t ht cs (fetchChildren_values hf ht)

/-- Loads run one after another agree when each pair agrees on every list
of rows, the first keeping values. -/
theorem foldlM_agree {ι : Type} {steps : List ι} {F G : ι → List LoadedRow → Outcome (List LoadedRow)}
    (hFG : ∀ i ∈ steps, ∀ L, (∀ p ∈ L, P p.values) → Outcome.Agree Eq (F i L) (G i L))
    (hkeep : ∀ i ∈ steps, KeepsValues (F i)) {L : List LoadedRow} (hL : ∀ p ∈ L, P p.values) :
    Outcome.Agree Eq (steps.foldlM (fun L i => F i L) L) (steps.foldlM (fun L i => G i L) L) := by
  induction steps generalizing L with
  | nil => rfl
  | cons i steps ih =>
    simp only [List.foldlM_cons]
    have h := hFG i List.mem_cons_self L hL
    cases hF : F i L with
    | error e =>
      cases hG : G i L with
      | error e' => trivial
      | ok b =>
        rw [hF, hG] at h
        exact h.elim
    | ok a =>
      cases hG : G i L with
      | error e =>
        rw [hF, hG] at h
        exact h.elim
      | ok b =>
        -- both steps gave the same rows; the rest of the run agrees on them
        rw [hF, hG, Outcome.agree_ok_ok] at h
        subst h
        exact ih (fun j hj => hFG j (List.mem_cons_of_mem _ hj)) (fun j hj => hkeep j (List.mem_cons_of_mem _ hj))
          ((hkeep i List.mem_cons_self).values hF hL)

/-- A relation step gives the same rows with or without window functions,
or fails on both paths, when the loads below do. -/
theorem relationStep_windows_of (hs : RelationSound db fuel r child P)
    (hnest : ∀ t, db.tableOf child.table = .ok t → ∀ L, (∀ c ∈ L, t.childValues r child c.values) →
      Outcome.Agree Eq (loadRelations db true fuel child L) (loadRelations db false fuel child L))
    {L : List LoadedRow} (hL : ∀ p ∈ L, P p.values) (key : String) :
    Outcome.Agree Eq (relationStep db true fuel L key r child) (relationStep db false fuel L key r child) := by
  -- the step goes parent by parent on both paths, and each parent alone is
  -- given the same rows
  have hwin : Batched (fun L => relationStep db true fuel L key r child) P :=
    relationStep_batched hs (fun t ht => loadRelations_batched true (hs t ht).2) key
  have hcount : Batched (fun L => relationStep db false fuel L key r child) P :=
    relationStep_batched hs (fun t ht => loadRelations_batched false (hs t ht).2) key
  refine hwin.agree hcount (fun p hp => ?_) hL
  rw [relationStep_eq, relationStep_eq]
  refine (childrenFor_single_windows hs hnest hp).bind ?_
  rintro a b rfl
  rfl

/-- Following relations gives the same rows with or without window
functions, or fails on both paths, wherever the store is sound for it. -/
theorem loadRelations_windows {s : LoadSpec} (hs : LoadSound db fuel s P) {L : List LoadedRow}
    (hL : ∀ p ∈ L, P p.values) :
    Outcome.Agree Eq (loadRelations db true fuel s L) (loadRelations db false fuel s L) := by
  induction fuel generalizing s P L with
  | zero => rfl
  | succ fuel ih =>
    rw [loadRelations_succ, loadRelations_succ]
    exact foldlM_agree (fun e he L hL => relationStep_windows_of (hs e he)
      (fun t ht L hL => ih (hs e he t ht).2 hL) hL e.1)
      (fun e _ => relationStep_keepsValues db true fuel e.1 e.2.1 e.2.2) hL

/-- A relation step gives the same rows with or without window functions,
or fails on both paths, wherever the store is sound for it. -/
theorem relationStep_windows (hs : RelationSound db fuel r child P) {L : List LoadedRow}
    (hL : ∀ p ∈ L, P p.values) (key : String) :
    Outcome.Agree Eq (relationStep db true fuel L key r child) (relationStep db false fuel L key r child) :=
  relationStep_windows_of hs (fun t ht _ hL => loadRelations_windows (hs t ht).2 hL) hL key

end Windows

/-! ## A page of a relation is a page of the relation unpaged -/

section Paging

theorem forall₂_page {α β : Type} {R : α → β → Prop} {xs : List α} {ys : List β} (h : List.Forall₂ R xs ys)
    (offset : Nat) (limit : Option Nat) : List.Forall₂ R (page offset limit xs) (page offset limit ys) := by
  unfold page
  split
  · exact List.forall₂_take _ (List.forall₂_drop _ h)
  · exact List.forall₂_drop _ h

/-- A walk of a page gives the page of the walk. -/
theorem mapM_page {α β : Type} {f : α → Outcome β} {xs : List α} {ys : List β} (h : xs.mapM f = .ok ys)
    (offset : Nat) (limit : Option Nat) : (page offset limit xs).mapM f = .ok (page offset limit ys) := by
  rw [Outcome.mapM_eq_ok_iff] at h ⊢
  exact forall₂_page h offset limit

/-- A load that goes row by row gives, for a page of the rows, the page of
what it gives. -/
theorem Batched.page {F : List LoadedRow → Outcome (List LoadedRow)} {P : Row → Prop} (hF : Batched F P)
    {L L' : List LoadedRow} (hL : ∀ p ∈ L, P p.values) (h : F L = .ok L') (offset : Nat) (limit : Option Nat) :
    F (page offset limit L) = .ok (page offset limit L') := by
  rw [hF.ok_iff fun p hp => hL p (mem_page hp)]
  exact forall₂_page (hF.ok L L' hL h) offset limit

variable {db : Database} {windows : Bool} {fuel : Nat} {r : Relation} {child : LoadSpec} {P : Row → Prop}
  {t : StoredTable}

/-- The rows of one key under a paged relation to many rows are the page of
its rows unpaged. -/
theorem StoredTable.keyRows_page (hmany : r.isMany = true) (cond : Condition) :
    t.keyRows r child cond = page (child.offset.getD 0) child.limit (t.keyRows r child.unpaged cond) := by
  unfold StoredTable.keyRows LoadSpec.unpaged
  cases hl : child.limit <;> cases ho : child.offset <;> simp [hmany, page]

theorem StoredTable.ChildSound.unpaged {U : List Value → Prop} (h : t.ChildSound r child U) :
    t.ChildSound r child.unpaged U :=
  ⟨h.order, h.scan, h.reads, h.groups, h.binds, h.selects⟩

theorem loadRelations_unpaged : loadRelations db windows fuel child.unpaged = loadRelations db windows fuel child := by
  cases fuel <;> rfl

theorem loadSound_unpaged {Q : Row → Prop} : LoadSound db fuel child.unpaged Q ↔ LoadSound db fuel child Q := by
  cases fuel <;> rfl

theorem RelationSound.unpaged (h : RelationSound db fuel r child P) : RelationSound db fuel r child.unpaged P :=
  fun t ht => ⟨(h t ht).1.unpaged, loadSound_unpaged.mpr (h t ht).2⟩

/-- The read of one key, paged, is the page of the read unpaged. -/
theorem fetchChildren_page (hmany : r.isMany = true) {U : List Value → Prop}
    (hsound : ∀ t, db.tableOf child.table = .ok t → t.ChildSound r child U) {k : List Value} (hk : U k)
    {cs : List LoadedRow} (h : fetchChildren db windows r child.unpaged [k] = .ok cs) :
    fetchChildren db windows r child [k] = .ok (page (child.offset.getD 0) child.limit cs) := by
  obtain ⟨t, cellsK, pos, filter, n, ht, hcells, -, hfilter, hrows⟩ := StoredTable.fetchChildren_ok h
  cases hcells with
  | cons hc hrest =>
    cases hrest
    obtain ⟨n', hkc⟩ := hc
    have ht' : db.tableOf child.table = .ok t := ht
    have hfilter' : (t.bindPredicate child.predicate).run pos = .ok (filter, n) := hfilter
    have hs := hsound t ht'
    rw [StoredTable.childRows_single windows hs.unpaged hk hkc filter] at hrows
    rw [StoredTable.fetchChildren_single windows ht' hs hk hkc hfilter', StoredTable.keyRows_page hmany]
    exact mapM_page hrows _ _

/-- Alone, a parent under a paged relation to many rows is given the page
of its children unpaged. -/
theorem childrenFor_single_page (hmany : r.isMany = true) (hs : RelationSound db fuel r child P)
    {p : LoadedRow} (hp : P p.values) {cs : List LoadedRow}
    (h : childrenFor db windows fuel r child.unpaged [p] = .ok cs) :
    childrenFor db windows fuel r child [p] = .ok (page (child.offset.getD 0) child.limit cs) := by
  cases hnull : (keyOf p.values r.localKeys).any (· == .none)
  case true =>
    rw [childrenFor_single_null hnull] at h ⊢
    cases h
    rw [page_nil]
  case false =>
    rw [childrenFor_single_key hnull] at h ⊢
    obtain ⟨cs₁, hf, hl⟩ := Outcome.bind_eq_ok.mp h
    obtain ⟨t, -, -, -, -, ht, -⟩ := StoredTable.fetchChildren_ok hf
    rw [fetchChildren_page hmany (fun t ht => (hs t ht).1) ⟨p.values, hp, rfl, hnull⟩ hf]
    rw [loadRelations_unpaged] at hl
    have hQ := fetchChildren_values hf ht
    exact (loadRelations_batched windows (hs t ht).2).page hQ hl _ _

/-- Alone, a parent is given only children of its key. -/
theorem childrenFor_single_matches (hs : RelationSound db fuel r child P) {p : LoadedRow} (hp : P p.values)
    {cs : List LoadedRow} (h : childrenFor db windows fuel r child [p] = .ok cs) :
    ∀ c ∈ cs, matchesKey r (keyOf p.values r.localKeys) c = true := by
  intro c hc
  cases hnull : (keyOf p.values r.localKeys).any (· == .none)
  case true =>
    rw [childrenFor_single_null hnull] at h
    cases h
    simp at hc
  case false =>
    rw [childrenFor_single_key hnull] at h
    obtain ⟨cs₁, hf, hl⟩ := Outcome.bind_eq_ok.mp h
    obtain ⟨t, -, -, -, -, ht, -⟩ := StoredTable.fetchChildren_ok hf
    -- the child has the values of a child read for the parent's key
    have hmem : c.values ∈ cs₁.map (·.values) :=
      loadRelations_keepsValues db windows fuel child cs₁ cs hl ▸ List.mem_map_of_mem hc
    obtain ⟨c₁, hc₁, hcv⟩ := List.mem_map.mp hmem
    have hU : ∀ k ∈ [keyOf p.values r.localKeys], parentKeySet r P k := by
      simpa using ⟨p.values, hp, rfl, hnull⟩
    obtain ⟨-, k, hk, hkc⟩ := fetchChildren_mem hf ht (hs t ht).1 hU hc₁
    rw [List.mem_singleton] at hk
    subst hk
    simpa [matchesKey, hcv] using hkc

theorem matchedFor_of_matches (hmany : r.isMany = true) {cs : List LoadedRow} {p : LoadedRow}
    (h : ∀ c ∈ cs, matchesKey r (keyOf p.values r.localKeys) c = true) : matchedFor r cs p = cs := by
  simp [matchedFor, hmany, List.filter_eq_self.mpr h]

/-- A paged relation step gives each parent the page of what the step
unpaged gives it. -/
theorem relationStep_page_of_unpaged (hmany : r.isMany = true) (hs : RelationSound db fuel r child P)
    {L : List LoadedRow} (hL : ∀ p ∈ L, P p.values) (key : String) {L' : List LoadedRow}
    (h : relationStep db windows fuel L key r child.unpaged = .ok L') :
    ∃ M : LoadedRow → List LoadedRow, L' = L.map (extend key M) ∧
      relationStep db windows fuel L key r child =
        .ok (L.map (extend key fun p => page (child.offset.getD 0) child.limit (M p))) := by
  rw [relationStep_eq, Outcome.bind_eq_ok] at h
  obtain ⟨children, hch, h⟩ := h
  rw [Outcome.pure_eq_ok] at h
  refine ⟨matchedFor r children, h.symm, ?_⟩
  have hbatch : Batched (fun L => relationStep db windows fuel L key r child) P :=
    relationStep_batched hs (fun t ht => loadRelations_batched windows (hs t ht).2) key
  rw [hbatch.ok_iff hL, List.forall₂_map_right_iff]
  refine List.forall₂_same.mpr fun p hp => ?_
  -- alone, the parent is given children of its key only, unpaged, and the
  -- page of them paged
  obtain ⟨cp, hcp, hm⟩ := childrenFor_single hs.unpaged
    (fun t ht => loadRelations_batched windows (hs.unpaged t ht).2) hL hch hp
  have hall := childrenFor_single_matches hs.unpaged (hL p hp) hcp
  rw [relationStep_eq, childrenFor_single_page hmany hs (hL p hp) hcp]
  change Except.ok [extend key (matchedFor r (page (child.offset.getD 0) child.limit cp)) p] = _
  simp only [extend]
  rw [matchedFor_of_matches hmany fun c hc => hall c (mem_page hc), ← hm, matchedFor_of_matches hmany hall]

end Paging

/-! ## Paged relations -/

section PagedRelation

variable {db : Database} {fuel : Nat} {r : Relation} {child : LoadSpec} {P : Row → Prop}

/-- A relation to many rows that reads a page of children gives every parent
the same rows whether the store numbers each parent's children with a window
function or the loader counts them, and the rows it gives a parent are the
page of the rows the relation unpaged gives it. -/
theorem relationStep_paged (hmany : r.isMany = true) (hs : RelationSound db fuel r child P)
    {L : List LoadedRow} (hL : ∀ p ∈ L, P p.values) (key : String) :
    Outcome.Agree Eq (relationStep db true fuel L key r child) (relationStep db false fuel L key r child) ∧
      ∀ windows L', relationStep db windows fuel L key r child.unpaged = .ok L' →
        ∃ M : LoadedRow → List LoadedRow, L' = L.map (extend key M) ∧
          relationStep db windows fuel L key r child =
            .ok (L.map (extend key fun p => page (child.offset.getD 0) child.limit (M p))) :=
  ⟨relationStep_windows hs hL key, fun _ _ h => relationStep_page_of_unpaged hmany hs hL key h⟩

end PagedRelation

end TableGraph.Store

namespace TableGraph.Samples

open Store

/-! ## Comments of the seeded blog, one page each -/

/-- The comments of the seeded blog: three on the first post, one on the
third. -/
def seededComments : StoredTable :=
  { decl := postComments
    rows := [⟨1, [.integer 1, .integer 1, .text "first!", .integer 5]⟩,
      ⟨2, [.integer 2, .integer 1, .text "nice", .integer 3]⟩,
      ⟨3, [.integer 3, .integer 1, .text "meh", .integer 1]⟩,
      ⟨4, [.integer 4, .integer 3, .text "ok", .integer 4]⟩] }

def commentsDb : Database := { tables := [seededComments] }

/-- The relation from a post to its comments. -/
def commentsOfPost : Relation :=
  { name := "comments", kind := .many, source := "posts", target := "post_comments", pairs := [("id", "post_id")] }

/-- Each post's second comment: the page at offset one of length one. -/
def secondComment : LoadSpec := { table := commentsTable, columns := ["id", "body"], offset := some 1, limit := some 1 }

theorem keyColumns_seeded : seededComments.keyColumns ["post_id"] = [1] := by decide

theorem keyCells_seeded (n : Int) (hn : minInteger ≤ n ∧ n ≤ maxInteger) :
    (seededComments.keyCells commentsOfPost.remoteKeys [.int n]).run 0 = .ok ([.integer n], 1) := by
  have hcol : seededComments.columnAt 1 = plain "post_id" integer false := rfl
  simp [StoredTable.keyCells, keyColumns_seeded, hcol, bindMember, nextPosition, plain, ColumnDecl.affinity,
    integer_text_plain, Codec.bind, plainCell, hn.1, hn.2, Affinity.operand, commentsOfPost, Relation.remoteKeys]

theorem specKeys_secondComment : specKeys secondComment commentsOfPost.remoteKeys = ["id", "body", "post_id"] := by
  decide

theorem readChild_seeded (rowid i p : Int) (b : String) (x : Cell) :
    seededComments.readChild commentsOfPost secondComment ⟨rowid, [.integer i, .integer p, .text b, x]⟩ =
      .ok { values := [("id", .int i), ("body", .str b), ("post_id", .int p)] } := by
  have hcols : seededComments.decl.columns = [idColumn, plain "post_id" integer false, plain "body" text false,
      plain "rating" integer true] := rfl
  simp [StoredTable.readChild, specKeys_secondComment, StoredTable.readValues, StoredTable.keyPosition?, hcols,
    StoredTable.columnAt, idColumn, plain, ColumnDecl.readCell, ColumnDecl.codec, integer_text_plain, Codec.read,
    StoredRow.cell, List.findIdx?_cons]

/-- The values of the first and the third post, as read for their comments. -/
def firstOrThirdPost (v : Row) : Prop := v = [("id", .int 1)] ∨ v = [("id", .int 3)]

def parentPosts : List LoadedRow := [{ values := [("id", .int 1)] }, { values := [("id", .int 3)] }]

theorem keyCells_posts {k : List Value} (hk : parentKeySet commentsOfPost firstOrThirdPost k) :
    ∃ n : Int, k = [.int n] ∧ (seededComments.keyCells commentsOfPost.remoteKeys k).run 0 = .ok ([.integer n], 1) ∧
      (n = 1 ∨ n = 3) := by
  obtain ⟨v, hv | hv, rfl, -⟩ := hk <;> subst hv
  · exact ⟨1, rfl, keyCells_seeded 1 (by decide), .inl rfl⟩
  · exact ⟨3, rfl, keyCells_seeded 3 (by decide), .inr rfl⟩

/-- The seeded comments are sound for the comments of the first and third
post: they are in key order, and their post ids compare as keys do. -/
theorem seededComments_childSound :
    seededComments.ChildSound commentsOfPost secondComment (parentKeySet commentsOfPost firstOrThirdPost) where
  order := StoredTable.orderSound_nil _
  scan _ := by decide
  reads := by
    intro k hk cells n hkc a ha c hc
    obtain ⟨m, rfl, hm, hm13⟩ := keyCells_posts hk
    rw [hm] at hkc
    cases hkc
    simp only [seededComments, List.mem_cons, List.not_mem_nil, or_false] at ha
    rcases ha with rfl | rfl | rfl | rfl <;> rw [readChild_seeded] at hc <;> cases hc <;>
      rcases hm13 with rfl | rfl <;> decide
  groups := by
    intro k hk cells n hkc
    obtain ⟨m, rfl, hm, hm13⟩ := keyCells_posts hk
    rw [hm] at hkc
    cases hkc
    rcases hm13 with rfl | rfl <;> decide
  binds := by
    intro k k' hk hk' _
    obtain ⟨m, rfl, hm, -⟩ := keyCells_posts hk
    obtain ⟨m', rfl, hm', -⟩ := keyCells_posts hk'
    exact ⟨fun _ => ⟨_, _, hm'⟩, fun _ => ⟨_, _, hm⟩⟩
  selects := by
    intro k k' hk hk' heq cells n cells' n' hkc hkc'
    obtain ⟨m, rfl, hm, hm13⟩ := keyCells_posts hk
    obtain ⟨m', rfl, hm', hm13'⟩ := keyCells_posts hk'
    rw [hm] at hkc
    rw [hm'] at hkc'
    cases hkc
    cases hkc'
    -- keys 1 and 3 are not equal as keys
    rcases hm13 with rfl | rfl <;> rcases hm13' with rfl | rfl
    all_goals first | exact fun _ _ => Iff.rfl | exact absurd heq (by decide)

theorem commentsDb_relationSound : RelationSound commentsDb 0 commentsOfPost secondComment firstOrThirdPost := by
  intro t ht
  have hseeded : commentsDb.tableOf secondComment.table = .ok seededComments := rfl
  rw [hseeded] at ht
  cases ht
  exact ⟨seededComments_childSound, trivial⟩

/-- The second comment of the first and of the third post is the same with or
without window functions, and is the page of all their comments. -/
theorem secondComment_windows_page :
    commentsOfPost.isMany = true ∧ RelationSound commentsDb 0 commentsOfPost secondComment firstOrThirdPost ∧
      (∀ p ∈ parentPosts, firstOrThirdPost p.values) ∧
      (Outcome.Agree Eq (relationStep commentsDb true 0 parentPosts "comments" commentsOfPost secondComment)
          (relationStep commentsDb false 0 parentPosts "comments" commentsOfPost secondComment) ∧
        ∀ windows L', relationStep commentsDb windows 0 parentPosts "comments" commentsOfPost secondComment.unpaged =
            .ok L' →
          ∃ M : LoadedRow → List LoadedRow, L' = parentPosts.map (extend "comments" M) ∧
            relationStep commentsDb windows 0 parentPosts "comments" commentsOfPost secondComment =
              .ok (parentPosts.map (extend "comments" fun p =>
                page (secondComment.offset.getD 0) secondComment.limit (M p)))) :=
  have hrows : ∀ p ∈ parentPosts, firstOrThirdPost p.values := by simp [parentPosts, firstOrThirdPost]
  ⟨rfl, commentsDb_relationSound, hrows, relationStep_paged rfl commentsDb_relationSound hrows "comments"⟩

/-! ## A child table whose scan is not in key order

A window with no child order numbers each parent's rows in primary-key
order, while counting goes by the order the rows are read in. They differ
when the table's rows are not stored in key order, as for a text key. -/

/-- Notes keyed by a text code, each belonging to an owner. -/
def notesDecl : TableDecl :=
  { name := "notes"
    columns := [{ key := "code", name := "code", type := text, nullable := false, primaryKey := true },
      plain "owner" integer false] }

/-- The note of code `b`, stored first. -/
def noteB : StoredRow := ⟨1, [.text "b", .integer 1]⟩

/-- The note of code `a`, stored second. -/
def noteA : StoredRow := ⟨2, [.text "a", .integer 1]⟩

/-- Two notes of one owner, stored out of key order. -/
def notesStored : StoredTable := { decl := notesDecl, rows := [noteB, noteA] }

def notesTable : Table :=
  { name := "notes"
    columns :=
      [{ name := "code", table := "notes", tag := "text", columnType := "String"
         nullable := false, primaryKey := true },
       { name := "owner", table := "notes", tag := "integer", columnType := "Integer", nullable := false }] }

/-- The relation from an owner to its notes. -/
def notesOfOwner : Relation :=
  { name := "notes", kind := .many, source := "owners", target := "notes", pairs := [("id", "owner")] }

/-- Each owner's first note, in no given order. -/
def firstNote : LoadSpec := { table := notesTable, columns := ["code"], limit := some 1 }

def notesDb : Database := { tables := [notesStored] }

/-- The one owner. -/
def ownerRows : List LoadedRow := [{ values := [("id", .int 1)] }]

theorem notes_tableOf : notesDb.tableOf firstNote.table = .ok notesStored := rfl

theorem notes_keyCells : (notesStored.bindKeys notesOfOwner.remoteKeys [[.int 1]]).run 0 =
    .ok (.keyIn [1] [[.integer 1]], 1) := by
  have hcol : notesStored.columnAt 1 = plain "owner" integer false := rfl
  have hkeys : notesStored.keyColumns notesOfOwner.remoteKeys = [1] := by decide
  rw [StoredTable.bindKeys_eq]
  simp [StoredTable.keyCells, hkeys, hcol, bindMember, nextPosition, plain, ColumnDecl.affinity,
    integer_text_plain, Codec.bind, plainCell, Affinity.operand, minInteger, maxInteger]

/-- Counting takes the note stored first. -/
theorem notes_rows_counted :
    notesStored.childRows false notesOfOwner firstNote
      (notesStored.keyCondition notesOfOwner [[.integer 1]] (.truth true)) = [noteB] := by
  rfl

/-- A window sorts the owner's notes by code and takes the first. -/
theorem notes_rows_windowed :
    notesStored.childRows true notesOfOwner firstNote
      (notesStored.keyCondition notesOfOwner [[.integer 1]] (.truth true)) = [noteA] := by
  have hsel : notesStored.selectRows (notesStored.keyCondition notesOfOwner [[.integer 1]] (.truth true)) [] 0 none =
      [noteB, noteA] := by
    rfl
  have hpart : partitionRows [1] [noteB, noteA] = [[noteB, noteA]] := by rfl
  have hle : (compareRows notesStored.keyOrder noteB noteA != .gt) = false := by decide +kernel
  have hremote : notesOfOwner.remoteKeys.filterMap notesStored.keyPosition? = [1] := by rfl
  have horder : notesStored.sortKeys firstNote.order = [] := rfl
  have hsort : [noteB, noteA].mergeSort (fun a b => compareRows notesStored.keyOrder a b != .gt) = [noteA, noteB] := by
    simp [List.mergeSort, hle]
  have hpaged : (notesOfOwner.isMany && (firstNote.limit.isSome || firstNote.offset.isSome)) = true := rfl
  simp only [StoredTable.childRows, hsel, hremote, horder, hpart, hpaged, List.isEmpty_nil, if_true, Bool.not_true,
    Bool.false_eq_true, if_false, List.flatMap_singleton, hsort]
  rfl

theorem readChild_notes (rowid o : Int) (code : String) :
    notesStored.readChild notesOfOwner firstNote ⟨rowid, [.text code, .integer o]⟩ =
      .ok { values := [("code", .str code), ("owner", .int o)] } := by
  have hspec : specKeys firstNote notesOfOwner.remoteKeys = ["code", "owner"] := by decide
  have hcols : notesStored.decl.columns =
      [{ key := "code", name := "code", type := text, nullable := false, primaryKey := true },
        plain "owner" integer false] := rfl
  simp [StoredTable.readChild, hspec, StoredTable.readValues, StoredTable.keyPosition?, hcols,
    StoredTable.columnAt, plain, ColumnDecl.readCell, ColumnDecl.codec, integer_text_plain, Codec.read,
    StoredRow.cell, List.findIdx?_cons]

/-- The owner is given the one note its read takes, on either path. -/
theorem notes_step (windows : Bool) (row : StoredRow) (code : String)
    (hrows : notesStored.childRows windows notesOfOwner firstNote
      (notesStored.keyCondition notesOfOwner [[.integer 1]] (.truth true)) = [row])
    (hrow : row = ⟨row.rowid, [.text code, .integer 1]⟩) :
    relationStep notesDb windows 0 ownerRows "notes" notesOfOwner firstNote =
      .ok [{ values := [("id", .int 1)]
             related := [("notes", [{ values := [("code", .str code), ("owner", .int 1)] }])] }] := by
  have hkeys : parentKeysOf notesOfOwner ownerRows = [[.int 1]] := rfl
  have hfetch : fetchChildren notesDb windows notesOfOwner firstNote [[.int 1]] =
      .ok [{ values := [("code", .str code), ("owner", .int 1)] }] := by
    rw [StoredTable.fetchChildren_eq, notes_tableOf]
    change (do
      let key ← (notesStored.bindKeys notesOfOwner.remoteKeys [[.int 1]]).run 0
      let filter ← (notesStored.bindPredicate firstNote.predicate).run key.2
      (notesStored.childRows windows notesOfOwner firstNote (.all [key.1, filter.1])).mapM
        (notesStored.readChild notesOfOwner firstNote)) = _
    rw [notes_keyCells]
    change (notesStored.childRows windows notesOfOwner firstNote
      (notesStored.keyCondition notesOfOwner [[.integer 1]] (.truth true))).mapM _ = _
    rw [hrows, hrow]
    simp [readChild_notes]
  have hmatch : matchesKey notesOfOwner [.int 1] { values := [("code", .str code), ("owner", .int 1)] } = true := rfl
  have hmany : notesOfOwner.isMany = true := rfl
  rw [relationStep_eq, childrenFor_of_ne (by rw [hkeys]; rfl), hkeys, hfetch]
  simp only [loadRelations, pure, Except.pure, bind, Except.bind, matchedFor, hmany, if_true, List.filter_cons,
    List.filter_nil, List.map_cons, List.map_nil, extend, ownerRows]
  rw [show keyOf [("id", Value.int 1)] notesOfOwner.localKeys = [.int 1] from rfl, hmatch]
  rfl

/-- With no child order, a window and a count give the owner different first
notes: `a`, first by key, and `b`, first as stored. -/
theorem notes_windows_differ :
    relationStep notesDb true 0 ownerRows "notes" notesOfOwner firstNote ≠
      relationStep notesDb false 0 ownerRows "notes" notesOfOwner firstNote := by
  rw [notes_step true noteA "a" notes_rows_windowed rfl, notes_step false noteB "b" notes_rows_counted rfl]
  simp

end TableGraph.Samples
