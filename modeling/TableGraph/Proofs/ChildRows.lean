import Mathlib
import TableGraph.Store.Fetch
import TableGraph.Proofs.Outcome

/-!
# The children of one parent key

A relation loads the children of all its parents with one read: it binds the
parents' keys into one `keyIn` condition, selects the rows that condition and
the child filter keep, and, when the child reads a page, numbers each parent's
rows in a partition of the table by key, with a window function, or else
sorts the table and pages each run of equal keys. This module says what such
a read gives for one parent key: exactly what a read for that key alone would
give (`keyRows`), with or without window functions.

The argument has three layers.

1. A stable sort commutes with a filter (`mergeSort_filter_of_mem`), and a
   filter of the runs of a partition by key keeps one run
   (`filter_flatMap_partitionRows`): these hold of any order that is a total
   preorder on the rows sorted, and any grouping that is an equivalence on
   them.
2. Binding a key or a filter does not depend on the parameter number it
   starts from, except in the numbers it hands out (`Shiftless`), so the key
   cells of one parent are those it has among all parents, and a filter bound
   after one key binds as it does after many.
3. `ChildSound` gathers what a read assumes of the child table: the child
   order is a total preorder on its rows, a table read without an order is in
   key order, and the stored key cells compare as the loader compares keys.
   Real cells compare through floating point, which Lean cannot evaluate, so
   these are hypotheses on the rows of the table, not theorems.

## Main results

* `StoredTable.childRows_filter` — the rows a read for many keys selects,
  restricted to one key, are the rows of that key.
* `StoredTable.fetchChildren_filter`, `StoredTable.fetchChildren_single` —
  the children a read gives one parent key are what a read of that key alone
  gives.
* `StoredTable.fetchChildren_error` — a read for many keys fails only when
  the read for one of them fails.
-/

namespace TableGraph.Store

section StableSort

variable {α : Type} {le : α → α → Bool}

/-- A list split at the first item a test accepts is split in one place only. -/
theorem append_eq_append_of_split {q : α → Bool} {P₁ S₁ P₂ S₂ : List α}
    (h : P₁ ++ S₁ = P₂ ++ S₂) (hP₁ : ∀ b ∈ P₁, q b = false) (hP₂ : ∀ b ∈ P₂, q b = false)
    (hS₁ : ∀ c ∈ S₁.head?, q c = true) (hS₂ : ∀ c ∈ S₂.head?, q c = true) :
    P₁ = P₂ ∧ S₁ = S₂ := by
  induction P₁ generalizing P₂ with
  | nil =>
    cases P₂ with
    | nil => exact ⟨rfl, h⟩
    | cons b P₂ =>
      subst h
      have := hS₁ b (by simp)
      simp [hP₂ b (by simp)] at this
  | cons a P₁ ih =>
    cases P₂ with
    | nil =>
      subst h
      have := hS₂ a (by simp)
      simp [hP₁ a (by simp)] at this
    | cons b P₂ =>
      simp only [List.cons_append, List.cons.injEq] at h
      obtain ⟨rfl, h⟩ := h
      obtain ⟨rfl, rfl⟩ := ih h (fun b hb => hP₁ b (by simp [hb])) (fun b hb => hP₂ b (by simp [hb]))
      exact ⟨rfl, rfl⟩

/-- A stable sort by a total preorder commutes with a filter: the items a
test keeps come out in the order of sorting them alone. -/
theorem mergeSort_filter (trans : ∀ a b c, le a b → le b c → le a c) (total : ∀ a b, le a b || le b a)
    (p : α → Bool) (l : List α) : (l.mergeSort le).filter p = (l.filter p).mergeSort le := by
  induction l with
  | nil => simp
  | cons a l ih =>
    obtain ⟨l₁, l₂, h₁, h₂, h₃⟩ := List.mergeSort_cons trans total a l
    -- every item after `a` in the sorted list is above it
    have hafter : ∀ c ∈ l₂, le a c := by
      have hs := List.pairwise_mergeSort trans total (a :: l)
      rw [h₁, List.pairwise_append] at hs
      exact fun c hc => (List.pairwise_cons.mp hs.2.1).1 c hc
    rw [h₁, List.filter_append, List.filter_cons]
    by_cases ha : p a
    · obtain ⟨m₁, m₂, g₁, g₂, g₃⟩ := List.mergeSort_cons trans total a (l.filter p)
      have hafter' : ∀ c ∈ m₂, le a c := by
        have hs := List.pairwise_mergeSort trans total (a :: l.filter p)
        rw [g₁, List.pairwise_append] at hs
        exact fun c hc => (List.pairwise_cons.mp hs.2.1).1 c hc
      have hsame : l₁.filter p ++ l₂.filter p = m₁ ++ m₂ := by
        rw [← List.filter_append, ← h₂, ih, g₂]
      -- both sorts put `a` before the first item above it
      obtain ⟨e₁, e₂⟩ := append_eq_append_of_split (q := le a) hsame
        (fun b hb => by simpa using h₃ b (List.mem_of_mem_filter hb))
        (fun b hb => by simpa using g₃ b hb)
        (fun c hc => hafter c (List.mem_of_mem_filter (List.mem_of_mem_head? hc)))
        (fun c hc => hafter' c (List.mem_of_mem_head? hc))
      rw [List.filter_cons_of_pos ha, g₁, ha, if_pos rfl, e₁, e₂]
    · have hna : p a = false := by simpa using ha
      rw [hna, List.filter_cons_of_neg (by simp [hna])]
      simp only [Bool.false_eq_true, if_false]
      rw [← List.filter_append, ← h₂, ih]

/-- The same, for a preorder that is total and transitive on a list `dom`
holding every item sorted. -/
theorem mergeSort_filter_of_mem {dom : List α}
    (trans : ∀ a ∈ dom, ∀ b ∈ dom, ∀ c ∈ dom, le a b → le b c → le a c)
    (total : ∀ a ∈ dom, ∀ b ∈ dom, le a b || le b a)
    (p : α → Bool) {l : List α} (hl : ∀ x ∈ l, x ∈ dom) :
    (l.mergeSort le).filter p = (l.filter p).mergeSort le := by
  -- sort the items as members of `dom`, where the preorder is total and transitive
  let le' : {x // x ∈ dom} → {x // x ∈ dom} → Bool := fun a b => le a.1 b.1
  let l' := l.pmap Subtype.mk hl
  have hval : l'.map Subtype.val = l := by
    simp only [l', List.map_pmap, List.pmap_eq_map, List.map_id']
  have hsort : ∀ xs : List {x // x ∈ dom}, (xs.mergeSort le').map Subtype.val =
      (xs.map Subtype.val).mergeSort le :=
    fun xs => List.map_mergeSort (fun _ _ _ _ => rfl)
  have hsorted : (l'.mergeSort le').filter (p ∘ Subtype.val) =
      (l'.filter (p ∘ Subtype.val)).mergeSort le' :=
    mergeSort_filter (fun a b c => trans a.1 a.2 b.1 b.2 c.1 c.2) (fun a b => total a.1 a.2 b.1 b.2) _ l'
  calc (l.mergeSort le).filter p
      = ((l'.mergeSort le').map Subtype.val).filter p := by rw [hsort, hval]
    _ = ((l'.mergeSort le').filter (p ∘ Subtype.val)).map Subtype.val := List.filter_map ..
    _ = ((l'.filter (p ∘ Subtype.val)).mergeSort le').map Subtype.val := by rw [hsorted]
    _ = (l.filter p).mergeSort le := by rw [hsort, ← List.filter_map, hval]

end StableSort

/-! ## Grouping rows by key -/

/-- A test of two items that is an equivalence on the items of a list. -/
structure EquivOn {α : Type} (R : α → α → Bool) (dom : List α) : Prop where
  refl : ∀ a ∈ dom, R a a
  symm : ∀ a ∈ dom, ∀ b ∈ dom, R a b → R b a
  trans : ∀ a ∈ dom, ∀ b ∈ dom, ∀ c ∈ dom, R a b → R b c → R a c

/-- Whether two rows hold equal cells at some positions, as the grouping of
rows by key compares them. -/
def sameKey (positions : List Nat) (a b : StoredRow) : Bool :=
  positions.all fun i => Cell.order (a.cell i) (b.cell i) == .eq

/-- One row of the grouping: appended to the groups whose first row it shares
a key with, or opening a group of its own. -/
def groupStep (positions : List Nat) (gs : List (StoredRow × List StoredRow)) (r : StoredRow) :
    List (StoredRow × List StoredRow) :=
  if gs.any (fun g => sameKey positions g.1 r) then
    gs.map fun g => if sameKey positions g.1 r then (g.1, g.2 ++ [r]) else g
  else gs ++ [(r, [r])]

theorem partitionRows_eq (positions : List Nat) (rows : List StoredRow) :
    partitionRows positions rows = (rows.foldl (groupStep positions) []).map (·.2) := rfl

section Grouping

variable {positions : List Nat} {dom : List StoredRow}

/-- The groups after some rows: one per first row of a key, holding the rows
of that key in order. -/
def Grouped (positions : List Nat) (P : List StoredRow) (gs : List (StoredRow × List StoredRow)) : Prop :=
  ∃ reps : List StoredRow, (∀ x ∈ reps, x ∈ P) ∧ (∀ x ∈ P, ∃ r ∈ reps, sameKey positions r x) ∧
    reps.Pairwise (fun a b => sameKey positions a b = false) ∧
    gs = reps.map fun rep => (rep, P.filter (sameKey positions rep))

/-- One row keeps the grouping: it joins the group of its key, or opens one. -/
theorem Grouped.step (h : EquivOn (sameKey positions) dom) {P : List StoredRow} {x : StoredRow}
    (hP : ∀ y ∈ P, y ∈ dom) (hx : x ∈ dom) {gs : List (StoredRow × List StoredRow)}
    (hg : Grouped positions P gs) : Grouped positions (P ++ [x]) (groupStep positions gs x) := by
  obtain ⟨reps, hsub, hcover, hpair, rfl⟩ := hg
  have hdom : ∀ r ∈ reps, r ∈ dom := fun r hr => hP r (hsub r hr)
  unfold groupStep
  split
  next hany =>
    obtain ⟨g, hg, hgx⟩ := List.any_eq_true.mp hany
    obtain ⟨r₀, hr₀, rfl⟩ := List.mem_map.mp hg
    refine ⟨reps, fun r hr => by simp [hsub r hr], fun y hy => ?_, hpair, ?_⟩
    · rcases List.mem_append.mp hy with hy | hy
      · exact hcover y hy
      · exact ⟨r₀, hr₀, by simpa [List.mem_singleton.mp hy] using hgx⟩
    · simp only [List.map_map]
      apply List.map_congr_left
      intro r hr
      by_cases hrx : sameKey positions r x <;> simp [hrx, List.filter_append]
  next hany =>
    have hnot : ∀ r ∈ reps, sameKey positions r x = false := by
      simpa using hany
    -- no earlier row shares the new row's key, or its representative would
    have hfresh : P.filter (sameKey positions x) = [] := by
      refine List.filter_eq_nil_iff.mpr fun y hy hxy => ?_
      obtain ⟨r, hr, hry⟩ := hcover y hy
      have hyx := h.symm x hx y (hP y hy) hxy
      have := h.trans r (hdom r hr) y (hP y hy) x hx hry hyx
      simp [hnot r hr] at this
    refine ⟨reps ++ [x], fun r hr => ?_, fun y hy => ?_, ?_, ?_⟩
    · rcases List.mem_append.mp hr with hr | hr
      · simp [hsub r hr]
      · simp [List.mem_singleton.mp hr]
    · rcases List.mem_append.mp hy with hy | hy
      · obtain ⟨r, hr, hry⟩ := hcover y hy
        exact ⟨r, by simp [hr], hry⟩
      · exact ⟨x, by simp, by simpa [List.mem_singleton.mp hy] using h.refl x hx⟩
    · exact List.pairwise_append.mpr ⟨hpair, by simp, fun a ha b hb => by
        simpa [List.mem_singleton.mp hb] using hnot a ha⟩
    · simp only [List.map_append, List.map_cons, List.map_nil, List.filter_append, hfresh,
        List.nil_append]
      congr 1
      · apply List.map_congr_left
        intro r hr
        simp [hnot r hr]
      · simp [h.refl x hx]

/-- The groups of a list of rows on which sharing a key is an equivalence:
one per key, in order of first appearance, each holding the rows of its key
in order. -/
theorem partitionRows_groups {rows : List StoredRow} (h : EquivOn (sameKey positions) rows) :
    ∃ reps : List StoredRow, (∀ x ∈ rows, ∃ r ∈ reps, sameKey positions r x) ∧
      (∀ r ∈ reps, r ∈ rows) ∧ reps.Pairwise (fun a b => sameKey positions a b = false) ∧
      partitionRows positions rows = reps.map fun rep => rows.filter (sameKey positions rep) := by
  -- the grouping of every prefix of the rows, one row at a time
  have hfold : ∀ P : List StoredRow, (∀ y ∈ P, y ∈ rows) →
      Grouped positions P (P.foldl (groupStep positions) []) := by
    intro P
    induction P using List.reverseRecOn with
    | nil => exact fun _ => ⟨[], by simp, by simp, .nil, rfl⟩
    | append_singleton P x ih =>
      intro hP
      rw [List.foldl_append, List.foldl_cons, List.foldl_nil]
      exact (ih fun y hy => hP y (by simp [hy])).step h (fun y hy => hP y (by simp [hy])) (hP x (by simp))
  obtain ⟨reps, hsub, hcover, hpair, hgs⟩ := hfold rows fun _ hy => hy
  refine ⟨reps, hcover, hsub, hpair, ?_⟩
  rw [partitionRows_eq, hgs, List.map_map]
  rfl

/-- A flatMap over items of which at most one passes a test, giving one list
for an item that passes and none for the others. -/
theorem flatMap_ite_of_pairwise {α β : Type} {m : α → Bool} {F : List β} {reps : List α}
    (h : reps.Pairwise fun a b => ¬(m a = true ∧ m b = true)) :
    reps.flatMap (fun r => if m r then F else []) = if reps.any m then F else [] := by
  induction reps with
  | nil => simp
  | cons r reps ih =>
    rw [List.flatMap_cons, ih (List.pairwise_cons.mp h).2]
    by_cases hr : m r
    · have hrest : reps.any m = false := by
        simpa using fun b hb hmb => (List.pairwise_cons.mp h).1 b hb ⟨hr, hmb⟩
      simp [hr, hrest]
    · simp [hr]

/-- The rows of one key after grouping the rows by key and treating each
group on its own, by a treatment `f` that keeps rows within their group:
they are the treatment of the rows of that key alone, when the rows of that
key are exactly those that share a key with any of them. -/
theorem filter_flatMap_partitionRows {rows : List StoredRow} (h : EquivOn (sameKey positions) rows)
    {m : StoredRow → Bool} (hm : ∀ a ∈ rows, ∀ b ∈ rows, m a = true → m b = sameKey positions a b)
    {f : List StoredRow → List StoredRow} (hf : ∀ g, ∀ y ∈ f g, y ∈ g) (hf0 : f [] = []) :
    ((partitionRows positions rows).flatMap f).filter m = f (rows.filter m) := by
  obtain ⟨reps, hcover, hsub, hpair, heq⟩ := partitionRows_groups h
  -- a group is the rows of the key, or holds none of them
  have hgroup : ∀ r ∈ reps, (f (rows.filter (sameKey positions r))).filter m =
      if m r then f (rows.filter m) else [] := by
    intro r hr
    by_cases hmr : m r
    · have hsame : rows.filter (sameKey positions r) = rows.filter m :=
        List.filter_congr fun b hb => (hm r (hsub r hr) b hb hmr).symm
      rw [hsame, if_pos hmr, List.filter_eq_self]
      intro y hy
      exact (List.mem_filter.mp (hf _ y hy)).2
    · rw [if_neg hmr, List.filter_eq_nil_iff]
      intro y hy hmy
      have hyr := List.mem_filter.mp (hf _ y hy)
      have hry : m r = sameKey positions y r := hm y hyr.1 r (hsub r hr) hmy
      rw [h.symm r (hsub r hr) y hyr.1 hyr.2] at hry
      exact hmr hry
  have hone : reps.Pairwise fun a b => ¬(m a = true ∧ m b = true) :=
    hpair.imp_of_mem fun {a b} ha hb hab hm₂ => by
      rw [hm a (hsub a ha) b (hsub b hb) hm₂.1] at hm₂
      simp [hab] at hm₂
  rw [heq, List.filter_flatMap, List.flatMap_map]
  rw [List.flatMap_congr hgroup, flatMap_ite_of_pairwise hone]
  split
  · rfl
  · next hany =>
    -- no group is of the key, so no row is
    have hnone : rows.filter m = [] := by
      refine List.filter_eq_nil_iff.mpr fun x hx hmx => hany ?_
      obtain ⟨r, hr, hrx⟩ := hcover x hx
      have hmr : m r = sameKey positions x r := hm x hx r (hsub r hr) hmx
      rw [h.symm r (hsub r hr) x hx hrx] at hmr
      exact List.any_eq_true.mpr ⟨r, hr, hmr⟩
    rw [hnone, hf0]

/-- Every row of a grouping is a row grouped. -/
theorem mem_of_mem_partitionRows {positions : List Nat} {rows g : List StoredRow}
    (hg : g ∈ partitionRows positions rows) {y : StoredRow} (hy : y ∈ g) : y ∈ rows := by
  rw [partitionRows_eq] at hg
  -- the groups only ever hold rows already walked
  have hwalk : ∀ (xs : List StoredRow) (gs : List (StoredRow × List StoredRow)),
      (∀ g ∈ gs, ∀ y ∈ g.2, y ∈ rows) → (∀ x ∈ xs, x ∈ rows) →
      ∀ g ∈ xs.foldl (groupStep positions) gs, ∀ y ∈ g.2, y ∈ rows := by
    intro xs
    induction xs with
    | nil => exact fun gs hgs _ => hgs
    | cons x xs ih =>
      intro gs hgs hxs
      apply ih _ _ fun x' hx' => hxs x' (by simp [hx'])
      intro g hg y hy
      unfold groupStep at hg
      split at hg
      · obtain ⟨g₀, hg₀, rfl⟩ := List.mem_map.mp hg
        split at hy
        · rcases List.mem_append.mp hy with hy | hy
          · exact hgs g₀ hg₀ y hy
          · rw [List.mem_singleton.mp hy]
            exact hxs x (by simp)
        · exact hgs g₀ hg₀ y hy
      · rcases List.mem_append.mp hg with hg | hg
        · exact hgs g hg y hy
        · rw [List.mem_singleton.mp hg] at hy
          rw [List.mem_singleton.mp hy]
          exact hxs x (by simp)
  obtain ⟨g', hg', rfl⟩ := List.mem_map.mp hg
  exact hwalk rows [] (by simp) (fun x hx => hx) g' hg' y hy

end Grouping

/-! ## Bindings that do not depend on their start -/

namespace Codec

theorem plainCell_ok_pos {pos pos' : Nat} {v : Value} {c : Cell} (h : plainCell pos v = .ok c) :
    plainCell pos' v = .ok c := by
  cases v <;> simp_all [plainCell]

/-- A value binds to the same cell at every parameter position; the position
shows only in failure messages. -/
theorem bind_ok_pos {pos pos' : Nat} {codec : Codec} {v : Value} {c : Cell} (h : codec.bind pos v = .ok c) :
    codec.bind pos' v = .ok c := by
  cases codec
  case enumeration values =>
    cases v
    case member name inner =>
      -- a member outside the enumeration binds as its inner value
      simp only [bind] at h ⊢
      split
      · simpa only [if_pos ‹_›] using h
      · simp only [if_neg ‹_›] at h
        exact plainCell_ok_pos h
    all_goals simp_all [bind]
  all_goals cases v <;> simp_all [bind, plainCell]

end Codec

/-- A binding whose success, and the value it gives, do not depend on the
position it starts at: placeholders are numbered, and only failure messages
name their numbers. -/
def Shiftless {α : Type} (m : Binding α) : Prop :=
  ∀ pos pos' a n, m.run pos = .ok (a, n) → ∃ n', m.run pos' = .ok (a, n')

namespace Shiftless

variable {α β : Type}

theorem pure (a : α) : Shiftless (Pure.pure a : Binding α) := by
  intro pos pos' b n h
  simp only [StateT.run_pure, Outcome.pure_eq_ok, Prod.mk.injEq] at h
  obtain ⟨rfl, -⟩ := h
  exact ⟨pos', rfl⟩

theorem lift (x : Outcome α) : Shiftless (StateT.lift x : Binding α) := by
  intro pos pos' b n h
  simp only [StateT.run_lift, Outcome.bind_eq_ok, Outcome.pure_eq_ok, Prod.mk.injEq] at h
  obtain ⟨a, hx, rfl, -⟩ := h
  exact ⟨pos', by simp [hx]⟩

theorem bind {m : Binding α} {f : α → Binding β} (hm : Shiftless m) (hf : ∀ a, Shiftless (f a)) :
    Shiftless (m >>= f) := by
  intro pos pos' b n h
  simp only [StateT.run_bind, Outcome.bind_eq_ok] at h ⊢
  obtain ⟨⟨a, k⟩, ha, hb⟩ := h
  obtain ⟨k', ha'⟩ := hm pos pos' a k ha
  obtain ⟨n', hb'⟩ := hf a k k' b n hb
  exact ⟨n', (a, k'), ha', hb'⟩

theorem map {m : Binding α} (f : α → β) (hm : Shiftless m) : Shiftless (f <$> m) := by
  rw [← bind_pure_comp]
  exact hm.bind fun a => pure (f a)

theorem mapM {f : α → Binding β} (hf : ∀ a, Shiftless (f a)) (xs : List α) : Shiftless (xs.mapM f) := by
  induction xs with
  | nil => exact pure []
  | cons x xs ih =>
    rw [List.mapM_cons]
    exact (hf x).bind fun b => ih.bind fun bs => pure (b :: bs)

/-- A binding that fails at one start fails at every start. -/
theorem error {m : Binding α} (hm : Shiftless m) {pos : Nat} (pos' : Nat) {e : Failure}
    (h : m.run pos = .error e) : ∃ e', m.run pos' = .error e' := by
  cases h' : m.run pos' with
  | error e' => exact ⟨e', rfl⟩
  | ok r =>
    obtain ⟨n, hn⟩ := hm pos' pos r.1 r.2 h'
    rw [h] at hn
    cases hn

end Shiftless

/-- Filling one placeholder with a value bound by a codec, then storing the
cell through the column's affinity. -/
theorem shiftless_fill (codec : Codec) (v : Value) (g : Cell → Cell) :
    Shiftless (do
      let pos ← nextPosition
      let cell ← StateT.lift (codec.bind pos v)
      Pure.pure (g cell) : Binding Cell) := by
  intro pos pos' a n h
  simp only [nextPosition, StateT.run_bind, StateT.run_modifyGet, StateT.run_lift, StateT.run_pure,
    Outcome.bind_eq_ok, Outcome.pure_eq_ok, Prod.mk.injEq] at h ⊢
  obtain ⟨_, rfl, _, ⟨c, hc, rfl⟩, rfl, -⟩ := h
  exact ⟨pos' + 1, _, rfl, _, ⟨c, Codec.bind_ok_pos hc, rfl⟩, rfl, rfl⟩


theorem shiftless_bindMember (d : ColumnDecl) (v : Value) : Shiftless (bindMember d v) :=
  shiftless_fill _ v d.affinity.operand

theorem shiftless_bindOperand (d : ColumnDecl) (v : Value) : Shiftless (bindOperand d v) :=
  shiftless_fill _ v d.affinity.operand

theorem shiftless_bindPattern (d : ColumnDecl) (v : Value) : Shiftless (bindPattern d v) := by
  have h := shiftless_fill (compareCodec d.type v) v id
  simp only [id, bind_pure] at h
  exact h

namespace StoredTable

theorem shiftless_columnOf (t : StoredTable) (c : Column) : Shiftless (t.columnOf c) := by
  unfold columnOf
  split
  · exact Shiftless.pure _
  · exact Shiftless.lift _

mutual

/-- Binding a predicate gives the same condition at every start. -/
theorem shiftless_bindPredicate (t : StoredTable) : (p : Predicate) → Shiftless (t.bindPredicate p)
  | .const _ => Shiftless.pure _
  | .test _ => Shiftless.pure _
  | .compare c _ (.param v) =>
    (t.shiftless_columnOf c).bind fun _ => (shiftless_bindOperand _ v).bind fun _ => Shiftless.pure _
  | .compare c _ (.truth _) => (t.shiftless_columnOf c).bind fun _ => Shiftless.pure _
  | .like c p _ _ =>
    (t.shiftless_columnOf c).bind fun _ => (shiftless_bindPattern _ p).bind fun _ => Shiftless.pure _
  | .oneOf c vs _ =>
    (t.shiftless_columnOf c).bind fun _ =>
      (Shiftless.mapM (fun v => shiftless_bindMember _ v) vs).bind fun _ => Shiftless.pure _
  | .isNull c _ => (t.shiftless_columnOf c).bind fun _ => Shiftless.pure _
  | .all ps => (shiftless_bindPredicates t ps).map _
  | .any ps => (shiftless_bindPredicates t ps).map _
  | .not p => (shiftless_bindPredicate t p).map _

theorem shiftless_bindPredicates (t : StoredTable) : (ps : List Predicate) → Shiftless (t.bindPredicates ps)
  | [] => Shiftless.pure _
  | p :: ps => (shiftless_bindPredicate t p).bind fun _ =>
    (shiftless_bindPredicates t ps).bind fun _ => Shiftless.pure _

end

end StoredTable

namespace Shiftless

variable {α β : Type}

/-- A walk of bindings that succeeds gives each item the value its binding
gives from any start. -/
theorem forall₂_of_mapM {f : α → Binding β} (hf : ∀ a, Shiftless (f a)) {xs : List α} {ys : List β}
    {pos n : Nat} (h : (xs.mapM f).run pos = .ok (ys, n)) :
    List.Forall₂ (fun x y => ∃ n, (f x).run 0 = .ok (y, n)) xs ys := by
  induction xs generalizing ys pos n with
  | nil =>
    simp only [List.mapM_nil, StateT.run_pure, Outcome.pure_eq_ok, Prod.mk.injEq] at h
    rw [← h.1]
    exact .nil
  | cons x xs ih =>
    simp only [List.mapM_cons, StateT.run_bind, StateT.run_pure, Outcome.bind_eq_ok,
      Outcome.pure_eq_ok, Prod.mk.injEq] at h
    obtain ⟨⟨y, k⟩, hy, ⟨ys', k'⟩, hys, rfl, -⟩ := h
    exact .cons (hf x pos 0 y k hy) (ih hys)

/-- A walk of bindings each of which succeeds succeeds from every start. -/
theorem mapM_of_forall₂ {f : α → Binding β} (hf : ∀ a, Shiftless (f a)) {xs : List α} {ys : List β}
    (h : List.Forall₂ (fun x y => ∃ n, (f x).run 0 = .ok (y, n)) xs ys) (pos : Nat) :
    ∃ n, (xs.mapM f).run pos = .ok (ys, n) := by
  induction h generalizing pos with
  | nil => exact ⟨pos, rfl⟩
  | @cons x y xs ys hxy _ ih =>
    obtain ⟨k, hk⟩ := hxy
    obtain ⟨k', hk'⟩ := hf x 0 pos y k hk
    obtain ⟨n, hn⟩ := ih k'
    refine ⟨n, ?_⟩
    simp only [List.mapM_cons, StateT.run_bind, StateT.run_pure, Outcome.bind_eq_ok,
      Outcome.pure_eq_ok]
    exact ⟨(y, k'), hk', (ys, n), hn, rfl⟩

/-- A walk of bindings that fails fails at one of its items. -/
theorem exists_error_of_mapM {α β : Type} {f : α → Binding β} {xs : List α} {pos : Nat} {e : Failure}
    (h : (xs.mapM f).run pos = .error e) : ∃ x ∈ xs, ∃ p e', (f x).run p = .error e' := by
  induction xs generalizing pos e with
  | nil => cases h
  | cons x xs ih =>
    cases hx : (f x).run pos with
    | error e' => exact ⟨x, List.mem_cons_self, pos, e', hx⟩
    | ok r =>
      cases hxs : (xs.mapM f).run r.2 with
      | error e' =>
        obtain ⟨x', hx', p, e'', h'⟩ := ih hxs
        exact ⟨x', List.mem_cons_of_mem _ hx', p, e'', h'⟩
      | ok rs =>
        have hok : ((x :: xs).mapM f).run pos = .ok (r.1 :: rs.1, rs.2) := by
          simp [List.mapM_cons, StateT.run_bind, hx, hxs]
        rw [hok] at h
        cases h

end Shiftless

namespace StoredTable

/-- The positions of the columns named by attribute keys, leaving out keys
that name none. -/
def keyColumns (t : StoredTable) (keys : List String) : List Nat :=
  (keys.map fun k => t.keyPosition? k).filterMap id

/-- The cells one key tuple binds to, one per key column. -/
def keyCells (t : StoredTable) (keys : List String) (tuple : List Value) : Binding (List Cell) :=
  (tuple.zip (t.keyColumns keys)).mapM fun (v, i) => bindMember (t.columnAt i) v

theorem bindKeys_eq (t : StoredTable) (keys : List String) (tuples : List (List Value)) :
    t.bindKeys keys tuples = (do
      let cells ← tuples.mapM (t.keyCells keys)
      pure (.keyIn (t.keyColumns keys) cells)) := rfl

theorem shiftless_keyCells (t : StoredTable) (keys : List String) (tuple : List Value) :
    Shiftless (t.keyCells keys tuple) :=
  Shiftless.mapM (fun _ => shiftless_bindMember _ _) _

/-- Binding key tuples succeeds with the cells each tuple binds to alone. -/
theorem bindKeys_ok {t : StoredTable} {keys : List String} {tuples : List (List Value)} {c : Condition}
    {pos n : Nat} (h : (t.bindKeys keys tuples).run pos = .ok (c, n)) :
    ∃ cells, c = .keyIn (t.keyColumns keys) cells ∧
      List.Forall₂ (fun k cs => ∃ n, (t.keyCells keys k).run 0 = .ok (cs, n)) tuples cells := by
  rw [bindKeys_eq] at h
  simp only [StateT.run_bind, StateT.run_pure, Outcome.bind_eq_ok, Outcome.pure_eq_ok,
    Prod.mk.injEq] at h
  obtain ⟨⟨cells, k⟩, hcells, rfl, -⟩ := h
  exact ⟨cells, rfl, Shiftless.forall₂_of_mapM (t.shiftless_keyCells keys) hcells⟩

/-- Key tuples that each bind bind together, from every start. -/
theorem bindKeys_of_forall₂ {t : StoredTable} {keys : List String} {tuples : List (List Value)}
    {cells : List (List Cell)}
    (h : List.Forall₂ (fun k cs => ∃ n, (t.keyCells keys k).run 0 = .ok (cs, n)) tuples cells) (pos : Nat) :
    ∃ n, (t.bindKeys keys tuples).run pos = .ok (.keyIn (t.keyColumns keys) cells, n) := by
  obtain ⟨n, hn⟩ := Shiftless.mapM_of_forall₂ (t.shiftless_keyCells keys) h pos
  refine ⟨n, ?_⟩
  rw [bindKeys_eq]
  simp only [StateT.run_bind, StateT.run_pure, Outcome.bind_eq_ok, Outcome.pure_eq_ok]
  exact ⟨(cells, n), hn, rfl⟩

end StoredTable

/-! ## What key conditions select -/

namespace Truth

@[simp] theorem disj_eq_true {a b : Truth} : disj a b = some true ↔ a = some true ∨ b = some true := by
  rcases a with _ | _ | _ <;> rcases b with _ | _ | _ <;> simp [disj]

@[simp] theorem conj_eq_true {a b : Truth} : conj a b = some true ↔ a = some true ∧ b = some true := by
  rcases a with _ | _ | _ <;> rcases b with _ | _ | _ <;> simp [conj]

end Truth

/-- A row is selected by a list of keys exactly when one of the keys selects
it. -/
theorem selects_keyIn {row : StoredRow} {cols : List Nat} {keys : List (List Cell)} :
    (Condition.keyIn cols keys).selects row = true ↔ ∃ k ∈ keys, keyEquals row cols k = some true := by
  -- the disjunction over the keys, one key at a time
  have hfold : ∀ (ks : List (List Cell)) (acc : Truth),
      ks.foldl (fun acc k => Truth.disj acc (keyEquals row cols k)) acc = some true ↔
        acc = some true ∨ ∃ k ∈ ks, keyEquals row cols k = some true := by
    intro ks
    induction ks with
    | nil => simp
    | cons k ks ih =>
      intro acc
      rw [List.foldl_cons, ih, Truth.disj_eq_true]
      simp only [List.mem_cons, exists_eq_or_imp]
      tauto
  simp only [Condition.selects, Condition.eval, beq_iff_eq]
  rw [hfold]
  simp

/-- A row is selected by a conjunction of two conditions exactly when both
select it. -/
theorem selects_all_pair {row : StoredRow} {a b : Condition} :
    (Condition.all [a, b]).selects row = true ↔ a.selects row = true ∧ b.selects row = true := by
  simp only [Condition.selects, Condition.eval, Condition.evalAll, beq_iff_eq, Truth.conj_eq_true]
  simp

/-! ## The rows of one key -/

theorem mem_page {α : Type} {offset : Nat} {limit : Option Nat} {rows : List α} {x : α}
    (h : x ∈ page offset limit rows) : x ∈ rows := by
  unfold page at h
  split at h
  · exact List.mem_of_mem_drop (List.mem_of_mem_take h)
  · exact List.mem_of_mem_drop h

@[simp] theorem page_nil {α : Type} (offset : Nat) (limit : Option Nat) : page offset limit ([] : List α) = [] := by
  unfold page
  split <;> simp

namespace StoredTable

theorem keyColumns_eq (t : StoredTable) (keys : List String) :
    t.keyColumns keys = keys.filterMap t.keyPosition? := by
  simp [keyColumns, List.filterMap_map]

/-- The condition of a read of children: a key condition beside the child
filter. -/
def keyCondition (t : StoredTable) (r : Relation) (keys : List (List Cell)) (filter : Condition) : Condition :=
  .all [.keyIn (t.keyColumns r.remoteKeys) keys, filter]

/-- Whether the child sort order is a total preorder on the rows of the
table, as a sort by keys presupposes. -/
def OrderSound (t : StoredTable) (order : List (Nat × Direction)) : Prop :=
  (∀ a ∈ t.rows, ∀ b ∈ t.rows, ∀ c ∈ t.rows, compareRows order a b != .gt → compareRows order b c != .gt →
    compareRows order a c != .gt) ∧
  ∀ a ∈ t.rows, ∀ b ∈ t.rows, (compareRows order a b != .gt) || (compareRows order b a != .gt)

/-- The rows a read of children takes for a condition, before they are read:
the rows it selects in the child order, and for a paged relation a page of
each group of rows sharing a remote key, counted in the child order or, with
window functions, numbered in the child order or else the key order. -/
def childRows (t : StoredTable) (windows : Bool) (r : Relation) (child : LoadSpec) (cond : Condition) :
    List StoredRow :=
  let order := t.sortKeys child.order
  let paged := r.isMany && (child.limit.isSome || child.offset.isSome)
  let offset := child.offset.getD 0
  let remote := r.remoteKeys.filterMap t.keyPosition?
  if !paged then t.selectRows cond order 0 none
  else if !windows then
    (partitionRows remote (t.selectRows cond order 0 none)).flatMap (page offset child.limit)
  else
    let windowOrder := if order.isEmpty then t.keyOrder else order
    (partitionRows remote (t.selectRows cond [] 0 none)).flatMap fun part =>
      page offset child.limit (part.mergeSort fun a b => compareRows windowOrder a b != .gt)

/-- The rows of one key: those its condition selects in the child order, and
for a paged relation the page of them. -/
def keyRows (t : StoredTable) (r : Relation) (child : LoadSpec) (cond : Condition) : List StoredRow :=
  if r.isMany && (child.limit.isSome || child.offset.isSome) then
    page (child.offset.getD 0) child.limit (t.selectRows cond (t.sortKeys child.order) 0 none)
  else t.selectRows cond (t.sortKeys child.order) 0 none

theorem selectRows_all (t : StoredTable) (cond : Condition) (order : List (Nat × Direction)) :
    t.selectRows cond order 0 none =
      if order.isEmpty then t.rows.filter cond.selects
      else (t.rows.filter cond.selects).mergeSort fun a b => compareRows order a b != .gt := by
  unfold selectRows
  split <;> simp

/-- A row a read of children takes is a row of the table its condition
selects. -/
theorem mem_childRows {t : StoredTable} {windows : Bool} {r : Relation} {child : LoadSpec} {cond : Condition}
    {x : StoredRow} (hx : x ∈ childRows t windows r child cond) : x ∈ t.rows ∧ cond.selects x = true := by
  have hsel : ∀ order, x ∈ t.selectRows cond order 0 none → x ∈ t.rows ∧ cond.selects x = true := by
    intro order hx
    rw [selectRows_all] at hx
    split at hx
    · exact List.mem_filter.mp hx
    · exact List.mem_filter.mp (List.mem_mergeSort.mp hx)
  simp only [childRows] at hx
  split at hx
  · exact hsel _ hx
  · split at hx
    · obtain ⟨g, hg, hxg⟩ := List.mem_flatMap.mp hx
      exact hsel _ (mem_of_mem_partitionRows hg (mem_page hxg))
    · obtain ⟨g, hg, hxg⟩ := List.mem_flatMap.mp hx
      exact hsel _ (mem_of_mem_partitionRows hg (List.mem_mergeSort.mp (mem_page hxg)))

section KeyRows

variable {t : StoredTable} {r : Relation} {child : LoadSpec} {keys : List (List Cell)} {filter : Condition}

/-- A row the condition of one of the keys selects is selected by the
condition of all of them. -/
theorem selects_keyCondition_of_mem {k : List Cell} (hk : k ∈ keys) {a : StoredRow}
    (h : (t.keyCondition r [k] filter).selects a = true) : (t.keyCondition r keys filter).selects a = true := by
  simp only [keyCondition, selects_all_pair, selects_keyIn, List.mem_singleton, exists_eq_left] at h ⊢
  exact ⟨⟨k, hk, h.1⟩, h.2⟩

/-- Among the rows the condition of all keys selects, the condition of one
key selects those the key's cells select. -/
theorem selects_keyCondition_single {k : List Cell} {a : StoredRow}
    (ha : (t.keyCondition r keys filter).selects a = true) :
    (t.keyCondition r [k] filter).selects a = true ↔
      keyEquals a (t.keyColumns r.remoteKeys) k = some true := by
  simp only [keyCondition, selects_all_pair, selects_keyIn, List.mem_singleton, exists_eq_left] at ha ⊢
  exact ⟨fun h => h.1, fun h => ⟨h, ha.2⟩⟩

/-- The rows one key selects, among the rows all keys select, in any order. -/
theorem filter_selectRows_keyCondition {k : List Cell} (hk : k ∈ keys) {order : List (Nat × Direction)}
    (horder : OrderSound t order) :
    (t.selectRows (t.keyCondition r keys filter) order 0 none).filter (t.keyCondition r [k] filter).selects =
      t.selectRows (t.keyCondition r [k] filter) order 0 none := by
  have hsub : (t.rows.filter (t.keyCondition r keys filter).selects).filter
      (t.keyCondition r [k] filter).selects = t.rows.filter (t.keyCondition r [k] filter).selects := by
    rw [List.filter_filter]
    apply List.filter_congr
    intro a _
    cases h : (t.keyCondition r [k] filter).selects a
    · simp
    · simp [selects_keyCondition_of_mem hk h]
  rw [selectRows_all, selectRows_all]
  split
  · exact hsub
  · rw [mergeSort_filter_of_mem horder.1 horder.2 _ fun x hx => List.mem_of_mem_filter hx, hsub]

/-- Sharing a remote key is an equivalence on rows that some key selects,
when each key's cells select exactly the rows sharing the key of any of
them. -/
theorem equivOn_sameKey {rows : List StoredRow}
    (hrows : ∀ a ∈ rows, a ∈ t.rows ∧ ∃ c ∈ keys, keyEquals a (t.keyColumns r.remoteKeys) c = some true)
    (hgroup : ∀ c ∈ keys, ∀ a ∈ t.rows, ∀ b ∈ t.rows, keyEquals a (t.keyColumns r.remoteKeys) c = some true →
      (keyEquals b (t.keyColumns r.remoteKeys) c = some true ↔ sameKey (t.keyColumns r.remoteKeys) a b = true)) :
    EquivOn (sameKey (t.keyColumns r.remoteKeys)) rows where
  refl a ha := by
    obtain ⟨hat, c, hc, hac⟩ := hrows a ha
    exact (hgroup c hc a hat a hat hac).mp hac
  symm a ha b hb hab := by
    obtain ⟨hat, c, hc, hac⟩ := hrows a ha
    have hbc := (hgroup c hc a hat b (hrows b hb).1 hac).mpr hab
    exact (hgroup c hc b (hrows b hb).1 a hat hbc).mp hac
  trans a ha b hb d hd hab hbd := by
    obtain ⟨hat, c, hc, hac⟩ := hrows a ha
    have hbc := (hgroup c hc a hat b (hrows b hb).1 hac).mpr hab
    have hdc := (hgroup c hc b (hrows b hb).1 d (hrows d hd).1 hbc).mpr hbd
    exact (hgroup c hc a hat d (hrows d hd).1 hac).mp hdc

theorem orderSound_nil (t : StoredTable) : OrderSound t [] :=
  ⟨fun _ _ _ _ _ _ _ _ => by simp [compareRows], fun _ _ _ _ => by simp [compareRows]⟩

/-- The rows one key selects among the rows a read takes for all keys are
the rows a read takes for that key alone, with or without window functions:
grouping by remote key, paging each group and sorting commute with keeping
the rows of one key. -/
theorem childRows_filter (windows : Bool) {k : List Cell} (hk : k ∈ keys)
    (horder : OrderSound t (t.sortKeys child.order))
    (hscan : t.sortKeys child.order = [] → t.rows.Pairwise fun a b => compareRows t.keyOrder a b != .gt)
    (hgroup : ∀ c ∈ keys, ∀ a ∈ t.rows, ∀ b ∈ t.rows, keyEquals a (t.keyColumns r.remoteKeys) c = some true →
      (keyEquals b (t.keyColumns r.remoteKeys) c = some true ↔ sameKey (t.keyColumns r.remoteKeys) a b = true)) :
    (childRows t windows r child (t.keyCondition r keys filter)).filter (t.keyCondition r [k] filter).selects =
      keyRows t r child (t.keyCondition r [k] filter) := by
  -- the rows all keys select, in any order, share keys by an equivalence that
  -- the condition of one key respects
  have hsel : ∀ order, ∀ a ∈ t.selectRows (t.keyCondition r keys filter) order 0 none,
      a ∈ t.rows ∧ (t.keyCondition r keys filter).selects a = true := by
    intro order a ha
    rw [selectRows_all] at ha
    split at ha
    · exact List.mem_filter.mp ha
    · exact List.mem_filter.mp (List.mem_mergeSort.mp ha)
  have hequiv : ∀ order,
      EquivOn (sameKey (t.keyColumns r.remoteKeys)) (t.selectRows (t.keyCondition r keys filter) order 0 none) := by
    intro order
    refine equivOn_sameKey (fun a ha => ?_) hgroup
    obtain ⟨hat, has⟩ := hsel order a ha
    simp only [keyCondition, selects_all_pair, selects_keyIn] at has
    exact ⟨hat, has.1⟩
  have hmatch : ∀ order, ∀ a ∈ t.selectRows (t.keyCondition r keys filter) order 0 none,
      ∀ b ∈ t.selectRows (t.keyCondition r keys filter) order 0 none,
      (t.keyCondition r [k] filter).selects a = true →
        (t.keyCondition r [k] filter).selects b = sameKey (t.keyColumns r.remoteKeys) a b := by
    intro order a ha b hb hma
    rw [Bool.eq_iff_iff, selects_keyCondition_single (hsel order b hb).2]
    rw [selects_keyCondition_single (hsel order a ha).2] at hma
    exact hgroup k hk a (hsel order a ha).1 b (hsel order b hb).1 hma
  unfold childRows keyRows
  rw [← keyColumns_eq]
  by_cases hpaged : (r.isMany && (child.limit.isSome || child.offset.isSome)) = true
  · rw [if_pos hpaged]
    simp only [hpaged, Bool.not_true, Bool.false_eq_true, if_false]
    cases windows
    · -- counted per group, in the child order
      simp only [Bool.not_false, if_true]
      rw [filter_flatMap_partitionRows (hequiv _) (hmatch _) (fun _ _ => mem_page) (page_nil _ _),
        filter_selectRows_keyCondition hk horder]
    · -- numbered per group by a window, in the child order or else the key order
      simp only [Bool.not_true, Bool.false_eq_true, if_false]
      rw [filter_flatMap_partitionRows (hequiv _) (hmatch _)
          (fun _ _ hy => List.mem_mergeSort.mp (mem_page hy)) (by simp),
        filter_selectRows_keyCondition hk (orderSound_nil t), selectRows_all, selectRows_all]
      simp only [List.isEmpty_nil, if_true]
      split
      · next hord =>
        have hsorted := (hscan (List.isEmpty_iff.mp hord)).sublist
          (List.filter_sublist (p := (t.keyCondition r [k] filter).selects))
        rw [List.mergeSort_of_pairwise hsorted]
      · rfl
  · rw [if_neg hpaged]
    simp only [hpaged, Bool.not_false, if_true]
    exact filter_selectRows_keyCondition hk horder

end KeyRows

end StoredTable


/-! ## Reading the children of one key -/

/-- Whether a child row's remote key equals a parent key, as children are
matched to their parents. -/
def matchesKey (r : Relation) (k : List Value) (c : LoadedRow) : Bool :=
  keyEq (keyOf c.values r.remoteKeys) k

namespace StoredTable

/-- Reads a child row under the keys a read of children needs. -/
def readChild (t : StoredTable) (r : Relation) (child : LoadSpec) (row : StoredRow) : Outcome LoadedRow := do
  let values ← t.readValues (specKeys child r.remoteKeys) row
  pure { values }

/-- What reading the children of a relation from a stored table assumes of
it, for the parent keys `U` may give. The child order sorts its rows by a
total preorder, and with no child order its rows are already in key order,
as a window that falls back on the key numbers them. Its remote key cells
compare as the loader compares keys: the cells a key binds to select exactly
the rows whose key reads back equal to the key, and among those exactly the
rows sharing the key cells of any of them; keys the loader counts as equal
bind alike and select the same rows. -/
structure ChildSound (t : StoredTable) (r : Relation) (child : LoadSpec) (U : List Value → Prop) : Prop where
  order : OrderSound t (t.sortKeys child.order)
  scan : t.sortKeys child.order = [] → t.rows.Pairwise fun a b => compareRows t.keyOrder a b != .gt
  reads : ∀ k, U k → ∀ cells n, (t.keyCells r.remoteKeys k).run 0 = .ok (cells, n) →
    ∀ a ∈ t.rows, ∀ c, t.readChild r child a = .ok c →
      (matchesKey r k c = true ↔ keyEquals a (t.keyColumns r.remoteKeys) cells = some true)
  groups : ∀ k, U k → ∀ cells n, (t.keyCells r.remoteKeys k).run 0 = .ok (cells, n) →
    ∀ a ∈ t.rows, ∀ b ∈ t.rows, keyEquals a (t.keyColumns r.remoteKeys) cells = some true →
      (keyEquals b (t.keyColumns r.remoteKeys) cells = some true ↔
        sameKey (t.keyColumns r.remoteKeys) a b = true)
  binds : ∀ k k', U k → U k' → keyEq k k' = true →
    ((∃ cells n, (t.keyCells r.remoteKeys k).run 0 = .ok (cells, n)) ↔
      ∃ cells n, (t.keyCells r.remoteKeys k').run 0 = .ok (cells, n))
  selects : ∀ k k', U k → U k' → keyEq k k' = true → ∀ cells n cells' n',
    (t.keyCells r.remoteKeys k).run 0 = .ok (cells, n) → (t.keyCells r.remoteKeys k').run 0 = .ok (cells', n') →
    ∀ a ∈ t.rows, keyEquals a (t.keyColumns r.remoteKeys) cells = some true ↔
      keyEquals a (t.keyColumns r.remoteKeys) cells' = some true

theorem fetchChildren_eq (db : Database) (windows : Bool) (r : Relation) (child : LoadSpec)
    (parentKeys : List (List Value)) :
    fetchChildren db windows r child parentKeys = (do
      let t ← db.tableOf child.table
      let (keyCond, pos) ← (t.bindKeys r.remoteKeys parentKeys).run 0
      let (filterCond, _) ← (t.bindPredicate child.predicate).run pos
      (childRows t windows r child (.all [keyCond, filterCond])).mapM (t.readChild r child)) := rfl

/-- A read of children that succeeds: the table, the key cells of the
parents, the child filter bound after them, and the rows read. -/
theorem fetchChildren_ok {db : Database} {windows : Bool} {r : Relation} {child : LoadSpec}
    {parentKeys : List (List Value)} {cs : List LoadedRow}
    (h : fetchChildren db windows r child parentKeys = .ok cs) :
    ∃ t cells pos filter n, db.tableOf child.table = .ok t ∧
      List.Forall₂ (fun k c => ∃ n, (t.keyCells r.remoteKeys k).run 0 = .ok (c, n)) parentKeys cells ∧
      (t.bindKeys r.remoteKeys parentKeys).run 0 = .ok (.keyIn (t.keyColumns r.remoteKeys) cells, pos) ∧
      (t.bindPredicate child.predicate).run pos = .ok (filter, n) ∧
      (childRows t windows r child (t.keyCondition r cells filter)).mapM (t.readChild r child) = .ok cs := by
  rw [fetchChildren_eq] at h
  simp only [Outcome.bind_eq_ok] at h
  obtain ⟨t, ht, ⟨keyCond, pos⟩, hkeys, ⟨filter, n⟩, hfilter, hrows⟩ := h
  obtain ⟨cells, rfl, hcells⟩ := bindKeys_ok hkeys
  exact ⟨t, cells, pos, filter, n, ht, hcells, hkeys, hfilter, hrows⟩


section OneKey

variable {db : Database} {r : Relation} {child : LoadSpec} {t : StoredTable} {U : List Value → Prop}

/-- Every cell list bound for the parent keys groups the rows it selects as
the key cells of any of them do. -/
theorem ChildSound.groups_of_forall₂ (hsound : ChildSound t r child U) {parentKeys : List (List Value)}
    {cellsK : List (List Cell)}
    (hcells : List.Forall₂ (fun k c => ∃ n, (t.keyCells r.remoteKeys k).run 0 = .ok (c, n)) parentKeys cellsK)
    (hU : ∀ k ∈ parentKeys, U k) :
    ∀ c ∈ cellsK, ∀ a ∈ t.rows, ∀ b ∈ t.rows, keyEquals a (t.keyColumns r.remoteKeys) c = some true →
      (keyEquals b (t.keyColumns r.remoteKeys) c = some true ↔
        sameKey (t.keyColumns r.remoteKeys) a b = true) := by
  intro c hc
  obtain ⟨k, hk, n, hkc⟩ := exists_of_forall₂_right hcells hc
  exact hsound.groups k (hU k hk) c n hkc

/-- A read of the children of one key takes the rows of that key, with or
without window functions. -/
theorem childRows_single (windows : Bool) (hsound : ChildSound t r child U) {k : List Value} (hk : U k)
    {cells : List Cell} {n : Nat} (hcells : (t.keyCells r.remoteKeys k).run 0 = .ok (cells, n))
    (filter : Condition) :
    childRows t windows r child (t.keyCondition r [cells] filter) =
      keyRows t r child (t.keyCondition r [cells] filter) := by
  have h : (childRows t windows r child (t.keyCondition r [cells] filter)).filter
      (t.keyCondition r [cells] filter).selects = keyRows t r child (t.keyCondition r [cells] filter) :=
    childRows_filter windows (List.mem_singleton_self cells) hsound.order hsound.scan
      (by simpa using hsound.groups k hk cells n hcells)
  rwa [List.filter_eq_self.mpr fun x hx => (mem_childRows hx).2] at h

/-- The children of one parent key, among the children read for all parent
keys, are the rows of that key read. -/
theorem fetchChildren_filter {windows : Bool} {parentKeys : List (List Value)} {cs : List LoadedRow}
    (h : fetchChildren db windows r child parentKeys = .ok cs) (ht : db.tableOf child.table = .ok t)
    (hsound : ChildSound t r child U) (hU : ∀ k ∈ parentKeys, U k) {k : List Value} (hk : k ∈ parentKeys) :
    ∃ cells n filter pos m, (t.keyCells r.remoteKeys k).run 0 = .ok (cells, n) ∧
      (t.bindPredicate child.predicate).run pos = .ok (filter, m) ∧
      (keyRows t r child (t.keyCondition r [cells] filter)).mapM (t.readChild r child) =
        .ok (cs.filter (matchesKey r k)) := by
  obtain ⟨t', cellsK, pos, filter, m, ht', hcells, -, hfilter, hrows⟩ := fetchChildren_ok h
  rw [ht] at ht'
  cases ht'
  obtain ⟨cells, hc, n, hkc⟩ := exists_of_forall₂_left hcells hk
  refine ⟨cells, n, filter, pos, m, hkc, hfilter, ?_⟩
  rw [← childRows_filter windows hc hsound.order hsound.scan (hsound.groups_of_forall₂ hcells hU)]
  refine Outcome.mapM_filter hrows fun x hx c hxc => ?_
  obtain ⟨hxt, hxs⟩ := mem_childRows hx
  rw [Bool.eq_iff_iff, selects_keyCondition_single hxs]
  exact hsound.reads k (hU k hk) cells n hkc x hxt c hxc

/-- A read of the children of one key reads the rows of that key. -/
theorem fetchChildren_single (windows : Bool) (ht : db.tableOf child.table = .ok t)
    (hsound : ChildSound t r child U) {k : List Value} (hk : U k) {cells : List Cell} {n : Nat}
    (hcells : (t.keyCells r.remoteKeys k).run 0 = .ok (cells, n)) {filter : Condition} {pos m : Nat}
    (hfilter : (t.bindPredicate child.predicate).run pos = .ok (filter, m)) :
    fetchChildren db windows r child [k] =
      (keyRows t r child (t.keyCondition r [cells] filter)).mapM (t.readChild r child) := by
  obtain ⟨pos₁, hkeys⟩ := bindKeys_of_forall₂ (.cons ⟨n, hcells⟩ .nil) 0
  obtain ⟨m₁, hfilter₁⟩ := shiftless_bindPredicate t child.predicate pos pos₁ filter m hfilter
  rw [fetchChildren_eq]
  simp only [ht, hkeys, hfilter₁, bind, Except.bind]
  exact congrArg _ (childRows_single windows hsound hk hcells filter)

/-- A read of children for some parent keys fails only when the read for one
of the keys alone fails, with or without window functions. -/
theorem fetchChildren_error {windows : Bool} (windows' : Bool) {parentKeys : List (List Value)} (hne : parentKeys ≠ [])
    {e : Failure} (h : fetchChildren db windows r child parentKeys = .error e)
    (hsound : ∀ t, db.tableOf child.table = .ok t → ChildSound t r child U) (hU : ∀ k ∈ parentKeys, U k) :
    ∃ k ∈ parentKeys, ∃ e', fetchChildren db windows' r child [k] = .error e' := by
  obtain ⟨k₀, hk₀⟩ := List.exists_mem_of_ne_nil parentKeys hne
  rw [fetchChildren_eq] at h
  cases ht : db.tableOf child.table with
  | error e' =>
    -- no table: every read fails
    exact ⟨k₀, hk₀, e', by simp [fetchChildren_eq, ht, bind, Except.bind]⟩
  | ok t =>
    have hs := hsound t ht
    simp only [ht, bind, Except.bind] at h
    cases hkeys : (t.bindKeys r.remoteKeys parentKeys).run 0 with
    | error e' =>
      -- a key that does not bind fails alone
      rw [bindKeys_eq] at hkeys
      simp only [StateT.run_bind] at hkeys
      cases hmap : (parentKeys.mapM (t.keyCells r.remoteKeys)).run 0 with
      | ok _ =>
        rw [hmap] at hkeys
        cases hkeys
      | error e'' =>
        obtain ⟨k, hk, p, e₁, hkp⟩ := Shiftless.exists_error_of_mapM hmap
        obtain ⟨e₂, hk0⟩ := (t.shiftless_keyCells r.remoteKeys k).error 0 hkp
        have hb : (t.bindKeys r.remoteKeys [k]).run 0 = .error e₂ := by
          rw [bindKeys_eq]
          simp only [List.mapM_cons, StateT.run_bind, hk0]
          rfl
        exact ⟨k, hk, e₂, by simp [fetchChildren_eq, ht, hb, bind, Except.bind]⟩
    | ok res =>
      obtain ⟨keyCond, pos⟩ := res
      obtain ⟨cellsK, rfl, hcells⟩ := bindKeys_ok hkeys
      simp only [hkeys] at h
      obtain ⟨c₀, -, n₀, hk₀c⟩ := exists_of_forall₂_left hcells hk₀
      obtain ⟨pos₀, hkeys₀⟩ := bindKeys_of_forall₂ (.cons ⟨n₀, hk₀c⟩ .nil) 0
      cases hf : (t.bindPredicate child.predicate).run pos with
      | error e' =>
        -- the filter fails to bind wherever it starts
        obtain ⟨e₂, hf₀⟩ := (shiftless_bindPredicate t child.predicate).error pos₀ hf
        exact ⟨k₀, hk₀, e₂, by simp [fetchChildren_eq, ht, hkeys₀, hf₀, bind, Except.bind]⟩
      | ok res' =>
        obtain ⟨filter, m⟩ := res'
        simp only [hf] at h
        -- a row that fails to read belongs to one key, whose read reads it
        obtain ⟨x, hx, hxe⟩ := Outcome.mapM_eq_error h
        obtain ⟨hxt, hxs⟩ := mem_childRows hx
        have hxs' := hxs
        simp only [selects_all_pair, selects_keyIn] at hxs'
        obtain ⟨c, hc, hxc⟩ := hxs'.1
        obtain ⟨k, hk, n, hkc⟩ := exists_of_forall₂_right hcells hc
        have hmem : x ∈ keyRows t r child (t.keyCondition r [c] filter) := by
          rw [← childRows_filter windows hc hs.order hs.scan (hs.groups_of_forall₂ hcells hU)]
          exact List.mem_filter.mpr ⟨hx, (selects_keyCondition_single hxs).mpr hxc⟩
        refine ⟨k, hk, ?_⟩
        rw [fetchChildren_single windows' ht hs (hU k hk) hkc hf]
        exact Outcome.mapM_error_of_mem hmem hxe

end OneKey

end StoredTable

end TableGraph.Store
