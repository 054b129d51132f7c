import Mathlib
import TableGraph.Api.Resolve
import TableGraph.Proofs.FailedMutations
import TableGraph.Proofs.FilterContext

/-!
# What a mutation that succeeds does to the store

`FailedMutations` says what a mutation that fails leaves behind. This module
says what an insert or an update that succeeds writes, read off the store's
statements rather than off particular rows:

* an insert adds one row per row it was given, holding that row's stored
  cells (`InsertedCell`: the value given, else the column's default, else the
  default storage supplies, else null) with the row id filled in, whether the
  rows went in as one statement or as one statement a row;
* an update makes its assignments on exactly the rows its bound condition
  selects, and leaves every other row as it was;
* before either runs, the call's checks decide whether it runs at all: an
  insert needs a non-empty list of input rows that convert and name every
  column required on insert; an update needs at least one value and a
  `where` filter that compiles, and a filter can refuse a call whose values
  are fine.

Row ids carry the argument. An update replaces a row by its row id, so the
description of an update holds only while every table has distinct row ids;
`Database.RowidsDistinct` is that invariant, and every statement, every call
and every run of calls keeps it.

## Main results

* `StoredTable.insertRows_ok`, `StoredTable.insertCells_ok`,
  `StoredTable.updateRows_ok` — one table's insert and update statements.
* `Store.insertRows_ok`, `Store.updateRows_ok` — the same, on the database.
* `Store.insertRows_rowidsDistinct`, `Store.updateRows_rowidsDistinct`,
  `Store.deleteRows_rowidsDistinct` — the step lemmas of the row-id
  invariant; `CompiledSchema.runCalls_rowidsDistinct` is its run lemma.
* `CompiledSchema.insertCall_effects`, `CompiledSchema.updateCall_effects`,
  together `CompiledSchema.insert_update_effects` — what an insert or an
  update call answers and commits, in every case of its checks.
-/

namespace TableGraph.Store

/-- Inserting by row id is a permutation of putting the row in front. -/
theorem insertByRowid_perm (r : StoredRow) (rows : List StoredRow) :
    (insertByRowid r rows).Perm (r :: rows) := by
  induction rows with
  | nil => rfl
  | cons x xs ih =>
    unfold insertByRowid
    split
    · rfl
    · exact (ih.cons x).trans (List.Perm.swap r x xs)

/-! ## One table's statements -/

namespace StoredTable

/-- The cells a checked row holds: the cells given, with the row id column,
when they leave it null, holding the row id. -/
def fill (t : StoredTable) (cells : List Cell) (rowid : Int) : List Cell :=
  match t.rowidColumn? with
  | some i => if (cells.getD i .null).isNull then cells.set i (.integer rowid) else cells
  | none => cells

/-- The row id and cells a checked row gets, before its constraints are
checked. -/
def rowidCells (t : StoredTable) (cells : List Cell) (fallback : Int) (nullRowidFails : Bool) :
    Outcome (Int × List Cell) :=
  match t.rowidColumn? with
  | some i =>
    match cells.getD i .null with
    | .null =>
      if nullRowidFails then .error (constraintFault "datatype mismatch")
      else pure (fallback, cells.set i (.integer fallback))
    | .integer n => pure (n, cells)
    | _ => .error (constraintFault "datatype mismatch")
  | none => pure (fallback, cells)

/-- A row that passes its checks has the row id and cells `rowidCells` gives;
on a table with a row id column, no other row holds its row id. -/
theorem checkRow_ok {t : StoredTable} {others : List StoredRow} {cells : List Cell} {fallback : Int}
    {nullRowidFails : Bool} {r : StoredRow} (h : t.checkRow others cells fallback nullRowidFails = .ok r) :
    t.rowidCells cells fallback nullRowidFails = .ok (r.rowid, r.cells) ∧
      (t.rowidColumn?.isSome → ∀ o ∈ others, o.rowid ≠ r.rowid) := by
  unfold checkRow at h
  unfold rowidCells
  split at h <;> (try split at h) <;> (try split at h)
  all_goals first
    | (simp [bind, Except.bind] at h; done)
    | (simp only [Outcome.bind_eq_ok, Outcome.pure_eq_ok] at h
       obtain ⟨_, rfl, _, -, h⟩ := h
       split at h
       · simp [bind, Except.bind] at h
       · simp only [Outcome.pure_eq_ok] at h
         subst h
         simp_all [pure, Except.pure])

/-- The cells of a checked row are the cells given with the row id filled in;
without a row id column the row id is the one offered, and an update, which
refuses a null row id, keeps the cells as they are. -/
theorem rowidCells_ok {t : StoredTable} {cells cells' : List Cell} {fallback rowid : Int}
    {nullRowidFails : Bool} (h : t.rowidCells cells fallback nullRowidFails = .ok (rowid, cells')) :
    cells' = t.fill cells rowid ∧ (t.rowidColumn? = none → rowid = fallback) ∧
      (nullRowidFails = true → cells' = cells) := by
  unfold rowidCells at h
  unfold fill
  split at h
  next i hi =>
    simp only [hi, reduceCtorEq, false_implies, true_and]
    split at h
    next hnull =>
      split at h
      · simp at h
      · simp only [Outcome.pure_eq_ok, Prod.mk.injEq] at h
        obtain ⟨rfl, rfl⟩ := h
        refine ⟨by rw [hnull]; rfl, by simp_all⟩
    next n hn =>
      simp only [Outcome.pure_eq_ok, Prod.mk.injEq] at h
      obtain ⟨rfl, rfl⟩ := h
      exact ⟨by rw [hn]; rfl, fun _ => rfl⟩
    next => simp at h
  next hi =>
    simp only [Outcome.pure_eq_ok, Prod.mk.injEq] at h
    obtain ⟨rfl, rfl⟩ := h
    simp [hi]

/-- The walk of an insert statement over its rows: each step adds one row,
holding the cells given with the row id filled in. -/
theorem insertRows_foldlM {cellss : List (List Cell)} {u u' : StoredTable} {done done' : List StoredRow}
    (h : cellss.foldlM (fun (acc : StoredTable × List StoredRow) cells => do
        let (t, done) := acc
        let r ← t.checkRow t.rows cells t.nextRowid false
        pure ({ t with rows := insertByRowid r t.rows }, done ++ [r])) (u, done) = .ok (u', done')) :
    u'.decl = u.decl ∧ ∃ news, done' = done ++ news ∧ u'.rows.Perm (u.rows ++ news) ∧
      List.Forall₂ (fun cells r => r.cells = u.fill cells r.rowid) cellss news := by
  induction cellss generalizing u done with
  | nil =>
    simp only [List.foldlM_nil, Outcome.pure_eq_ok, Prod.mk.injEq] at h
    obtain ⟨rfl, rfl⟩ := h
    exact ⟨rfl, [], by simp, by simp, .nil⟩
  | cons cells cellss ih =>
    simp only [List.foldlM_cons, Outcome.bind_eq_ok, Outcome.pure_eq_ok] at h
    obtain ⟨_, ⟨r, hr, rfl⟩, h⟩ := h
    obtain ⟨hdecl, news, rfl, hperm, hcells⟩ := ih h
    have hfill := (rowidCells_ok (checkRow_ok hr).1).1
    refine ⟨hdecl, r :: news, by simp, ?_, .cons hfill hcells⟩
    calc List.Perm u'.rows (insertByRowid r u.rows ++ news) := hperm
      List.Perm _ ((r :: u.rows) ++ news) := (insertByRowid_perm r u.rows).append_right news
      List.Perm _ (u.rows ++ r :: news) := List.perm_middle.symm

theorem le_foldl_max (rows : List StoredRow) (m : Int) :
    m ≤ rows.foldl (fun m r => max m r.rowid) m ∧ ∀ r ∈ rows, r.rowid ≤ rows.foldl (fun m r => max m r.rowid) m := by
  induction rows generalizing m with
  | nil => simp
  | cons x xs ih =>
    obtain ⟨hm, hxs⟩ := ih (max m x.rowid)
    refine ⟨le_trans (le_max_left _ _) hm, fun r hr => ?_⟩
    rcases List.mem_cons.mp hr with rfl | hmem
    · exact le_trans (le_max_right _ _) hm
    · exact hxs r hmem

/-- The next row id is above every row id of the table. -/
theorem rowid_lt_nextRowid (t : StoredTable) : ∀ r ∈ t.rows, r.rowid < t.nextRowid := by
  intro r hr
  have := (le_foldl_max t.rows 0).2 r hr
  unfold nextRowid
  omega

/-- An insert statement keeps the row ids of a table distinct. -/
theorem insertRows_nodup {t t' : StoredTable} {cellss : List (List Cell)} {news : List StoredRow}
    (hnodup : (t.rows.map (·.rowid)).Nodup) (h : t.insertRows cellss = .ok (t', news)) :
    (t'.rows.map (·.rowid)).Nodup := by
  have hwalk : ∀ (cellss : List (List Cell)) (u u' : StoredTable) (done done' : List StoredRow),
      (u.rows.map (·.rowid)).Nodup →
      cellss.foldlM (fun (acc : StoredTable × List StoredRow) cells => do
        let (t, done) := acc
        let r ← t.checkRow t.rows cells t.nextRowid false
        pure ({ t with rows := insertByRowid r t.rows }, done ++ [r])) (u, done) = .ok (u', done') →
      (u'.rows.map (·.rowid)).Nodup := by
    intro cellss
    induction cellss with
    | nil =>
      intro u u' done done' hu hfold
      simp only [List.foldlM_nil, Outcome.pure_eq_ok, Prod.mk.injEq] at hfold
      rw [← hfold.1]
      exact hu
    | cons cells cellss ih =>
      intro u u' done done' hu hfold
      simp only [List.foldlM_cons, Outcome.bind_eq_ok, Outcome.pure_eq_ok] at hfold
      obtain ⟨_, ⟨r, hr, rfl⟩, hrest⟩ := hfold
      apply ih _ _ _ _ _ hrest
      obtain ⟨hrc, hfresh⟩ := checkRow_ok hr
      -- the new row id is taken by no row: checked for a row id column, else the next one
      have hnew : r.rowid ∉ u.rows.map (·.rowid) := by
        intro hmem
        obtain ⟨o, ho, hrowid⟩ := List.mem_map.mp hmem
        cases hcol : u.rowidColumn? with
        | none =>
          have := u.rowid_lt_nextRowid o ho
          rw [(rowidCells_ok hrc).2.1 hcol] at hrowid
          omega
        | some i => exact hfresh (by simp [hcol]) o ho hrowid
      show ((insertByRowid r u.rows).map (·.rowid)).Nodup
      rw [((insertByRowid_perm _ _).map _).nodup_iff, List.map_cons, List.nodup_cons]
      exact ⟨hnew, hu⟩
  exact hwalk cellss t t' [] news hnodup h

/-- The cells of a row after an update's assignments, position by position. -/
def assignCells (assign : List (Nat × Cell)) (cells : List Cell) : List Cell :=
  assign.foldl (fun cs (i, c) => cs.set i c) cells

/-- In rows with distinct row ids, leaving out the row id of one of them
leaves out that row alone. -/
theorem filter_rowid_perm {rows A B : List StoredRow} {old : StoredRow} (hperm : rows.Perm (A ++ old :: B))
    (hnodup : (rows.map (·.rowid)).Nodup) :
    (rows.filter (·.rowid != old.rowid)).Perm (A ++ B) ∧ ∀ x ∈ A ++ B, x.rowid ≠ old.rowid := by
  have hnd : ((A ++ old :: B).map (·.rowid)).Nodup := (hperm.map _).nodup_iff.mp hnodup
  simp only [List.map_append, List.map_cons, List.nodup_middle, List.nodup_cons] at hnd
  have hother : ∀ x ∈ A ++ B, x.rowid ≠ old.rowid := by
    intro x hx heq
    apply hnd.1
    rw [← heq, ← List.map_append]
    exact List.mem_map_of_mem hx
  refine ⟨?_, hother⟩
  have hkeep : (A ++ old :: B).filter (·.rowid != old.rowid) = A ++ B := by
    rw [List.filter_append, List.filter_cons_of_neg (by simp), List.filter_eq_self.mpr,
      List.filter_eq_self.mpr]
    · intro x hx; simpa using hother x (by simp [hx])
    · intro x hx; simpa using hother x (by simp [hx])
  rw [← hkeep]
  exact hperm.filter _

/-- The walk of an update statement over the rows it selects, with the rows
still to update (`rest`) and those updated (`done`) kept apart from the others
(`K`): each step swaps one old row for one holding its assigned cells, and the
row ids stay distinct. -/
theorem updateRows_foldlM {assign : List (Nat × Cell)} {K rest : List StoredRow} {u u' : StoredTable}
    {done done' : List StoredRow} (hperm : u.rows.Perm (K ++ done ++ rest))
    (hnodup : (u.rows.map (·.rowid)).Nodup)
    (h : rest.foldlM (fun (acc : StoredTable × List StoredRow) old => do
        let (t, done) := acc
        let cells := assignCells assign old.cells
        let others := t.rows.filter fun (x : StoredRow) => x.rowid != old.rowid
        let r ← t.checkRow others cells old.rowid true
        pure ({ t with rows := insertByRowid r others }, done ++ [r])) (u, done) = .ok (u', done')) :
    u'.decl = u.decl ∧ ∃ news, done' = done ++ news ∧ u'.rows.Perm (K ++ done') ∧
      (u'.rows.map (·.rowid)).Nodup ∧
      List.Forall₂ (fun old r => r.cells = assignCells assign old.cells) rest news := by
  induction rest generalizing u done with
  | nil =>
    simp only [List.foldlM_nil, Outcome.pure_eq_ok, Prod.mk.injEq] at h
    obtain ⟨rfl, rfl⟩ := h
    exact ⟨rfl, [], by simp, by simpa using hperm, hnodup, .nil⟩
  | cons old rest ih =>
    simp only [List.foldlM_cons, Outcome.bind_eq_ok, Outcome.pure_eq_ok] at h
    obtain ⟨_, ⟨r, hr, rfl⟩, h⟩ := h
    obtain ⟨hrc, hfresh⟩ := checkRow_ok hr
    obtain ⟨-, hnone, hsame⟩ := rowidCells_ok hrc
    -- the other rows are those before and after the old one
    obtain ⟨hothers, hne⟩ := filter_rowid_perm (A := K ++ done) (B := rest)
      (by simpa using hperm) hnodup
    have hfresh' : r.rowid ∉ (u.rows.filter (·.rowid != old.rowid)).map (·.rowid) := by
      intro hmem
      obtain ⟨o, ho, hrowid⟩ := List.mem_map.mp hmem
      cases hcol : u.rowidColumn? with
      | none =>
        rw [hnone hcol] at hrowid
        simp [List.mem_filter, hrowid] at ho
      | some i => exact hfresh (by simp [hcol]) o ho hrowid
    have hperm₁ : (insertByRowid r (u.rows.filter (·.rowid != old.rowid))).Perm
        (K ++ (done ++ [r]) ++ rest) := by
      calc List.Perm _ (r :: u.rows.filter (·.rowid != old.rowid)) := insertByRowid_perm _ _
        List.Perm _ (r :: (K ++ done ++ rest)) := hothers.cons r
        List.Perm _ (K ++ (done ++ [r]) ++ rest) := by
          have hsplit : K ++ (done ++ [r]) ++ rest = (K ++ done) ++ r :: rest := by simp
          rw [hsplit]
          exact List.perm_middle.symm
    have hnodup₁ : ((insertByRowid r (u.rows.filter (·.rowid != old.rowid))).map (·.rowid)).Nodup := by
      rw [((insertByRowid_perm _ _).map _).nodup_iff, List.map_cons, List.nodup_cons]
      exact ⟨hfresh', (List.filter_sublist.map _).nodup hnodup⟩
    obtain ⟨hdecl, news, rfl, hperm', hnodup', hcells⟩ := ih hperm₁ hnodup₁ h
    refine ⟨hdecl, r :: news, by simp, by simpa using hperm', hnodup', .cons ?_ hcells⟩
    rw [hsame rfl]

/-- A table after an update: the same declaration; the rows the condition
does not select as they were, and for each row it selects, in order, one row
holding its cells with the assignments made. -/
def Updates (st : StoredTable) (assign : List (Nat × Cell)) (cond : Condition) (st' : StoredTable)
    (updated : List StoredRow) : Prop :=
  st'.decl = st.decl ∧ st'.rows.Perm (st.rows.filter (fun r => !cond.selects r) ++ updated) ∧
    List.Forall₂ (fun old r => r.cells = assignCells assign old.cells) (st.rows.filter cond.selects) updated

/-- An update statement that succeeds, on rows with distinct row ids, keeps
the declaration and the row ids distinct; the rows the condition does not
select stay as they were, and each row it selects is replaced by one row
holding its cells with the assignments made. -/
theorem updateRows_ok {t t' : StoredTable} {assign : List (Nat × Cell)} {cond : Condition}
    {updated : List StoredRow} (hnodup : (t.rows.map (·.rowid)).Nodup)
    (h : t.updateRows assign cond = .ok (t', updated)) :
    Updates t assign cond t' updated ∧ (t'.rows.map (·.rowid)).Nodup := by
  have hstart : t.rows.Perm (t.rows.filter (fun r => !cond.selects r) ++ [] ++ t.rows.filter cond.selects) := by
    simpa using (List.perm_append_comm.trans (List.filter_append_perm cond.selects t.rows)).symm
  obtain ⟨hdecl, news, hnews, hperm, hnd, hcells⟩ := updateRows_foldlM hstart hnodup h
  simp only [List.nil_append] at hnews
  subst hnews
  exact ⟨⟨hdecl, hperm, hcells⟩, hnd⟩

/-- The cell a column takes in a row inserted with some values: the value
given, else the column's default, stored at some parameter position; else
the default storage supplies; else null. -/
def InsertedCell (values : Row) (c : ColumnDecl) (cell : Cell) : Prop :=
  match Value.lookup? values c.key, c.default, c.serverDefault with
  | some v, _, _ => ∃ pos, c.storeValue pos v = .ok cell
  | none, some d, _ => ∃ pos, c.storeValue pos d = .ok cell
  | none, none, some s => cell = c.affinity.store (.text s)
  | none, none, none => cell = .null

/-- One column of `insertCells`: its cell, and the parameter positions used
so far. -/
def insertStep (values : Row) (acc : List Cell × Nat) (c : ColumnDecl) : Outcome (List Cell × Nat) := do
  let (cells, pos) := acc
  match Value.lookup? values c.key, c.default, c.serverDefault with
  | some v, _, _ => do
    let cell ← c.storeValue (pos + 1) v
    pure (cells ++ [cell], pos + 1)
  | none, some d, _ => do
    let cell ← c.storeValue (pos + 1) d
    pure (cells ++ [cell], pos + 1)
  | none, none, some s => pure (cells ++ [c.affinity.store (.text s)], pos)
  | none, none, none => pure (cells ++ [.null], pos)

theorem insertStep_ok {values : Row} {cells cells' : List Cell} {pos pos' : Nat} {c : ColumnDecl}
    (h : insertStep values (cells, pos) c = .ok (cells', pos')) :
    ∃ cell, cells' = cells ++ [cell] ∧ InsertedCell values c cell := by
  simp only [insertStep] at h
  unfold InsertedCell
  cases hv : Value.lookup? values c.key with
  | some v =>
    simp only [hv, Outcome.bind_eq_ok, Outcome.pure_eq_ok, Prod.mk.injEq] at h ⊢
    obtain ⟨cell, hcell, rfl, -⟩ := h
    exact ⟨cell, rfl, _, hcell⟩
  | none =>
    cases hd : c.default with
    | some d =>
      simp only [hv, hd, Outcome.bind_eq_ok, Outcome.pure_eq_ok, Prod.mk.injEq] at h ⊢
      obtain ⟨cell, hcell, rfl, -⟩ := h
      exact ⟨cell, rfl, _, hcell⟩
    | none =>
      cases hs : c.serverDefault with
      | some text =>
        simp only [hv, hd, hs, Outcome.pure_eq_ok, Prod.mk.injEq] at h ⊢
        exact ⟨_, h.1.symm, rfl⟩
      | none =>
        simp only [hv, hd, hs, Outcome.pure_eq_ok, Prod.mk.injEq] at h ⊢
        exact ⟨_, h.1.symm, rfl⟩

/-- The cells of an inserted row, column by column. -/
theorem insertCells_ok {t : StoredTable} {values : Row} {cells : List Cell}
    (h : t.insertCells values = .ok cells) : List.Forall₂ (InsertedCell values) t.decl.columns cells := by
  -- the walk over the columns appends one cell per column
  have hwalk : ∀ (cols : List ColumnDecl) (acc : List Cell) (pos : Nat) (cells' : List Cell) (pos' : Nat),
      cols.foldlM (insertStep values) (acc, pos) = .ok (cells', pos') →
      ∃ new, cells' = acc ++ new ∧ List.Forall₂ (InsertedCell values) cols new := by
    intro cols
    induction cols with
    | nil =>
      intro acc pos cells' pos' hfold
      simp only [List.foldlM_nil, Outcome.pure_eq_ok, Prod.mk.injEq] at hfold
      exact ⟨[], by simp [hfold.1], .nil⟩
    | cons c cols ih =>
      intro acc pos cells' pos' hfold
      simp only [List.foldlM_cons, Outcome.bind_eq_ok] at hfold
      obtain ⟨⟨acc₁, pos₁⟩, hstep, hrest⟩ := hfold
      obtain ⟨cell, rfl, hcell⟩ := insertStep_ok hstep
      obtain ⟨new, rfl, hnew⟩ := ih _ _ _ _ hrest
      exact ⟨cell :: new, by simp, .cons hcell hnew⟩
  simp only [insertCells, Outcome.bind_eq_ok, Outcome.pure_eq_ok] at h
  obtain ⟨⟨cells', pos'⟩, hfold, rfl⟩ := h
  obtain ⟨new, rfl, hnew⟩ := hwalk t.decl.columns [] 0 cells' pos' hfold
  simpa using hnew

/-- An insert statement keeps the declaration, and the table's rows become
the rows before and one new row per cells given, which holds those cells
with the row id filled in. -/
theorem insertRows_ok {t t' : StoredTable} {cellss : List (List Cell)} {news : List StoredRow}
    (h : t.insertRows cellss = .ok (t', news)) :
    t'.decl = t.decl ∧ t'.rows.Perm (t.rows ++ news) ∧
      List.Forall₂ (fun cells r => r.cells = t.fill cells r.rowid) cellss news := by
  obtain ⟨hdecl, news', hnews, hperm, hcells⟩ := insertRows_foldlM h
  simp only [List.nil_append] at hnews
  subst hnews
  exact ⟨hdecl, hperm, hcells⟩

theorem fill_congr {t u : StoredTable} (h : t.decl = u.decl) : t.fill = u.fill := by
  funext cells rowid
  simp only [fill, rowidColumn?, h]

/-- A table after an insert of rows: the same declaration, and its rows are
the rows before and one new row per row inserted, holding, column by column,
the cell that row gives the column (`InsertedCell`), with the row id filled
in. -/
def AddsRows (st : StoredTable) (rows : List Row) (st' : StoredTable) : Prop :=
  st'.decl = st.decl ∧ ∃ news : List StoredRow, st'.rows.Perm (st.rows ++ news) ∧
    List.Forall₂ (fun row r => ∃ cells, List.Forall₂ (InsertedCell row) st.decl.columns cells ∧
      r.cells = st.fill cells r.rowid) rows news

theorem AddsRows.append {st st₁ st₂ : StoredTable} {rows₁ rows₂ : List Row}
    (h₁ : AddsRows st rows₁ st₁) (h₂ : AddsRows st₁ rows₂ st₂) : AddsRows st (rows₁ ++ rows₂) st₂ := by
  obtain ⟨hdecl₁, news₁, hperm₁, hcells₁⟩ := h₁
  obtain ⟨hdecl₂, news₂, hperm₂, hcells₂⟩ := h₂
  rw [hdecl₁, fill_congr hdecl₁] at hcells₂
  refine ⟨hdecl₂.trans hdecl₁, news₁ ++ news₂, ?_, List.rel_append hcells₁ hcells₂⟩
  calc List.Perm st₂.rows (st₁.rows ++ news₂) := hperm₂
    List.Perm _ ((st.rows ++ news₁) ++ news₂) := hperm₁.append_right news₂
    List.Perm _ (st.rows ++ (news₁ ++ news₂)) := by rw [List.append_assoc]

end StoredTable

/-! ## Statements on the database -/

namespace Database

/-- Putting two tables of one name keeps the second. -/
theorem put_put (db : Database) {st₁ st₂ : StoredTable} (h : st₁.decl.name = st₂.decl.name) :
    (db.put st₁).put st₂ = db.put st₂ := by
  simp only [put, List.map_map, Database.mk.injEq]
  apply List.map_congr_left
  intro u _
  by_cases hu : u.decl.name = st₂.decl.name <;> simp [hu, h]

/-- A table put in place of one of the same name is the one found. -/
theorem tableOf_put {db : Database} {t : Table} {st st' : StoredTable} (hst : db.tableOf t = .ok st)
    (h : st'.decl.name = st.decl.name) : (db.put st').tableOf t = .ok st' := by
  unfold tableOf table? at hst ⊢
  split at hst
  next st₀ hfind =>
    simp only [Except.ok.injEq] at hst
    subst hst
    have hname : st'.decl.name = t.name := h.trans (by simpa using List.find?_some hfind)
    have hsame : ((·.decl.name == t.name) ∘ fun u => if u.decl.name == st'.decl.name then st' else u) =
        (·.decl.name == t.name) := by
      funext u
      by_cases hu : u.decl.name = t.name <;> simp [hu, hname]
    simp only [put]
    rw [List.find?_map, hsame, hfind]
    simp [h]
  next => simp at hst

end Database

/-- The rows read back: one per row written when the backend returns rows,
none otherwise. -/
theorem returnedRows_length {st : StoredTable} {t : Table} {returning : Bool} {rows : List StoredRow}
    {out : List Row} (h : returnedRows st t returning rows = .ok out) :
    out.length = if returning then rows.length else 0 := by
  unfold returnedRows at h
  split at h
  next hr => simp [hr, (Outcome.forall₂_of_mapM h).length_eq]
  next hr =>
    simp only [Except.ok.injEq] at h
    simp [← h, hr]

/-- An insert statement that succeeds adds the rows to its table, and reads
back one row per row inserted when the backend returns rows. -/
theorem insertStatement_ok {returning : Bool} {db db' : Database} {t : Table} {rows returned : List Row}
    (h : insertStatement returning db t rows = .ok (db', returned)) :
    ∃ st st', db.tableOf t = .ok st ∧ db' = db.put st' ∧ StoredTable.AddsRows st rows st' ∧
      returned.length = if returning then rows.length else 0 := by
  simp only [insertStatement, Outcome.bind_eq_ok, Outcome.pure_eq_ok, Prod.mk.injEq] at h
  obtain ⟨st, hst, cellss, hcells, ⟨st', news⟩, hins, out, hout, rfl, rfl⟩ := h
  obtain ⟨hdecl, hperm, hfill⟩ := StoredTable.insertRows_ok hins
  have hlen : rows.length = news.length := (Outcome.forall₂_of_mapM hcells).length_eq.trans hfill.length_eq
  have hnews : List.Forall₂ (fun row r => ∃ cells, List.Forall₂ (StoredTable.InsertedCell row)
      st.decl.columns cells ∧ r.cells = st.fill cells r.rowid) rows news := by
    refine (forall₂_compose (Outcome.forall₂_of_mapM hcells) hfill).imp ?_
    rintro row r ⟨cells, hrow, hr⟩
    exact ⟨cells, StoredTable.insertCells_ok hrow, hr⟩
  refine ⟨st, st', hst, rfl, ⟨hdecl, news, hperm, hnews⟩, ?_⟩
  rw [returnedRows_length hout, hlen]

/-- Batches run one after another, all succeeding: together they add all their
rows to the one table, and read back one row per row when the backend returns
rows. -/
theorem foldl_batchStep_eq_ok {returning : Bool} {t : Table} {bs : List (List Row)} {out out' : List Row}
    {db db' : Database} (hne : bs ≠ [])
    (h : bs.foldl (batchStep returning t) (.ok out, db) = (.ok out', db')) :
    ∃ st st', db.tableOf t = .ok st ∧ db' = db.put st' ∧ StoredTable.AddsRows st bs.flatten st' ∧
      out'.length = out.length + if returning then bs.flatten.length else 0 := by
  induction bs generalizing out db with
  | nil => exact absurd rfl hne
  | cons b bs ih =>
    rw [List.foldl_cons] at h
    cases hb : insertStatement returning db t b with
    | error e =>
      rw [batchStep, hb, foldl_batchStep_of_error] at h
      simp at h
    | ok r =>
      obtain ⟨db₁, returned⟩ := r
      rw [batchStep, hb] at h
      obtain ⟨st, st₁, hst, rfl, hadds, hlen⟩ := insertStatement_ok hb
      cases bs with
      | nil =>
        simp only [List.foldl_nil, Prod.mk.injEq, Except.ok.injEq] at h
        obtain ⟨rfl, rfl⟩ := h
        refine ⟨st, st₁, hst, rfl, by simpa using hadds, ?_⟩
        simp [hlen]
      | cons b' bs =>
        obtain ⟨st₁', st₂, hst₁, rfl, hadds₂, hlen₂⟩ := ih (List.cons_ne_nil _ _) h
        have hname : st₁.decl.name = st.decl.name := by rw [hadds.1]
        rw [Database.tableOf_put hst hname, Except.ok.injEq] at hst₁
        subst hst₁
        have hname₂ : st₁.decl.name = st₂.decl.name := by rw [hadds₂.1]
        refine ⟨st, st₂, hst, Database.put_put _ hname₂, hadds.append hadds₂, ?_⟩
        rw [hlen₂, List.length_append, hlen]
        split
        · simp only [List.flatten_cons, List.length_append]
          omega
        · rfl

/-- An insert that succeeds adds its rows to the table, one new row per row,
whether it ran as one statement or as one a row, and reads back one row per
row when the backend returns rows. -/
theorem insertRows_ok {returning : Bool} {t : Table} {rows returned : List Row} {db db' : Database}
    (hne : rows ≠ []) (h : insertRows returning t rows db = (.ok returned, db')) :
    ∃ st st', db.tableOf t = .ok st ∧ db' = db.put st' ∧ StoredTable.AddsRows st rows st' ∧
      returned.length = if returning then rows.length else 0 := by
  rw [insertRows_eq_foldl] at h
  have hflat : (batchesOf rows).flatten = rows := by
    unfold batchesOf
    split
    · simp
    · rw [← List.flatMap_def, List.flatMap_singleton']
  have hbs : batchesOf rows ≠ [] := by
    unfold batchesOf
    split <;> simp [hne]
  obtain ⟨st, st', hst, hdb, hadds, hlen⟩ := foldl_batchStep_eq_ok hbs h
  rw [hflat] at hadds hlen
  exact ⟨st, st', hst, hdb, hadds, by simpa using hlen⟩

/-- The assignments of an update: for each column given a value, its
position and the value stored. -/
def assignmentOf (st : StoredTable) (values : Row) : Outcome (List (Nat × Cell) × Nat) :=
  (st.decl.columns.zipIdx.filterMap fun (c, i) => (Value.lookup? values c.key).map (c, i, ·)).foldlM
    (fun (acc : List (Nat × Cell) × Nat) (c, i, v) => do
      let cell ← c.storeValue (acc.2 + 1) v
      pure (acc.1 ++ [(i, cell)], acc.2 + 1)) ([], 0)

/-- An update that succeeds, on a table with distinct row ids, makes its
assignments on exactly the rows its bound condition selects, keeps the row
ids distinct, and reads back the rows it updated. -/
theorem updateRows_ok {returning : Bool} {t : Table} {values : Row} {p : Predicate} {db db' : Database}
    {returned : List Row} (hnodup : ∀ st, db.tableOf t = .ok st → (st.rows.map (·.rowid)).Nodup)
    (h : updateRows returning t values p db = (.ok returned, db')) :
    ∃ st st' assign pos cond n updated, db.tableOf t = .ok st ∧ assignmentOf st values = .ok (assign, pos) ∧
      (st.bindPredicate p).run pos = .ok (cond, n) ∧ db' = db.put st' ∧
      StoredTable.Updates st assign cond st' updated ∧ (st'.rows.map (·.rowid)).Nodup ∧
      returnedRows st' t returning updated = .ok returned := by
  simp only [updateRows] at h
  split at h
  next db₁ rows hrun =>
    simp only [Prod.mk.injEq, Except.ok.injEq] at h
    obtain ⟨rfl, rfl⟩ := h
    simp only [Outcome.bind_eq_ok, Outcome.pure_eq_ok, Prod.mk.injEq] at hrun
    obtain ⟨st, hst, ⟨assign, pos⟩, hassign, ⟨cond, n⟩, hcond, ⟨st', updated⟩, hupd, out, hout, rfl, rfl⟩ := hrun
    obtain ⟨hupdates, hnd⟩ := StoredTable.updateRows_ok (hnodup st hst) hupd
    exact ⟨st, st', assign, pos, cond, n, updated, hst, hassign, hcond, rfl, hupdates, hnd, hout⟩
  next => simp at h

/-! ## Distinct row ids -/

namespace Database

/-- Every table of a database has distinct row ids. -/
def RowidsDistinct (db : Database) : Prop := ∀ st ∈ db.tables, (st.rows.map (·.rowid)).Nodup

theorem rowidsDistinct_empty (decls : List TableDecl) : (Database.empty decls).RowidsDistinct := by
  intro st hst
  simp only [Database.empty, List.mem_map] at hst
  obtain ⟨d, -, rfl⟩ := hst
  simp

theorem RowidsDistinct.put {db : Database} {st : StoredTable} (h : db.RowidsDistinct)
    (hst : (st.rows.map (·.rowid)).Nodup) : (db.put st).RowidsDistinct := by
  intro u hu
  simp only [Database.put, List.mem_map] at hu
  obtain ⟨v, hv, rfl⟩ := hu
  split
  · exact hst
  · exact h v hv

theorem RowidsDistinct.tableOf {db : Database} {t : Table} {st : StoredTable} (h : db.RowidsDistinct)
    (hst : db.tableOf t = .ok st) : (st.rows.map (·.rowid)).Nodup := by
  unfold Database.tableOf Database.table? at hst
  split at hst
  next st' hfind =>
    simp only [Except.ok.injEq] at hst
    subst hst
    exact h _ (List.mem_of_find?_eq_some hfind)
  next => simp at hst

end Database

section RowidsDistinct

variable {returning : Bool} {t : Table} {db : Database}

/-- The step lemmas of the invariant: each statement keeps it, whether it
succeeds or fails. -/
theorem insertStatement_rowidsDistinct {rows returned : List Row} {db' : Database}
    (hdb : db.RowidsDistinct) (h : insertStatement returning db t rows = .ok (db', returned)) :
    db'.RowidsDistinct := by
  simp only [insertStatement, Outcome.bind_eq_ok, Outcome.pure_eq_ok, Prod.mk.injEq] at h
  obtain ⟨st, hst, cellss, -, ⟨st', news⟩, hins, out, -, rfl, rfl⟩ := h
  exact hdb.put (StoredTable.insertRows_nodup (hdb.tableOf hst) hins)

theorem insertRows_rowidsDistinct (rows : List Row) (hdb : db.RowidsDistinct) :
    (insertRows returning t rows db).2.RowidsDistinct := by
  rw [insertRows_eq_foldl]
  -- every batch keeps the row ids distinct, whether it runs or is skipped
  suffices hfold : ∀ (bs : List (List Row)) (acc : Outcome (List Row) × Database), acc.2.RowidsDistinct →
      (bs.foldl (batchStep returning t) acc).2.RowidsDistinct from hfold _ _ hdb
  intro bs
  induction bs with
  | nil => exact fun _ h => h
  | cons b bs ih =>
    rintro ⟨out | out, db⟩ h
    · exact ih _ h
    · apply ih
      cases hb : insertStatement returning db t b with
      | ok r =>
        obtain ⟨db₁, returned⟩ := r
        simp only [batchStep, hb]
        exact insertStatement_rowidsDistinct h hb
      | error e =>
        simp only [batchStep, hb]
        exact h

theorem updateRows_rowidsDistinct (values : Row) (p : Predicate) (hdb : db.RowidsDistinct) :
    (updateRows returning t values p db).2.RowidsDistinct := by
  rcases h : updateRows returning t values p db with ⟨out | returned, db'⟩
  · rw [updateRows_error h]
    exact hdb
  · obtain ⟨st, st', -, -, -, -, -, -, -, -, rfl, -, hnd, -⟩ := updateRows_ok (fun _ => hdb.tableOf) h
    exact hdb.put hnd

theorem deleteRows_rowidsDistinct (p : Predicate) (hdb : db.RowidsDistinct) :
    (deleteRows returning t p db).2.RowidsDistinct := by
  rcases h : deleteRows returning t p db with ⟨out | returned, db'⟩
  · rw [deleteRows_error h]
    exact hdb
  · simp only [deleteRows] at h
    split at h
    next db₁ rows hrun =>
      simp only [Prod.mk.injEq, Except.ok.injEq] at h
      obtain ⟨rfl, rfl⟩ := h
      simp only [Outcome.bind_eq_ok, Outcome.pure_eq_ok, Prod.mk.injEq] at hrun
      obtain ⟨st, hst, ⟨cond, n⟩, -, out, -, rfl, -⟩ := hrun
      apply hdb.put
      simp only [StoredTable.deleteRows, List.partition_eq_filter_filter]
      exact (List.filter_sublist.map _).nodup (hdb.tableOf hst)
    next => simp at h

end RowidsDistinct

end TableGraph.Store

namespace TableGraph.CompiledSchema

open Store GraphQL

variable {s : CompiledSchema} {call : RootCall}

/-- A mutation whose checks pass and whose statement succeeds commits what the
statement did and answers with its rows. -/
theorem runCall_of_statement_ok {st : Statement} (hst : s.statement? call = some (.ok st))
    {session : Session} {rows : List Row} {db : Database} (hrun : st.run session.live = (.ok rows, db)) :
    s.runCall true call session = (s.mutationAnswer st.table st.single rows, ⟨db, db⟩) := by
  simp only [runCall, prepare_of_statement hst, if_true, mutate, runStatement, hrun]
  rfl

/-- A mutation that its checks refuse fails with their failure and leaves
the session as it was. -/
theorem runCall_of_statement_error {connected : Bool} {e : Failure} (hst : s.statement? call = some (.error e))
    (session : Session) : s.runCall connected call session = (.error e, session) := by
  simp only [runCall, prepare_of_statement_error hst]

/-- An input row converts only when every key names a column. -/
theorem inputRow_known {reg : Registry} {t : Table} {entries row : Row} (h : reg.inputRow t entries = .ok row) :
    ∀ kv ∈ entries, (t.columnFor? kv.1).isSome := by
  intro kv hkv
  obtain ⟨a, a', hstep⟩ := Outcome.exists_step_of_foldlM h kv hkv
  cases hc : t.columnFor? kv.1 with
  | none => simp [hc] at hstep
  | some c => rfl

/-- The check of one input row of an insert: converted, then tested for the
columns required on insert. -/
def checkedRow (s : CompiledSchema) (t : Table) (raw : Value) : Outcome Row := do
  let row ← s.registry.inputRow t (inputEntries raw)
  let missing := t.columns.filter fun c => c.requiredOnInsert && (Value.lookup? row c.name).isNone
  if !missing.isEmpty then
    .error (.validation ("Missing values for required columns: " ++ ", ".intercalate (missing.map (·.fieldName))))
  pure row

theorem insertRowsOf_eq (t : Table) (inputs : List Value) :
    s.insertRowsOf t inputs =
      if inputs.isEmpty then .error (.validation "No values were provided!") else inputs.mapM (s.checkedRow t) := by
  unfold insertRowsOf
  split <;> rfl

/-- A checked input row is its converted row, and names every column
required on insert. -/
theorem checkedRow_ok {t : Table} {raw : Value} {row : Row} (h : s.checkedRow t raw = .ok row) :
    s.registry.inputRow t (inputEntries raw) = .ok row ∧
      ∀ c ∈ t.columns, c.requiredOnInsert → (Value.lookup? row c.name).isSome := by
  simp only [checkedRow, Outcome.bind_eq_ok] at h
  obtain ⟨row', hconv, hcheck⟩ := h
  split at hcheck
  · simp [bind, Except.bind] at hcheck
  · next hnone =>
    simp only [Outcome.pure_eq_ok] at hcheck
    subst hcheck
    refine ⟨hconv, fun c hc hreq => ?_⟩
    simp only [Bool.not_eq_true', List.isEmpty_eq_false_iff, ne_eq, Decidable.not_not,
      List.filter_eq_nil_iff] at hnone
    simpa [Option.isSome_iff_ne_none, hreq] using hnone c hc

/-- The checks of an insert pass exactly on a non-empty list of inputs whose
input rows all convert, naming every column required on insert; the rows
are the converted input rows. -/
theorem insertRowsOf_ok {t : Table} {inputs : List Value} {rows : List Row}
    (h : s.insertRowsOf t inputs = .ok rows) :
    inputs ≠ [] ∧ inputs.mapM (fun raw => s.registry.inputRow t (inputEntries raw)) = .ok rows ∧
      ∀ r ∈ rows, ∀ c ∈ t.columns, c.requiredOnInsert → (Value.lookup? r c.name).isSome := by
  rw [insertRowsOf_eq] at h
  cases hempty : inputs.isEmpty
  · simp only [hempty, Bool.false_eq_true, if_false] at h
    refine ⟨by simpa using hempty, ?_, fun r hr => ?_⟩
    · simpa using Outcome.mapM_ok_map id (fun raw _ row hrow => (checkedRow_ok hrow).1) h
    · obtain ⟨raw, -, hraw⟩ := Outcome.exists_of_mem_mapM h hr
      exact (checkedRow_ok hraw).2
  · simp [hempty] at h

/-- A mutation's statement keeps the row ids of every table distinct. -/
theorem statement_run_rowidsDistinct {st : Statement} (hst : s.statement? call = some (.ok st)) {db : Database}
    (hdb : db.RowidsDistinct) : (st.run db).2.RowidsDistinct := by
  rcases statement_cases hst with ⟨rows, -, -, hrun⟩ | ⟨values, p, hrun⟩ | ⟨p, hrun⟩ <;> rw [hrun]
  · exact insertRows_rowidsDistinct rows hdb
  · exact updateRows_rowidsDistinct values p hdb
  · exact deleteRows_rowidsDistinct p hdb

/-- Every call keeps the row ids of every table distinct, in the open
transaction and in the committed database. -/
theorem runCall_rowidsDistinct {connected : Bool} {session : Session}
    (h : session.live.RowidsDistinct ∧ session.committed.RowidsDistinct) :
    (s.runCall connected call session).2.live.RowidsDistinct ∧
      (s.runCall connected call session).2.committed.RowidsDistinct := by
  rcases hst : s.statement? call with _ | (e | st)
  · rw [runCall_of_statement_none hst]
    exact h
  · rw [runCall_of_statement_error hst]
    exact h
  · have hlive := statement_run_rowidsDistinct hst h.1
    rw [runCall, prepare_of_statement hst]
    cases connected
    · exact h
    · rcases hr : st.run session.live with ⟨out | rows, db⟩ <;> rw [hr] at hlive <;>
        simp only [if_true, mutate, runStatement, hr]
      · exact ⟨hlive, h.2⟩
      · exact ⟨hlive, hlive⟩

/-- Calls run one after another in a session, each seeing the session the
one before left. -/
def runCalls (s : CompiledSchema) (connected : Bool) (calls : List RootCall) (session : Session) : Session :=
  calls.foldl (fun session call => (s.runCall connected call session).2) session

/-- Every run of calls from a session with distinct row ids keeps them
distinct, in the open transaction and in the committed database. -/
theorem runCalls_rowidsDistinct {connected : Bool} (calls : List RootCall) {session : Session}
    (h : session.live.RowidsDistinct ∧ session.committed.RowidsDistinct) :
    (s.runCalls connected calls session).live.RowidsDistinct ∧
      (s.runCalls connected calls session).committed.RowidsDistinct := by
  induction calls generalizing session with
  | nil => exact h
  | cons call calls ih => exact ih (runCall_rowidsDistinct h)

/-- A service started on a fresh store keeps the row ids of every table
distinct, whatever calls it runs. -/
theorem runCalls_start_rowidsDistinct {connected : Bool} (decls : List TableDecl) (calls : List RootCall) :
    (s.runCalls connected calls (Session.start (Database.empty decls))).live.RowidsDistinct ∧
      (s.runCalls connected calls (Session.start (Database.empty decls))).committed.RowidsDistinct :=
  runCalls_rowidsDistinct calls ⟨Database.rowidsDistinct_empty decls, Database.rowidsDistinct_empty decls⟩

/-! ## Insert and update calls -/

/-- The statement of an insert call, once its checks pass. -/
theorem statement?_insert {t : Table} {single : Bool}
    (hrole : s.api.role? call.rootType call.field = some (.insert t single)) :
    s.statement? call = some ((s.insertRowsOf t (insertInputs single (callArgument call "values"))).map
      fun rows => ⟨t, single, insertRows s.backend.canReportAffectedRows t rows⟩) := by
  simp only [statement?, hrole]
  cases s.insertRowsOf t (insertInputs single (callArgument call "values")) <;> rfl

/-- The statement of an update call, once its checks pass. -/
theorem statement?_update {t : Table} (hrole : s.api.role? call.rootType call.field = some (.update t)) :
    s.statement? call = some (do
      let values ← s.registry.inputRow t (inputEntries (callArgument call "set_"))
      if values.isEmpty then .error (.validation "Unable to update with no values specified!")
      let p ← Filter.compile s.registry t (callArgument call "where")
      pure ⟨t, false, updateRows s.backend.canReportAffectedRows t values p⟩) := by
  simp only [statement?, hrole]

/-- What an insert call answers and commits, case by case of its checks. -/
theorem insertCall_effects (s : CompiledSchema) (call : RootCall) (session : Session) {t : Table} {single : Bool}
    (hrole : s.api.role? call.rootType call.field = some (.insert t single)) :
    (insertInputs single (callArgument call "values") = [] →
      s.runCall true call session = (.error (.validation "No values were provided!"), session)) ∧
    (∀ e, s.insertRowsOf t (insertInputs single (callArgument call "values")) = .error e →
      s.runCall true call session = (.error e, session)) ∧
    (∀ rows, s.insertRowsOf t (insertInputs single (callArgument call "values")) = .ok rows →
      (insertInputs single (callArgument call "values")).mapM
        (fun raw => s.registry.inputRow t (inputEntries raw)) = .ok rows ∧
      (∀ raw ∈ insertInputs single (callArgument call "values"), ∀ kv ∈ inputEntries raw,
        (t.columnFor? kv.1).isSome) ∧
      (∀ r ∈ rows, ∀ c ∈ t.columns, c.requiredOnInsert → (Value.lookup? r c.name).isSome) ∧
      ∀ returned db', insertRows s.backend.canReportAffectedRows t rows session.live = (.ok returned, db') →
        s.runCall true call session = (s.mutationAnswer t single returned, ⟨db', db'⟩) ∧
        ∃ st st', session.live.tableOf t = .ok st ∧ db' = session.live.put st' ∧
          StoredTable.AddsRows st rows st' ∧
          returned.length = if s.backend.canReportAffectedRows then rows.length else 0) := by
  have hst := statement?_insert hrole
  refine ⟨fun hnil => ?_, fun e he => ?_, fun rows hrows => ?_⟩
  · apply runCall_of_statement_error
    rw [hst, insertRowsOf_eq, hnil]
    rfl
  · apply runCall_of_statement_error
    rw [hst, he]
    rfl
  · obtain ⟨hne, hconv, hreq⟩ := insertRowsOf_ok hrows
    refine ⟨hconv, fun raw hraw => ?_, hreq, fun returned db' hins => ?_⟩
    · obtain ⟨row, hrow⟩ := Outcome.exists_ok_of_mapM hconv hraw
      exact inputRow_known hrow
    · have hok : s.statement? call = some (.ok ⟨t, single, insertRows s.backend.canReportAffectedRows t rows⟩) := by
        rw [hst, hrows]
        rfl
      refine ⟨runCall_of_statement_ok hok hins, ?_⟩
      have hlen := (Outcome.forall₂_of_mapM hconv).length_eq
      have hrows_ne : rows ≠ [] := by
        intro hnil
        apply hne
        rw [← List.length_eq_zero_iff, hlen, hnil, List.length_nil]
      exact insertRows_ok hrows_ne hins

/-- What an update call answers and commits, case by case of its checks, on
a table with distinct row ids. -/
theorem updateCall_effects (s : CompiledSchema) (call : RootCall) (session : Session) {t : Table}
    (hrole : s.api.role? call.rootType call.field = some (.update t))
    (hnodup : ∀ st, session.live.tableOf t = .ok st → (st.rows.map (·.rowid)).Nodup) :
    (∀ e, s.registry.inputRow t (inputEntries (callArgument call "set_")) = .error e →
      s.runCall true call session = (.error e, session)) ∧
    (s.registry.inputRow t (inputEntries (callArgument call "set_")) = .ok [] →
      s.runCall true call session =
        (.error (.validation "Unable to update with no values specified!"), session)) ∧
    (∀ values e, s.registry.inputRow t (inputEntries (callArgument call "set_")) = .ok values →
      values ≠ [] → Filter.compile s.registry t (callArgument call "where") = .error e →
      s.runCall true call session = (.error e, session)) ∧
    (∀ values p, s.registry.inputRow t (inputEntries (callArgument call "set_")) = .ok values →
      values ≠ [] → Filter.compile s.registry t (callArgument call "where") = .ok p →
      ∀ returned db', updateRows s.backend.canReportAffectedRows t values p session.live = (.ok returned, db') →
        s.runCall true call session = (s.mutationAnswer t false returned, ⟨db', db'⟩) ∧
        ∃ st st' assign pos cond n updated, session.live.tableOf t = .ok st ∧
          assignmentOf st values = .ok (assign, pos) ∧ (st.bindPredicate p).run pos = .ok (cond, n) ∧
          (callArgument call "where" = .none → ∀ r, cond.selects r) ∧
          db' = session.live.put st' ∧ StoredTable.Updates st assign cond st' updated ∧
          returnedRows st' t s.backend.canReportAffectedRows updated = .ok returned) := by
  have hst := statement?_update hrole
  refine ⟨fun e he => ?_, fun hnil => ?_, fun values e hv hne hf => ?_,
    fun values p hv hne hf returned db' hupd => ?_⟩
  · apply runCall_of_statement_error
    rw [hst, he]
    rfl
  · apply runCall_of_statement_error
    rw [hst, hnil]
    rfl
  · apply runCall_of_statement_error
    have hempty : values.isEmpty = false := by simpa using hne
    rw [hst, hv]
    simp [hempty, hf, bind, Except.bind]
  · have hempty : values.isEmpty = false := by simpa using hne
    have hok : s.statement? call =
        some (.ok ⟨t, false, updateRows s.backend.canReportAffectedRows t values p⟩) := by
      rw [hst, hv]
      simp [hempty, hf, bind, Except.bind, pure, Except.pure]
    refine ⟨runCall_of_statement_ok hok hupd, ?_⟩
    obtain ⟨st, st', assign, pos, cond, n, updated, htab, hassign, hcond, rfl, hupdates, -, hret⟩ :=
      updateRows_ok hnodup hupd
    refine ⟨st, st', assign, pos, cond, n, updated, htab, hassign, hcond, fun hnone r => ?_, rfl,
      hupdates, hret⟩
    -- with no filter the predicate is the constant true, bound as the truth true
    have hp : p = .const true := by
      rw [hnone, Filter.compile, Filter.level_of_truthy_false rfl] at hf
      simpa using hf.symm
    subst hp
    simp only [StoredTable.bindPredicate, StateT.run, pure, StateT.pure, Except.pure, Except.ok.injEq,
      Prod.mk.injEq] at hcond
    rw [← hcond.1]
    rfl

/-- What an insert or an update call answers and commits, case by case of its
checks. An insert with no rows, or whose rows fail their checks, fails and
changes nothing; once they pass, its rows are the converted input rows, each
naming only columns of the table and every column required on insert, and a
statement that succeeds is committed and adds exactly those rows. An update
without values, or whose values or filter do not convert, fails and changes
nothing; once they do and its statement succeeds, it is committed and makes
its assignments on exactly the rows the bound filter selects, every row when
there is no filter. -/
theorem insert_update_effects (s : CompiledSchema) (call : RootCall) (session : Session) :
    (∀ t single, s.api.role? call.rootType call.field = some (.insert t single) →
      (insertInputs single (callArgument call "values") = [] →
        s.runCall true call session = (.error (.validation "No values were provided!"), session)) ∧
      (∀ e, s.insertRowsOf t (insertInputs single (callArgument call "values")) = .error e →
        s.runCall true call session = (.error e, session)) ∧
      (∀ rows, s.insertRowsOf t (insertInputs single (callArgument call "values")) = .ok rows →
        (insertInputs single (callArgument call "values")).mapM
          (fun raw => s.registry.inputRow t (inputEntries raw)) = .ok rows ∧
        (∀ raw ∈ insertInputs single (callArgument call "values"), ∀ kv ∈ inputEntries raw,
          (t.columnFor? kv.1).isSome) ∧
        (∀ r ∈ rows, ∀ c ∈ t.columns, c.requiredOnInsert → (Value.lookup? r c.name).isSome) ∧
        ∀ returned db', insertRows s.backend.canReportAffectedRows t rows session.live = (.ok returned, db') →
          s.runCall true call session = (s.mutationAnswer t single returned, ⟨db', db'⟩) ∧
          ∃ st st', session.live.tableOf t = .ok st ∧ db' = session.live.put st' ∧
            StoredTable.AddsRows st rows st' ∧
            returned.length = if s.backend.canReportAffectedRows then rows.length else 0)) ∧
    (∀ t, s.api.role? call.rootType call.field = some (.update t) →
      (∀ st, session.live.tableOf t = .ok st → (st.rows.map (·.rowid)).Nodup) →
      (∀ e, s.registry.inputRow t (inputEntries (callArgument call "set_")) = .error e →
        s.runCall true call session = (.error e, session)) ∧
      (s.registry.inputRow t (inputEntries (callArgument call "set_")) = .ok [] →
        s.runCall true call session =
          (.error (.validation "Unable to update with no values specified!"), session)) ∧
      (∀ values e, s.registry.inputRow t (inputEntries (callArgument call "set_")) = .ok values →
        values ≠ [] → Filter.compile s.registry t (callArgument call "where") = .error e →
        s.runCall true call session = (.error e, session)) ∧
      (∀ values p, s.registry.inputRow t (inputEntries (callArgument call "set_")) = .ok values →
        values ≠ [] → Filter.compile s.registry t (callArgument call "where") = .ok p →
        ∀ returned db', updateRows s.backend.canReportAffectedRows t values p session.live = (.ok returned, db') →
          s.runCall true call session = (s.mutationAnswer t false returned, ⟨db', db'⟩) ∧
          ∃ st st' assign pos cond n updated, session.live.tableOf t = .ok st ∧
            assignmentOf st values = .ok (assign, pos) ∧ (st.bindPredicate p).run pos = .ok (cond, n) ∧
            (callArgument call "where" = .none → ∀ r, cond.selects r) ∧
            db' = session.live.put st' ∧ StoredTable.Updates st assign cond st' updated ∧
            returnedRows st' t s.backend.canReportAffectedRows updated = .ok returned)) :=
  ⟨fun _ _ hrole => insertCall_effects s call session hrole,
    fun _ hrole hnodup => updateCall_effects s call session hrole hnodup⟩

end TableGraph.CompiledSchema

namespace TableGraph.Samples

open Store GraphQL CompiledSchema

/-- A schema with the update of comments, on SQLite. -/
def commentsEditor : CompiledSchema :=
  { (default : CompiledSchema) with
    api := { (default : GeneratedApi) with roles := [(("Mutation", "updatePostComments"), .update commentsTable)] }
    backend := { dialect := default, name := "sqlite" } }

/-- An update that sets a body on the comments whose id is in an empty list. -/
def updateNoComments : RootCall :=
  { rootType := "Mutation", field := "updatePostComments", responseKey := "updatePostComments",
    args := [("set_", .dict [("body", .str "C")]), ("where", .dict [("id", .dict [("in_array", .list [])])])],
    selections := [], variableValues := [], document := default }

theorem update_refused_by_filter :
    commentsEditor.registry.inputRow commentsTable (inputEntries (callArgument updateNoComments "set_")) =
        .ok [("body", .str "C")] ∧
      commentsEditor.runCall true updateNoComments (Session.start commentStore) =
        (.error (.validation "WHERE id: inArray requires a non-empty array!"), Session.start commentStore) := by
  have hrole : commentsEditor.api.role? updateNoComments.rootType updateNoComments.field =
      some (.update commentsTable) := by cbv
  have hset : commentsEditor.registry.inputRow commentsTable (inputEntries (callArgument updateNoComments "set_")) =
      .ok [("body", .str "C")] := by cbv
  have hwhere : Filter.compile commentsEditor.registry commentsTable (callArgument updateNoComments "where") =
      .error (.validation "WHERE id: inArray requires a non-empty array!") := by cbv
  refine ⟨hset, runCall_of_statement_error ?_ _⟩
  rw [statement?_update hrole, hset]
  simp [hwhere, bind, Except.bind]

/-- Inserting one comment into an empty store commits one new row, which
holds the comment's stored cells, and answers with the row read back. -/
theorem comment_insert_adds_row :
    (commentsSchema {}).runCall true insertComment (Session.start commentStore) =
        ((commentsSchema {}).mutationAnswer commentsTable true [returnedComment],
          ⟨commentStoreAfter, commentStoreAfter⟩) ∧
      ∃ st st', commentStore.tableOf commentsTable = .ok st ∧ commentStoreAfter = commentStore.put st' ∧
        StoredTable.AddsRows st [commentRow] st' := by
  have hrole : (commentsSchema {}).api.role? insertComment.rootType insertComment.field =
      some (.insert commentsTable true) := by cbv
  have hrows : (commentsSchema {}).insertRowsOf commentsTable
      (insertInputs true (callArgument insertComment "values")) = .ok [commentRow] := by cbv
  obtain ⟨-, -, -, hrun⟩ :=
    ((insert_update_effects (commentsSchema {}) insertComment (Session.start commentStore)).1
      commentsTable true hrole).2.2 [commentRow] hrows
  obtain ⟨hcall, st, st', htab, hdb, hadds, -⟩ := hrun [returnedComment] commentStoreAfter insertRows_comment
  exact ⟨hcall, st, st', htab, hdb, hadds⟩

end TableGraph.Samples
