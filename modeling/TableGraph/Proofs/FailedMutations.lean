import Mathlib
import TableGraph.Api.Resolve
import TableGraph.Samples.Blog
import TableGraph.Proofs.Outcome

/-!
# What a failed mutation leaves in the session

A mutation call runs its statement on the session's open transaction, commits
when the statement succeeds, and only then reads the returned rows out for
the answer. An insert whose rows do not all name the same columns runs one
statement a row, and nothing undoes the statements that ran before a failing
one. So a call that fails leaves the session as it was, except in two ways:

* its statement ran and committed, and reading a returned row out for the
  answer failed (a wire conversion of the registry refused a value): the
  change is committed;
* an insert split into one statement a row failed at a later row: the
  committed database is as before, but the open transaction holds the rows of
  the statements before the failing one, and the next commit on the session
  keeps them.

## Main results

* `Store.foldl_batchStep_eq_error`: a failed insert ran the batches before
  the failing one and stopped there; `Store.insertRows_error_of_sameColumns`
  and `Store.insertRows_error_of_not_sameColumns` read it for the two ways of
  batching.
* `Store.updateRows_error`, `Store.deleteRows_error`: a failed update or
  delete statement changes nothing.
* `CompiledSchema.prepare_of_statement`: a mutation call makes its checks,
  then tests for a database, then runs `mutate` on its statement.
* `CompiledSchema.failed_call_session`: every failed call leaves the session
  as it was, or failed answering after its commit, or is an insert split into
  one statement a row that failed after some of them ran.
* `Samples.comment_insert_fails_after_commit`: the second case happens.
-/

namespace TableGraph.Store

section Batches

variable (returning : Bool) (t : Table)

/-- One step of `insertRows`: the statement of the next batch, once every
batch before it succeeded. -/
def batchStep (acc : Outcome (List Row) × Database) (batch : List Row) :
    Outcome (List Row) × Database :=
  match acc with
  | (.error e, db) => (.error e, db)
  | (.ok out, db) =>
    match insertStatement returning db t batch with
    | .ok (db, returned) => (.ok (out ++ returned), db)
    | .error e => (.error e, db)

/-- The batches of an insert: one for rows that all name the same columns,
else one a row. -/
def batchesOf (rows : List Row) : List (List Row) :=
  if sameColumns rows then [rows] else rows.map fun r => [r]

theorem insertRows_eq_foldl (rows : List Row) (db : Database) :
    insertRows returning t rows db = (batchesOf rows).foldl (batchStep returning t) (.ok [], db) :=
  rfl

/-- The database after insert statements that all succeed, one a batch. -/
def runBatches (batches : List (List Row)) (db : Database) : Outcome Database :=
  batches.foldlM (fun db b => (insertStatement returning db t b).map (·.1)) db

/-- The database after inserting rows one statement a row. -/
def insertEach (rows : List Row) : Database → Outcome Database :=
  runBatches returning t (rows.map fun r => [r])

theorem foldl_batchStep_of_error (bs : List (List Row)) (e : Failure) (db : Database) :
    bs.foldl (batchStep returning t) (.error e, db) = (.error e, db) := by
  induction bs with
  | nil => rfl
  | cons b bs ih => exact ih

/-- A failed insert ran the statements of the batches before the failing
one, and stopped at the failing one with the database they left. -/
theorem foldl_batchStep_eq_error {bs : List (List Row)} {out : List Row} {db db' : Database}
    {e : Failure} (h : bs.foldl (batchStep returning t) (.ok out, db) = (.error e, db')) :
    ∃ pre b post, bs = pre ++ b :: post ∧ runBatches returning t pre db = .ok db' ∧
      insertStatement returning db' t b = .error e := by
  induction bs generalizing out db with
  | nil => simp at h
  | cons b bs ih =>
    rw [List.foldl_cons] at h
    cases hb : insertStatement returning db t b with
    | error e' =>
      -- the first batch fails: the error is carried through the rest
      rw [batchStep, hb, foldl_batchStep_of_error, Prod.mk.injEq, Except.error.injEq] at h
      obtain ⟨rfl, rfl⟩ := h
      exact ⟨[], b, bs, rfl, rfl, hb⟩
    | ok r =>
      rw [batchStep, hb] at h
      obtain ⟨pre, b', post, rfl, hpre, hfail⟩ := ih h
      refine ⟨b :: pre, b', post, rfl, ?_, hfail⟩
      simp only [runBatches, List.foldlM_cons, hb]
      exact hpre

/-- An insert of rows that all name the same columns is one statement: when
it fails, the database is as it was. -/
theorem insertRows_error_of_sameColumns {rows : List Row} {db db' : Database} {e : Failure}
    (hs : sameColumns rows = true) (h : insertRows returning t rows db = (.error e, db')) :
    db' = db := by
  rw [insertRows_eq_foldl, batchesOf, if_pos hs] at h
  obtain ⟨pre, b, post, hsplit, hpre, -⟩ := foldl_batchStep_eq_error returning t h
  obtain rfl : pre = [] := by
    cases pre with
    | nil => rfl
    | cons _ pre => simp at hsplit
  exact (Except.ok.inj hpre).symm

/-- An insert of rows that do not all name the same columns is one statement
a row: when it fails, the rows before the failing one are in the database. -/
theorem insertRows_error_of_not_sameColumns {rows : List Row} {db db' : Database} {e : Failure}
    (hs : sameColumns rows = false) (h : insertRows returning t rows db = (.error e, db')) :
    ∃ pre r post, rows = pre ++ r :: post ∧ insertEach returning t pre db = .ok db' ∧
      insertStatement returning db' t [r] = .error e := by
  rw [insertRows_eq_foldl, batchesOf, if_neg (by simp [hs])] at h
  obtain ⟨pre, b, post, hsplit, hpre, hfail⟩ := foldl_batchStep_eq_error returning t h
  obtain ⟨pre', rest, rfl, rfl, hrest⟩ := List.map_eq_append_iff.mp hsplit
  obtain ⟨r, post', rfl, rfl, rfl⟩ := List.map_eq_cons_iff.mp hrest
  exact ⟨pre', r, post', rfl, hpre, hfail⟩

end Batches

section Atomic

variable {returning : Bool} {t : Table} {p : Predicate} {db db' : Database} {e : Failure}

/-- An update statement that fails changes nothing. -/
theorem updateRows_error {values : Row} (h : updateRows returning t values p db = (.error e, db')) :
    db' = db := by
  simp only [updateRows] at h
  split at h <;> simp_all

/-- A delete statement that fails changes nothing. -/
theorem deleteRows_error (h : deleteRows returning t p db = (.error e, db')) : db' = db := by
  simp only [deleteRows] at h
  split at h <;> simp_all

end Atomic

end TableGraph.Store

namespace TableGraph.CompiledSchema

open Store GraphQL

/-- A root call on a session: its checks, then its run. A call that its
checks refuse never touches the session. -/
def runCall (s : CompiledSchema) (connected : Bool) (call : RootCall) (session : Session) :
    Outcome (Source Entity) × Session :=
  match s.prepare connected call with
  | .error e => (.error e, session)
  | .ok run => run session

/-- What a mutation call runs once its checks pass: the table it writes,
whether it answers a single row, and its statement on a database. -/
structure Statement where
  table : Table
  single : Bool
  run : Database → Outcome (List Row) × Database

/-- The checks of a call that the API answers with a mutation, in the order
`prepare` makes them, and the statement they give; `none` for any other
call. -/
def statement? (s : CompiledSchema) (call : RootCall) : Option (Outcome Statement) :=
  let returning := s.backend.canReportAffectedRows
  let arg := callArgument call
  match s.api.role? call.rootType call.field with
  | some (.insert t single) => some do
    let rows ← s.insertRowsOf t (insertInputs single (arg "values"))
    pure ⟨t, single, insertRows returning t rows⟩
  | some (.update t) => some do
    let values ← s.registry.inputRow t (inputEntries (arg "set_"))
    if values.isEmpty then .error (.validation "Unable to update with no values specified!")
    let p ← Filter.compile s.registry t (arg "where")
    pure ⟨t, false, updateRows returning t values p⟩
  | some (.delete t) => some do
    let p ← Filter.compile s.registry t (arg "where")
    pure ⟨t, false, deleteRows returning t p⟩
  | _ => none

variable {s : CompiledSchema} {connected : Bool} {call : RootCall}

/-- A mutation makes its checks before it tests for a database, and its run
is `mutate` on its statement. -/
theorem prepare_of_statement {st : Statement} (h : s.statement? call = some (.ok st)) :
    s.prepare connected call =
      if connected then .ok (s.mutate st.table st.single st.run) else .error noSession := by
  unfold statement? at h
  split at h
  next t single hrole =>
    simp only [Option.some.injEq, Outcome.bind_eq_ok, Outcome.pure_eq_ok] at h
    obtain ⟨rows, hrows, rfl⟩ := h
    simp only [prepare, hrole, hrows]
    cases connected <;> rfl
  next t hrole =>
    simp only [Option.some.injEq, Outcome.bind_eq_ok] at h
    obtain ⟨values, hvalues, h⟩ := h
    cases hempty : values.isEmpty
    · simp only [hempty, Bool.false_eq_true, if_false, Outcome.bind_eq_ok, Outcome.pure_eq_ok] at h
      obtain ⟨p, hp, rfl⟩ := h
      cases connected <;>
        simp [prepare, hrole, hvalues, hempty, hp, bind, Except.bind, pure, Except.pure]
    · simp [hempty] at h
  next t hrole =>
    simp only [Option.some.injEq, Outcome.bind_eq_ok, Outcome.pure_eq_ok] at h
    obtain ⟨p, hp, rfl⟩ := h
    simp only [prepare, hrole, hp]
    cases connected <;> rfl
  next => simp at h

/-- A mutation that its checks refuse is refused with their failure. -/
theorem prepare_of_statement_error {e : Failure} (h : s.statement? call = some (.error e)) :
    s.prepare connected call = .error e := by
  unfold statement? at h
  unfold prepare
  split at h
  next t single hrole =>
    simp only [hrole]
    cases hrows : s.insertRowsOf t (insertInputs single (callArgument call "values")) <;>
      simp_all [bind, Except.bind, pure, Except.pure]
  next t hrole =>
    simp only [hrole]
    cases hvalues : s.registry.inputRow t (inputEntries (callArgument call "set_")) with
    | error => simp_all [bind, Except.bind]
    | ok values =>
      cases hempty : values.isEmpty
      · cases hp : Filter.compile s.registry t (callArgument call "where") <;>
          simp_all [bind, Except.bind, pure, Except.pure]
      · simp_all [bind, Except.bind]
  next t hrole =>
    simp only [hrole]
    cases hp : Filter.compile s.registry t (callArgument call "where") <;>
      simp_all [bind, Except.bind, pure, Except.pure]
  next => simp at h

/-- Reads, and every call the API does not answer with a mutation, leave the
session as it is. -/
theorem runCall_of_statement_none (h : s.statement? call = none) (session : Session) :
    (s.runCall connected call session).2 = session := by
  unfold statement? at h
  unfold runCall prepare
  cases hr : s.api.role? call.rootType call.field with
  | none => rfl
  | some r =>
    cases r with
    | readMany t =>
      cases connected <;> cases hspec : s.rootSpec t call true <;>
        simp [hspec, bind, Except.bind, pure, Except.pure]
    | readFirst t =>
      cases connected <;> cases hspec : s.rootSpec t call false <;>
        simp [hspec, bind, Except.bind, pure, Except.pure]
    | insert | update | delete => simp [hr] at h
    | _ => simp [pure, Except.pure]

/-- A mutation's statement is an insert of the rows its checks gave, an
update or a delete. -/
theorem statement_cases {st : Statement} (h : s.statement? call = some (.ok st)) :
    (∃ rows, s.api.role? call.rootType call.field = some (.insert st.table st.single) ∧
      s.insertRowsOf st.table (insertInputs st.single (callArgument call "values")) = .ok rows ∧
      st.run = insertRows s.backend.canReportAffectedRows st.table rows) ∨
    (∃ values p, st.run = updateRows s.backend.canReportAffectedRows st.table values p) ∨
    (∃ p, st.run = deleteRows s.backend.canReportAffectedRows st.table p) := by
  unfold statement? at h
  split at h
  next t single hrole =>
    simp only [Option.some.injEq, Outcome.bind_eq_ok, Outcome.pure_eq_ok] at h
    obtain ⟨rows, hrows, rfl⟩ := h
    exact .inl ⟨rows, hrole, hrows, rfl⟩
  next t hrole =>
    simp only [Option.some.injEq, Outcome.bind_eq_ok] at h
    obtain ⟨values, -, h⟩ := h
    cases hempty : values.isEmpty
    · simp only [hempty, Bool.false_eq_true, if_false, Outcome.bind_eq_ok, Outcome.pure_eq_ok] at h
      obtain ⟨p, -, rfl⟩ := h
      exact .inr (.inl ⟨values, p, rfl⟩)
    · simp [hempty] at h
  next t hrole =>
    simp only [Option.some.injEq, Outcome.bind_eq_ok, Outcome.pure_eq_ok] at h
    obtain ⟨p, -, rfl⟩ := h
    exact .inr (.inr ⟨p, rfl⟩)
  next => simp at h

/-- A failed statement leaves the database as it was, except an insert split
into one statement a row: that keeps the rows before the failing one. -/
theorem statement_run_error {st : Statement} (hst : s.statement? call = some (.ok st))
    {db db' : Database} {e : Failure} (h : st.run db = (.error e, db')) :
    db' = db ∨
    ∃ rows pre r post, s.api.role? call.rootType call.field = some (.insert st.table st.single) ∧
      s.insertRowsOf st.table (insertInputs st.single (callArgument call "values")) = .ok rows ∧
      sameColumns rows = false ∧ rows = pre ++ r :: post ∧
      insertEach s.backend.canReportAffectedRows st.table pre db = .ok db' ∧
      insertStatement s.backend.canReportAffectedRows db' st.table [r] = .error e := by
  rcases statement_cases hst with ⟨rows, hrole, hrows, hrun⟩ | ⟨values, p, hrun⟩ | ⟨p, hrun⟩
  · rw [hrun] at h
    cases hs : sameColumns rows
    · obtain ⟨pre, r, post, hsplit, hpre, hfail⟩ := insertRows_error_of_not_sameColumns _ _ hs h
      exact .inr ⟨rows, pre, r, post, hrole, hrows, hs, hsplit, hpre, hfail⟩
    · exact .inl (insertRows_error_of_sameColumns _ _ hs h)
  · rw [hrun] at h
    exact .inl (updateRows_error h)
  · rw [hrun] at h
    exact .inl (deleteRows_error h)

/-- A mutation that fails either failed in its statement, which left the
live database as the statement returned it and the committed one alone, or
failed in its answer after the statement committed. -/
theorem mutate_error {t : Table} {single : Bool} {run : Database → Outcome (List Row) × Database}
    {session session' : Session} {e : Failure} (h : s.mutate t single run session = (.error e, session')) :
    (∃ db, run session.live = (.error e, db) ∧ session' = { session with live := db }) ∨
    (∃ rows db, run session.live = (.ok rows, db) ∧ s.mutationAnswer t single rows = .error e ∧
      session' = ⟨db, db⟩) := by
  unfold mutate runStatement at h
  rcases hrun : run session.live with ⟨out | rows, db⟩
  · simp only [hrun, Prod.mk.injEq, Except.error.injEq] at h
    obtain ⟨rfl, rfl⟩ := h
    exact .inl ⟨db, rfl, rfl⟩
  · simp only [hrun, Prod.mk.injEq] at h
    obtain ⟨hanswer, rfl⟩ := h
    exact .inr ⟨rows, db, rfl, hanswer, rfl⟩

/-- A call that fails leaves the session as it was, except in two ways: its
statement ran and committed and its answer failed, or it is an insert split
into one statement a row (its rows do not all name the same columns) whose
statements before the failing row ran, leaving their rows in the open
transaction and the committed database alone. -/
theorem failed_call_session {session session' : Session} {e : Failure}
    (h : s.runCall connected call session = (.error e, session')) :
    session' = session ∨
    (∃ st rows db, s.statement? call = some (.ok st) ∧ st.run session.live = (.ok rows, db) ∧
      s.mutationAnswer st.table st.single rows = .error e ∧ session' = ⟨db, db⟩) ∨
    (∃ t single rows pre r post, s.api.role? call.rootType call.field = some (.insert t single) ∧
      s.insertRowsOf t (insertInputs single (callArgument call "values")) = .ok rows ∧
      sameColumns rows = false ∧ rows = pre ++ r :: post ∧
      insertEach s.backend.canReportAffectedRows t pre session.live = .ok session'.live ∧
      insertStatement s.backend.canReportAffectedRows session'.live t [r] = .error e ∧
      session'.committed = session.committed) := by
  rcases hst : s.statement? call with _ | (e0 | st)
  · -- a read, or a call the API does not answer with a mutation
    have hsame : (s.runCall connected call session).2 = session := runCall_of_statement_none hst session
    rw [h] at hsame
    exact .inl hsame
  · -- refused by its checks
    simp only [runCall, prepare_of_statement_error hst, Prod.mk.injEq] at h
    exact .inl h.2.symm
  · rw [runCall, prepare_of_statement hst] at h
    cases connected
    · simp only [Bool.false_eq_true, if_false, Prod.mk.injEq] at h
      exact .inl h.2.symm
    · rcases mutate_error h with ⟨db, hrun, rfl⟩ | ⟨rows, db, hrun, hanswer, rfl⟩
      · rcases statement_run_error hst hrun with
          rfl | ⟨rows, pre, r, post, hrole, hrows, hs, hsplit, hpre, hfail⟩
        · exact .inl rfl
        · exact .inr (.inr ⟨_, _, rows, pre, r, post, hrole, hrows, hs, hsplit, hpre, hfail, rfl⟩)
      · exact .inr (.inl ⟨st, rows, db, rfl, hrun, hanswer, rfl⟩)

end TableGraph.CompiledSchema

namespace TableGraph.Samples

open Store GraphQL CompiledSchema

/-! ## A comment that commits and then fails to answer -/

/-- Neither `Integer` nor `String` names a vector or a geometry type, so both
store values as they are. `String.splitOn` is well-founded recursion, so its
equation is unfolded once per character. -/
theorem integer_text_plain :
    Codec.ofType integer = .plain ∧ affinityOf integer = .integer ∧
      Codec.ofType text = .plain ∧ affinityOf text = .text := by
  have hint : Text.asciiLower "Integer" = "integer" := by decide
  have hstr : Text.asciiLower "String" = "string" := by decide
  have hclass : classMentions "Integer" "vector" = false ∧ classMentions "Integer" "geometry" = false ∧
      classMentions "String" "vector" = false ∧ classMentions "String" "geometry" = false := by
    simp only [classMentions, hint, hstr, String.splitOn]
    refine ⟨?_, ?_, ?_, ?_⟩ <;> repeat (rw [String.splitOnAux]; simp +decide)
  simp [integer, text, Codec.ofType, affinityOf, hclass]

/-- The comments table as the API sees it. -/
def commentColumns : List Column :=
  [{ name := "id", table := "post_comments", tag := "integer", columnType := "Integer", nullable := false,
     hasDefault := true, primaryKey := true },
   { name := "post_id", table := "post_comments", tag := "integer", columnType := "Integer",
     nullable := false },
   { name := "body", table := "post_comments", tag := "text", columnType := "String", nullable := false },
   { name := "rating", table := "post_comments", tag := "integer", columnType := "Integer" }]

def commentsTable : Table := { name := "post_comments", columns := commentColumns }

/-- A registry whose wire conversion of integers takes their length, which
fails on every integer. -/
def lengthOfIntegers : Registry := { remapper := { toWire := [("integer", .length)] } }

/-- A schema with the single-row insert of comments, on SQLite. -/
def commentsSchema (reg : Registry) : CompiledSchema :=
  { (default : CompiledSchema) with
    api := { (default : GeneratedApi) with
      roles := [(("Mutation", "insertIntoPostCommentsSingle"), .insert commentsTable true)] }
    registry := reg
    backend := { dialect := default, name := "sqlite" } }

def commentRow : Row := [("post_id", .int 1), ("body", .str "z")]

def insertComment : RootCall :=
  { rootType := "Mutation", field := "insertIntoPostCommentsSingle",
    responseKey := "insertIntoPostCommentsSingle", args := [("values", .dict commentRow)],
    selections := [], variableValues := [], document := default }

def commentStore : Database := Database.empty [postComments]

def storedComment : StoredRow := ⟨1, [.integer 1, .integer 1, .text "z", .null]⟩

def commentStoreAfter : Database := commentStore.put { decl := postComments, rows := [storedComment] }

def returnedComment : Row := [("id", .int 1), ("post_id", .int 1), ("body", .str "z"), ("rating", .none)]

theorem insertCells_comment :
    StoredTable.insertCells { decl := postComments } commentRow = .ok [.null, .integer 1, .text "z", .null] := by
  simp [StoredTable.insertCells, postComments, idColumn, plain, ColumnDecl.storeValue, ColumnDecl.codec,
    ColumnDecl.affinity, integer_text_plain, Codec.bind, plainCell, Value.lookup?, commentRow,
    Affinity.store, minInteger, maxInteger]

theorem returnedRows_comment :
    returnedRows { decl := postComments, rows := [storedComment] } commentsTable true [storedComment] =
      .ok [returnedComment] := by
  simp [returnedRows, StoredTable.readValues, StoredTable.keyPosition?, StoredTable.columnAt,
    ColumnDecl.readCell, ColumnDecl.codec, postComments, idColumn, plain, integer_text_plain, Table.keys,
    commentsTable, commentColumns, storedComment, StoredRow.cell, Codec.read, returnedComment,
    List.findIdx?_cons]

theorem insertRows_comment :
    insertRows true commentsTable [commentRow] commentStore = (.ok [returnedComment], commentStoreAfter) := by
  have hsame : sameColumns [commentRow] = true := by cbv
  have htable : commentStore.tableOf commentsTable = .ok { decl := postComments } := by cbv
  have hinsert : StoredTable.insertRows { decl := postComments } [[.null, .integer 1, .text "z", .null]] =
      .ok ({ decl := postComments, rows := [storedComment] }, [storedComment]) := by cbv
  rw [insertRows_eq_foldl, batchesOf, if_pos hsame]
  simp [batchStep, insertStatement, htable, insertCells_comment, hinsert, returnedRows_comment,
    commentStoreAfter, bind, Except.bind, pure, Except.pure]

/-- The insert commits the comment, then reading its id out for the answer
fails. -/
theorem insertComment_run :
    (commentsSchema lengthOfIntegers).runCall true insertComment (Session.start commentStore) =
      (.error (Value.typeError "object of type 'int' has no len()"),
        ⟨commentStoreAfter, commentStoreAfter⟩) := by
  have hrole : (commentsSchema lengthOfIntegers).api.role? insertComment.rootType insertComment.field =
      some (.insert commentsTable true) := by cbv
  have hrows : (commentsSchema lengthOfIntegers).insertRowsOf commentsTable
      (insertInputs true (callArgument insertComment "values")) = .ok [commentRow] := by cbv
  have hst : (commentsSchema lengthOfIntegers).statement? insertComment =
      some (.ok ⟨commentsTable, true, insertRows true commentsTable [commentRow]⟩) := by
    simp only [statement?, hrole, hrows]
    rfl
  have hanswer : (commentsSchema lengthOfIntegers).mutationAnswer commentsTable true [returnedComment] =
      .error (Value.typeError "object of type 'int' has no len()") := by cbv
  rw [runCall, prepare_of_statement hst, if_pos rfl]
  simp [mutate, runStatement, Session.start, insertRows_comment, hanswer, Session.commit]

theorem commentStoreAfter_ne : commentStoreAfter ≠ commentStore := by
  simp [commentStoreAfter, commentStore, Database.put, Database.empty]

/-- A failed call that changed the committed database: inserting a comment
with a registry whose wire conversion of integers fails is the case of a
statement that committed before its answer failed. -/
theorem comment_insert_fails_after_commit :
    ∃ e session',
      (commentsSchema lengthOfIntegers).runCall true insertComment (Session.start commentStore) =
        (.error e, session') ∧
      session'.committed ≠ commentStore ∧
      ∃ st rows db, (commentsSchema lengthOfIntegers).statement? insertComment = some (.ok st) ∧
        st.run commentStore = (.ok rows, db) ∧
        (commentsSchema lengthOfIntegers).mutationAnswer st.table st.single rows = .error e ∧
        session' = ⟨db, db⟩ := by
  refine ⟨_, _, insertComment_run, commentStoreAfter_ne, ?_⟩
  rcases failed_call_session insertComment_run with h | h | ⟨_, _, _, _, _, _, -, -, -, -, -, -, hcommitted⟩
  · exact absurd (congrArg Session.committed h) commentStoreAfter_ne
  · exact h
  · exact absurd hcommitted commentStoreAfter_ne

end TableGraph.Samples
