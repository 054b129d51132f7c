import Mathlib
import TableGraph.Proofs.ArgumentForms
import TableGraph.Proofs.ChildRows
import TableGraph.Proofs.ConversionFaults

/-!
# Compiling a sort order

`OrderClause.compile` reads an `orderBy` mapping entry by entry, skips null
entries, and sorts the clauses it reads. For every table and every mapping it
fails, with a validation error, exactly when a non-null entry is refused: its
key names no column, by attribute key or field name; its direction reads as
neither `asc` nor `desc` in any case (an enumeration member by its value); or
its priority is neither null, an integer, nor a text that reads as one once
stripped. Otherwise it answers one clause per non-null entry, read from it,
and sorted stably: clauses with a priority first, by ascending priority, then
in the order the table declares their columns, and clauses alike in all of
these in the order of their entries.

The compiler sorts by a key that codes an absent priority as a flag beside a
priority of zero. `Before` states the order without that coding, so that a
zero or negative priority is never taken for an absent one, and
`precedes_iff_not_before` reads the compiler's comparison through it.

## Main results

* `OrderClause.mergeSort_sortsStably` — sorting by `precedes` is a stable
  sort in the order `Before`.
* `OrderClause.entryStep_eq_ok`, `OrderClause.entryStep_eq_error_iff` — what
  one entry adds, and when it fails.
* `OrderClause.compile_orders_entries` — the compile of a whole mapping.
-/

namespace TableGraph

/-- A bound computation fails when its first step fails, or when the rest
fails on that step's value. -/
theorem Outcome.bind_eq_error {ε α β : Type} {x : Except ε α} {f : α → Except ε β} {e : ε}
    (h : x >>= f = .error e) : x = .error e ∨ ∃ a, x = .ok a ∧ f a = .error e := by
  cases x with
  | error e' => exact .inl (by simpa [bind, Except.bind] using h)
  | ok a => exact .inr ⟨a, rfl, h⟩

/-- Whether a value is null. -/
def Value.isNull : Value → Bool
  | .none => true
  | _ => false

theorem Value.isNull_eq_false_iff {v : Value} : v.isNull = false ↔ v ≠ .none := by
  cases v <;> simp [Value.isNull]

/-- A key finds a column exactly when it is the attribute key or the field
name of one. -/
theorem Table.columnFor?_isSome_iff {t : Table} {key : String} :
    (t.columnFor? key).isSome ↔ ∃ c ∈ t.columns, c.name = key ∨ c.fieldName = key := by
  unfold Table.columnFor? Table.column?
  split
  · rename_i c hc
    exact iff_of_true rfl ⟨c, List.mem_of_find?_eq_some hc, .inl (by simpa using List.find?_some hc)⟩
  · rename_i hnone
    rw [List.find?_eq_none] at hnone
    simp only [List.find?_isSome, List.mem_reverse, beq_iff_eq]
    constructor
    · rintro ⟨c, hc, hfield⟩
      exact ⟨c, hc, .inr hfield⟩
    · rintro ⟨c, hc, hname | hfield⟩
      · exact absurd (by simpa using hname) (hnone c hc)
      · exact ⟨c, hc, hfield⟩

theorem Direction.ofName?_eq_some_iff {w : String} {d : Direction} :
    Direction.ofName? w = some d ↔ w = d.name := by
  unfold Direction.ofName?
  cases d <;> split_ifs <;> simp_all [Direction.name]

namespace OrderClause

/-! ## What an entry reads as -/

/-- A direction reads as `d` when its word, the lower-case text of the value
it stands for, is the name of `d`. -/
def DirectionReads (raw : Value) (d : Direction) : Prop :=
  directionWord (memberValue raw) = d.name

/-- How a priority reads: null as none, an integer as itself, and a text as
the integer its stripped form reads as. A truth value is no integer. -/
inductive PriorityReads : Value → Option Int → Prop
  | absent : PriorityReads .none none
  | int (n : Int) : PriorityReads (.int n) (some n)
  | text {s : String} {n : Int} : Number.readInt? (Text.strip s) = some n →
      PriorityReads (.str s) (some n)

/-- An entry the compiler refuses: its key names no column of the table, by
attribute key or field name; its direction reads as no direction; or its
priority reads as nothing. -/
def Refused (t : Table) (x : String × Value) : Prop :=
  (¬ ∃ c ∈ t.columns, c.name = x.1 ∨ c.fieldName = x.1) ∨
    (∀ d, ¬ DirectionReads (entryField x.2 "direction") d) ∨
    ∀ p, ¬ PriorityReads (entryField x.2 "priority") p

/-- The clause an entry asks for: the column its key finds, and the direction
and priority its members read as. -/
structure Reads (t : Table) (x : String × Value) (cl : OrderClause) : Prop where
  column : t.columnFor? x.1 = some cl.column
  direction : DirectionReads (entryField x.2 "direction") cl.direction
  priority : PriorityReads (entryField x.2 "priority") cl.priority

/-- An entry asks for a clause exactly when it is not refused. -/
theorem exists_reads_iff {t : Table} {x : String × Value} : (∃ cl, Reads t x cl) ↔ ¬ Refused t x := by
  simp only [Refused, not_or, not_not, not_forall]
  constructor
  · rintro ⟨cl, hcol, hdir, hpri⟩
    exact ⟨Table.columnFor?_isSome_iff.mp (by simp [hcol]), ⟨_, hdir⟩, ⟨_, hpri⟩⟩
  · rintro ⟨hcol, ⟨d, hdir⟩, ⟨p, hpri⟩⟩
    obtain ⟨c, hc⟩ := Option.isSome_iff_exists.mp (Table.columnFor?_isSome_iff.mpr hcol)
    exact ⟨⟨c, d, p⟩, hc, hdir, hpri⟩

theorem directionOf_eq_ok_iff {raw : Value} {d : Direction} :
    directionOf raw = .ok d ↔ DirectionReads raw d := by
  rw [DirectionReads, ← Direction.ofName?_eq_some_iff]
  unfold directionOf
  dsimp only
  cases Direction.ofName? (directionWord (memberValue raw)) <;> simp

theorem directionOf_error {raw : Value} {e : Failure} (h : directionOf raw = .error e) :
    ∃ msg, e = .validation msg := by
  unfold directionOf at h
  dsimp only at h
  split at h
  · cases h
  · cases h
    exact ⟨_, rfl⟩

theorem priorityOf_eq_ok_iff {key : String} {raw : Value} {p : Option Int} :
    priorityOf key raw = .ok p ↔ PriorityReads raw p := by
  constructor
  · intro h
    -- only null, an integer and a text that reads as one are accepted
    cases raw with
    | none => simp only [priorityOf, Except.ok.injEq] at h; exact h ▸ .absent
    | int n => simp only [priorityOf, Except.ok.injEq] at h; exact h ▸ .int n
    | str s =>
      cases hs : Number.readInt? (Text.strip s) with
      | none => simp [priorityOf, hs] at h
      | some n =>
        simp only [priorityOf, hs, Except.ok.injEq] at h
        exact h ▸ .text hs
    | _ => simp [priorityOf] at h
  · rintro (_ | n | hs)
    · rfl
    · rfl
    · simp [priorityOf, hs]

theorem priorityOf_error {key : String} {raw : Value} {e : Failure} (h : priorityOf key raw = .error e) :
    ∃ msg, e = .validation msg := by
  unfold priorityOf at h
  dsimp only at h
  split at h
  · cases h
  · cases h
  · split at h
    · cases h
    · cases h
      exact ⟨_, rfl⟩
  · cases h
    exact ⟨_, rfl⟩

/-! ## One entry -/

variable {t : Table}

/-- A null entry adds nothing; any other adds the clause it asks for. -/
theorem entryStep_eq_ok {x : String × Value} {cls : List OrderClause}
    (h : entryStep t [] x = .ok cls) :
    (x.2.isNull = true ∧ cls = []) ∨ (x.2.isNull = false ∧ ∃ cl, cls = [cl] ∧ Reads t x cl) := by
  obtain ⟨key, entry⟩ := x
  by_cases hentry : entry = .none
  · subst hentry
    exact .inl ⟨rfl, (Outcome.pure_eq_ok.mp h).symm⟩
  · cases hc : t.columnFor? key with
    | none => simp only [entryStep, hc] at h; cases h
    | some c =>
      rw [entryStep_column hentry hc] at h
      simp only [Outcome.bind_eq_ok, Outcome.pure_eq_ok] at h
      obtain ⟨d, hd, p, hp, rfl⟩ := h
      exact .inr ⟨Value.isNull_eq_false_iff.mpr hentry, _, rfl,
        hc, directionOf_eq_ok_iff.mp hd, priorityOf_eq_ok_iff.mp hp⟩

/-- A non-null entry that asks for a clause adds it. -/
theorem entryStep_of_reads {x : String × Value} {cl : OrderClause} (hentry : x.2 ≠ .none)
    (h : Reads t x cl) : entryStep t [] x = .ok [cl] := by
  obtain ⟨key, entry⟩ := x
  rw [entryStep_column hentry h.column, directionOf_eq_ok_iff.mpr h.direction,
    priorityOf_eq_ok_iff.mpr h.priority]
  rfl

/-- An entry fails only with a validation error. -/
theorem entryStep_error {x : String × Value} {e : Failure} (h : entryStep t [] x = .error e) :
    ∃ msg, e = .validation msg := by
  obtain ⟨key, entry⟩ := x
  by_cases hentry : entry = .none
  · subst hentry
    cases h
  · cases hc : t.columnFor? key with
    | none =>
      simp only [entryStep, hc] at h
      cases h
      exact ⟨_, rfl⟩
    | some c =>
      rw [entryStep_column hentry hc] at h
      -- the failure is the direction's or the priority's
      rcases Outcome.bind_eq_error h with hd | ⟨d, -, h⟩
      · exact directionOf_error hd
      rcases Outcome.bind_eq_error h with hp | ⟨p, -, h⟩
      · exact priorityOf_error hp
      cases h

/-- An entry fails exactly when it is not null and refused. -/
theorem entryStep_eq_error_iff {x : String × Value} :
    (∃ e, entryStep t [] x = .error e) ↔ x.2 ≠ .none ∧ Refused t x := by
  constructor
  · rintro ⟨e, h⟩
    have hentry : x.2 ≠ .none := by
      intro hnull
      obtain ⟨key, entry⟩ := x
      subst hnull
      cases h
    refine ⟨hentry, ?_⟩
    -- an entry that asks for a clause adds it, so it does not fail
    by_contra hnr
    obtain ⟨cl, hcl⟩ := exists_reads_iff.mpr hnr
    rw [entryStep_of_reads hentry hcl] at h
    cases h
  · rintro ⟨hentry, hr⟩
    cases h : entryStep t [] x with
    | error e => exact ⟨e, rfl⟩
    | ok cls =>
      rcases entryStep_eq_ok h with ⟨hnull, -⟩ | ⟨-, cl, -, hcl⟩
      · exact absurd (Value.isNull_eq_false_iff.mpr hentry) (by simp [hnull])
      · exact absurd (exists_reads_iff.mp ⟨cl, hcl⟩) (not_not.mpr hr)

/-! ## The order of clauses -/

/-- A clause sorts strictly before another: it has a priority and the other
has none; both have one and its priority is lower; or their priorities are
equal, both absent or both the same, and the table declares its column
earlier. -/
def Before (t : Table) (a b : OrderClause) : Prop :=
  (a.priority.isSome ∧ b.priority = none) ∨
    (∃ p q, a.priority = some p ∧ b.priority = some q ∧ p < q) ∨
    (a.priority = b.priority ∧ t.columnIndex a.column.name < t.columnIndex b.column.name)

/-- Two clauses tie: equal priorities, on columns the table declares in one
place. -/
def ties (t : Table) (a b : OrderClause) : Bool :=
  a.priority == b.priority && t.columnIndex a.column.name == t.columnIndex b.column.name

/-- `cs` is `built` sorted stably: the same clauses, none after a clause that
sorts before it, and clauses that tie in the order `built` gives them. -/
structure SortsStably (t : Table) (built cs : List OrderClause) : Prop where
  perm : cs.Perm built
  sorted : cs.Pairwise fun a b => ¬ Before t b a
  stable : ∀ c, cs.filter (ties t c) = built.filter (ties t c)

/-- What a compile answers for the entries of a mapping: the clauses its
non-null entries ask for, in their order, sorted stably. -/
def Orders (t : Table) (es : List (String × Value)) (cs : List OrderClause) : Prop :=
  ∃ built, List.Forall₂ (Reads t) (es.filter fun x => !x.2.isNull) built ∧ SortsStably t built cs

/-- The compiler's comparison is "not sorted after". -/
theorem precedes_iff_not_before (a b : OrderClause) : precedes t a b = true ↔ ¬ Before t b a := by
  obtain ⟨ca, da, pa⟩ := a
  obtain ⟨cb, db, pb⟩ := b
  unfold precedes Before
  cases pa with
  | none => cases pb <;> simp
  | some p =>
    cases pb with
    | none => simp
    | some q =>
      -- both have a priority: the lower one first, then the earlier column
      simp
      omega

/-- Two clauses that tie with a third come in either order. -/
theorem precedes_of_ties {a b c : OrderClause} (ha : ties t c a = true) (hb : ties t c b = true) :
    precedes t a b = true := by
  simp only [ties, Bool.and_eq_true, beq_iff_eq] at ha hb
  simp [precedes, ← ha.1, ← hb.1, ← ha.2, ← hb.2]

/-- Sorting by the compiler's comparison is a stable sort. -/
theorem mergeSort_sortsStably (cls : List OrderClause) :
    SortsStably t cls (cls.mergeSort (precedes t)) where
  perm := List.mergeSort_perm cls _
  sorted := (List.pairwise_mergeSort precedes_trans precedes_total cls).imp
    fun h => (precedes_iff_not_before _ _).mp h
  stable c := by
    rw [Store.mergeSort_filter precedes_trans precedes_total]
    -- the clauses that tie with `c` come in either order, so sorting keeps them
    refine List.mergeSort_of_pairwise (List.pairwise_of_forall_mem_list fun a ha b hb => ?_)
    exact precedes_of_ties (List.of_mem_filter ha) (List.of_mem_filter hb)

/-! ## All entries -/

/-- A walk over the entries that succeeds gives, in order, the clauses the
non-null entries ask for. -/
theorem walk_reads {es : List (String × Value)} {clss : List (List OrderClause)}
    (h : es.mapM (entryStep t []) = .ok clss) :
    List.Forall₂ (Reads t) (es.filter fun x => !x.2.isNull) clss.flatten := by
  induction es generalizing clss with
  | nil =>
    simp only [List.mapM_nil, Outcome.pure_eq_ok] at h
    subst h
    exact .nil
  | cons x es ih =>
    simp only [List.mapM_cons, Outcome.bind_eq_ok, Outcome.pure_eq_ok] at h
    obtain ⟨cls, hx, clss', hes, rfl⟩ := h
    rcases entryStep_eq_ok hx with ⟨hnull, rfl⟩ | ⟨hnull, cl, rfl, hcl⟩
    · simpa [List.filter_cons, hnull] using ih hes
    · simpa [List.filter_cons, hnull] using List.Forall₂.cons hcl (ih hes)

/-- A walk over the entries fails only with a validation error, and only at
a refused non-null entry. -/
theorem walk_eq_error {es : List (String × Value)} {e : Failure}
    (h : es.mapM (entryStep t []) = .error e) :
    (∃ msg, e = .validation msg) ∧ ∃ x ∈ es, x.2 ≠ .none ∧ Refused t x := by
  obtain ⟨x, hx, hfail⟩ := Outcome.mapM_eq_error h
  exact ⟨entryStep_error hfail, x, hx, entryStep_eq_error_iff.mp ⟨e, hfail⟩⟩

/-- A refused non-null entry makes the walk fail. -/
theorem walk_error_of_refused {es : List (String × Value)} {x : String × Value} (hx : x ∈ es)
    (hentry : x.2 ≠ .none) (hr : Refused t x) : ∃ e, es.mapM (entryStep t []) = .error e := by
  obtain ⟨e, he⟩ := entryStep_eq_error_iff.mpr ⟨hentry, hr⟩
  exact Outcome.mapM_error_of_mem hx he

/-- Compiling a mapping walks its entries and sorts the clauses they add. -/
theorem compile_dict_eq_walk (t : Table) (es : List (String × Value)) :
    compile t (.dict es) =
      (fun clss => clss.flatten.mergeSort (precedes t)) <$> es.mapM (entryStep t []) := by
  cases hne : es.isEmpty
  · rw [compile_dict t hne, Outcome.foldlM_eq_flatten entryStep_append]
    cases es.mapM (entryStep t []) <;> rfl
  · rw [List.isEmpty_iff.mp hne, compile_falsy t rfl]
    simp

/-- Compiling an `orderBy` mapping fails, with a validation error, exactly
when a non-null entry is refused; otherwise it answers the clauses the
non-null entries ask for, sorted stably. -/
theorem compile_orders_entries (t : Table) (es : List (String × Value)) :
    ((∃ msg, compile t (.dict es) = .error (.validation msg)) ↔
        ∃ x ∈ es, x.2 ≠ .none ∧ Refused t x) ∧
      ((∃ msg, compile t (.dict es) = .error (.validation msg)) ∨
        ∃ cs, compile t (.dict es) = .ok cs ∧ Orders t es cs) := by
  rw [compile_dict_eq_walk]
  cases hw : es.mapM (entryStep t []) with
  | error e =>
    obtain ⟨⟨msg, rfl⟩, hrefused⟩ := walk_eq_error hw
    exact ⟨iff_of_true ⟨msg, rfl⟩ hrefused, .inl ⟨msg, rfl⟩⟩
  | ok clss =>
    refine ⟨iff_of_false ?_ ?_, .inr ⟨_, rfl, clss.flatten, walk_reads hw, mergeSort_sortsStably _⟩⟩
    · rintro ⟨msg, h⟩
      cases h
    · -- a refused entry would have made the walk fail
      rintro ⟨x, hx, hentry, hr⟩
      obtain ⟨e, he⟩ := walk_error_of_refused hx hentry hr
      rw [hw] at he
      cases he

end OrderClause

end TableGraph
