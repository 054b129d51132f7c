import Mathlib
import TableGraph.Api.Resolve

/-!
# One lock per request

A context that keeps its lock hands every resolver the same lock: the first
lookup stores a new one and every later lookup finds it. Each resolver of
the API runs its statements only while it holds its lock
(`CompiledSchema.lockActions_resolver`), so on such a context the root
fields of a request take turns on the session, whatever the interleaving.

The invariant `Lock.Safe` follows each field through its resolver
(`Lock.Stage`: not started, past the lookup, holding the lock, done) and
says that every lock looked up is the context's, that the locks held are
those of the fields holding one, and that no two fields hold at once. One
action of one field keeps it (`Lock.Safe.step`), so every run does.

An object with room only for its session stores nothing, so two fields
there get two locks and can both be in their statements at once.

## Main results

* `Lock.RequestContext.lockFor_stored` — a context that keeps its lock
  answers every lookup after the first with the same lock.
* `Lock.Safe.run` — the invariant holds after every schedule.
* `Lock.serializes_of_resolvers` — on a context that keeps its lock, fields
  of the resolvers' shape get one lock, no two hold it at once, and every
  statement runs under it.
* `CompiledSchema.root_fields_take_turns` — so do the root fields of every
  API, whatever their calls and however many statements they issue.
* `Lock.slots_fields_overlap` — on a context that keeps nothing, two reads
  are both in their statements at once.
-/

namespace TableGraph.Lock

namespace RequestContext

/-- A lookup leaves the kind of the context as it was. -/
@[simp] theorem lockFor_kind (c : RequestContext) (fresh : Nat) : (c.lockFor fresh).2.kind = c.kind := by
  unfold lockFor
  split
  · rfl
  · rfl
  · split <;> rfl

/-- On a context that keeps its lock, the lock looked up is the one stored
on the context afterwards, and a lock stored already is found. -/
theorem lockFor_keeps {c : RequestContext} (hkeeps : c.kind.keepsLock = true) (fresh : Nat) :
    (c.lockFor fresh).2.lock = some (c.lockFor fresh).1 ∧
      ∀ l, c.lock = some l → c.lockFor fresh = (l, c) := by
  obtain ⟨kind, lock⟩ := c
  cases kind <;> cases lock <;> simp_all [lockFor, ContextKind.keepsLock]

/-- A context that keeps its lock answers every lookup after the first
with the same lock, and stays as it is. -/
theorem lockFor_stored {c : RequestContext} (hkeeps : c.kind.keepsLock = true) (fresh fresh' : Nat) :
    (c.lockFor fresh).2.lockFor fresh' = ((c.lockFor fresh).1, (c.lockFor fresh).2) :=
  (lockFor_keeps (by simpa using hkeeps) fresh').2 _ (lockFor_keeps hkeeps fresh).1

end RequestContext

namespace World

variable {w : World} {i : Nat}

@[simp] theorem setField_fields (w : World) (i : Nat) (f : FieldRun) (j : Nat) :
    (w.setField i f).fields j = if j = i then f else w.fields j := rfl

@[simp] theorem setField_context (w : World) (i : Nat) (f : FieldRun) :
    (w.setField i f).context = w.context := rfl

@[simp] theorem setField_held (w : World) (i : Nat) (f : FieldRun) : (w.setField i f).held = w.held := rfl

/-- A field with nothing left does not move. -/
theorem step_nil (h : (w.fields i).actions = []) : w.step i = w := by
  unfold step
  dsimp only
  rw [h]

/-- A lookup gives the field the request's lock. -/
theorem step_lookup {rest : List Action} (h : (w.fields i).actions = .lookup :: rest) :
    w.step i = { w.setField i { w.fields i with actions := rest, lock := some (w.context.lockFor w.fresh).1 } with
      context := (w.context.lockFor w.fresh).2, fresh := w.fresh + 1 } := by
  unfold step
  dsimp only
  rw [h]

/-- A field waits for a lock that is held. -/
theorem step_acquire_held {rest : List Action} {l : Nat} (h : (w.fields i).actions = .acquire :: rest)
    (hl : (w.fields i).lock = some l) (hheld : l ∈ w.held) : w.step i = w := by
  unfold step
  dsimp only
  rw [h, hl]
  simp [hheld]

/-- A field takes a lock that no field holds. -/
theorem step_acquire {rest : List Action} {l : Nat} (h : (w.fields i).actions = .acquire :: rest)
    (hl : (w.fields i).lock = some l) (hfree : l ∉ w.held) :
    w.step i = { w.setField i { w.fields i with actions := rest, holding := true } with held := l :: w.held } := by
  unfold step
  dsimp only
  rw [h, hl]
  simp [hfree]

/-- A field gives its lock back. -/
theorem step_release {rest : List Action} {l : Nat} (h : (w.fields i).actions = .release :: rest)
    (hl : (w.fields i).lock = some l) :
    w.step i = { w.setField i { w.fields i with actions := rest, holding := false } with held := w.held.erase l } := by
  unfold step
  dsimp only
  rw [h, hl]

/-- A statement or a commit moves only the field. -/
theorem step_onSession {a : Action} {rest : List Action} (h : (w.fields i).actions = a :: rest)
    (ha : a.onSession = true) : w.step i = w.setField i { w.fields i with actions := rest } := by
  unfold step
  dsimp only
  cases a with
  | execute => rw [h]
  | commit => rw [h]
  | _ => simp [Action.onSession] at ha

end World

/-- Where a field is in its resolver: about to start it, past the lookup
and before the lock, holding the lock with statements left, or done. -/
inductive Stage : FieldRun → Prop
  | start {acts : List Action} : Resolver acts → Stage ⟨acts, none, false⟩
  | waiting {work : List Action} {l : Nat} : (∀ a ∈ work, a.onSession = true) →
      Stage ⟨.acquire :: work ++ [.release], some l, false⟩
  | holding {work : List Action} {l : Nat} : (∀ a ∈ work, a.onSession = true) →
      Stage ⟨work ++ [.release], some l, true⟩
  | done {lock : Option Nat} : Stage ⟨[], lock, false⟩

/-- What holds of every world that resolvers reach on a context that keeps
its lock: each field is at a stage of its resolver, every lock looked up is
the one stored on the context, the locks held are those of the fields that
hold one, each once, and no two fields hold at once. -/
structure Safe (w : World) : Prop where
  keeps : w.context.kind.keepsLock = true
  stages : ∀ i, Stage (w.fields i)
  shared : ∀ i l, (w.fields i).lock = some l → w.context.lock = some l
  held : ∀ l, l ∈ w.held ↔ ∃ i, (w.fields i).holding = true ∧ (w.fields i).lock = some l
  heldNodup : w.held.Nodup
  exclusive : ∀ i j, (w.fields i).holding = true → (w.fields j).holding = true → i = j

namespace Safe

variable {w : World} {i : Nat} {rest : List Action}

/-- A lookup by a field without a lock keeps the invariant when the field
is at a stage afterwards, whatever lock it gets. -/
theorem lookup (h : Safe w) (hf : (w.fields i).actions = .lookup :: rest) (hhold : (w.fields i).holding = false)
    (hnext : ∀ l, Stage ⟨rest, some l, false⟩) : Safe (w.step i) := by
  rw [World.step_lookup hf]
  obtain ⟨hstored, hfound⟩ := RequestContext.lockFor_keeps h.keeps w.fresh
  refine ⟨by simpa using h.keeps, fun j => ?_, fun j l hj => ?_, fun l => ?_, h.heldNodup, fun j k hj hk => ?_⟩
  · simp only [World.setField_fields]
    split
    · rw [hhold]
      exact hnext _
    · exact h.stages j
  · -- a lock looked up before is the context's, which the lookup keeps
    simp only [World.setField_fields] at hj
    split at hj
    · cases hj
      exact hstored
    · rw [hfound l (h.shared j l hj)]
      exact h.shared j l hj
  · simp only [World.setField_fields, World.setField_held]
    rw [h.held l]
    constructor
    · rintro ⟨j, hj, hl⟩
      refine ⟨j, ?_⟩
      split
      · next hji => subst hji; rw [hhold] at hj; cases hj
      · exact ⟨hj, hl⟩
    · rintro ⟨j, hj⟩
      split at hj
      · exact absurd (hhold ▸ hj.1) (by simp)
      · exact ⟨j, hj⟩
  · simp only [World.setField_fields] at hj hk
    split at hj
    · exact absurd (hhold ▸ hj) (by simp)
    · split at hk
      · exact absurd (hhold ▸ hk) (by simp)
      · exact h.exclusive j k hj hk

/-- A field that holds a lock has looked one up. -/
theorem lock_of_holding (h : Safe w) {j : Nat} (hj : (w.fields j).holding = true) :
    ∃ l, (w.fields j).lock = some l := by
  have hstage := h.stages j
  generalize w.fields j = f at hstage hj
  cases hstage with
  | holding => exact ⟨_, rfl⟩
  | start | waiting | done => cases hj

/-- A field that moves on without changing its lock or whether it holds it
keeps the invariant, when it is at a stage afterwards. -/
theorem setField_same (h : Safe w) {f : FieldRun} (hstage : Stage f) (hlock : f.lock = (w.fields i).lock)
    (hhold : f.holding = (w.fields i).holding) : Safe (w.setField i f) := by
  -- the locks and holdings of all fields are as they were
  have hlocks : ∀ j, ((w.setField i f).fields j).lock = (w.fields j).lock := fun j => by
    simp only [World.setField_fields]
    split
    · next hji => rw [hji, hlock]
    · rfl
  have hholds : ∀ j, ((w.setField i f).fields j).holding = (w.fields j).holding := fun j => by
    simp only [World.setField_fields]
    split
    · next hji => rw [hji, hhold]
    · rfl
  refine ⟨h.keeps, fun j => ?_, fun j l hj => ?_, fun l => ?_, h.heldNodup, fun j k hj hk => ?_⟩
  · simp only [World.setField_fields]
    split
    · exact hstage
    · exact h.stages j
  · exact h.shared j l (hlocks j ▸ hj)
  · simp only [World.setField_held, hlocks, hholds]
    exact h.held l
  · exact h.exclusive j k (hholds j ▸ hj) (hholds k ▸ hk)

/-- A statement or a commit keeps the invariant. -/
theorem statement (h : Safe w) {a : Action} {work : List Action} {l : Nat}
    (hfield : w.fields i = ⟨a :: work ++ [.release], some l, true⟩) (hwork : ∀ b ∈ a :: work, b.onSession = true) :
    Safe (w.step i) := by
  rw [World.step_onSession (by rw [hfield]; rfl) (hwork a List.mem_cons_self)]
  exact h.setField_same (by rw [hfield]; exact .holding fun b hb => hwork b (List.mem_cons_of_mem a hb))
    (by rw [hfield]) (by rw [hfield])

/-- A field that takes a free lock keeps the invariant. -/
theorem acquire (h : Safe w) {work : List Action} {l : Nat}
    (hfield : w.fields i = ⟨.acquire :: work ++ [.release], some l, false⟩) (hwork : ∀ a ∈ work, a.onSession = true)
    (hfree : l ∉ w.held) : Safe (w.step i) := by
  rw [World.step_acquire (by rw [hfield]; rfl) (by rw [hfield]) hfree, hfield]
  -- every field that holds a lock holds the context's, which is this one
  have hother : ∀ k, (w.fields k).holding = true → False := by
    intro k hk
    obtain ⟨lk, hlk⟩ := h.lock_of_holding hk
    have hsame : lk = l := by
      have hctx := h.shared i l (by rw [hfield])
      rw [h.shared k lk hlk] at hctx
      exact Option.some.inj hctx
    exact hfree ((h.held l).mpr ⟨k, hk, hsame ▸ hlk⟩)
  refine ⟨h.keeps, fun j => ?_, fun j l' hj => ?_, fun l' => ?_, ?_, fun j k hj hk => ?_⟩
  · simp only [World.setField_fields]
    split
    · exact .holding hwork
    · exact h.stages j
  · simp only [World.setField_fields] at hj
    split at hj
    · next hji => exact h.shared i l' (by rw [hfield]; exact hj)
    · exact h.shared j l' hj
  · simp only [World.setField_fields, List.mem_cons]
    constructor
    · rintro (rfl | hl')
      · exact ⟨i, by simp⟩
      · obtain ⟨k, hk, -⟩ := (h.held l').mp hl'
        exact (hother k hk).elim
    · rintro ⟨j, hj, hl'⟩
      by_cases hji : j = i
      · simp only [hji, if_true] at hl'
        exact .inl (Option.some.inj hl'.symm)
      · simp only [hji, if_false] at hj
        exact (hother j hj).elim
  · exact List.nodup_cons.mpr ⟨hfree, h.heldNodup⟩
  · simp only [World.setField_fields] at hj hk
    split at hj
    · split at hk
      · next hji hki => rw [hji, hki]
      · exact (hother k hk).elim
    · exact (hother j hj).elim

/-- A field that gives its lock back keeps the invariant. -/
theorem release (h : Safe w) {l : Nat} (hfield : w.fields i = ⟨[.release], some l, true⟩) :
    Safe (w.step i) := by
  rw [World.step_release (by rw [hfield]) (by rw [hfield]), hfield]
  -- the field was the only one holding a lock
  have hother : ∀ k, (w.fields k).holding = true → k = i := fun k hk =>
    h.exclusive k i hk (by rw [hfield])
  refine ⟨h.keeps, fun j => ?_, fun j l' hj => ?_, fun l' => ?_, h.heldNodup.erase l, fun j k hj hk => ?_⟩
  · simp only [World.setField_fields]
    split
    · exact .done
    · exact h.stages j
  · simp only [World.setField_fields] at hj
    split at hj
    · exact h.shared i l' (by rw [hfield]; exact hj)
    · exact h.shared j l' hj
  · simp only [World.setField_fields]
    constructor
    · intro hl'
      obtain ⟨k, hk, hkl⟩ := (h.held l').mp (List.mem_of_mem_erase hl')
      have hki := hother k hk
      subst hki
      rw [hfield] at hkl
      cases hkl
      exact absurd hl' (h.heldNodup.not_mem_erase)
    · rintro ⟨j, hj, -⟩
      split at hj
      · cases hj
      · next hji => exact absurd (hother j hj) hji
  · simp only [World.setField_fields] at hj hk
    split at hj
    · cases hj
    · next hji => exact absurd (hother j hj) hji

/-- One action of one field keeps the invariant. -/
theorem step (h : Safe w) (i : Nat) : Safe (w.step i) := by
  -- the field's stage says which action comes next
  have hstage := h.stages i
  generalize hf : w.fields i = f at hstage
  cases hstage with
  | start hres =>
    cases hres with
    | refused => rw [World.step_nil (by rw [hf])]; exact h
    | stopped => exact h.lookup (by rw [hf]) (by rw [hf]) fun _ => .done
    | ran hwork => exact h.lookup (by rw [hf]; rfl) (by rw [hf]) fun _ => .waiting hwork
  | @waiting work l hwork =>
    by_cases hheld : l ∈ w.held
    · rw [World.step_acquire_held (by rw [hf]; rfl) (by rw [hf]) hheld]
      exact h
    · exact h.acquire hf hwork hheld
  | @holding work l hwork =>
    cases work with
    | nil => exact h.release hf
    | cons a work => exact h.statement hf hwork
  | done => rw [World.step_nil (by rw [hf])]; exact h

/-- Every run keeps the invariant. -/
theorem run (h : Safe w) (schedule : List Nat) : Safe (w.run schedule) := by
  induction schedule generalizing w with
  | nil => exact h
  | cons i rest ih => exact ih (h.step i)

end Safe

/-- Resolvers about to run on a context that keeps its lock start safe. -/
theorem safe_start {ctx : RequestContext} (hkeeps : ctx.kind.keepsLock = true) {actions : Nat → List Action}
    (hres : ∀ i, Resolver (actions i)) : Safe (World.start ctx actions) where
  keeps := hkeeps
  stages i := .start (hres i)
  shared _ _ h := by cases h
  held _ := by simp [World.start]
  heldNodup := List.nodup_nil
  exclusive _ _ h := by cases h

/-- On a context that keeps its lock, root fields whose actions have the
shape of a resolver share one lock in any interleaving, never hold it
together, and run every statement and commit while they hold it. -/
theorem serializes_of_resolvers {ctx : RequestContext} (hkeeps : ctx.kind.keepsLock = true)
    {actions : Nat → List Action} (hres : ∀ i, Resolver (actions i)) (schedule : List Nat) :
    let w := (World.start ctx actions).run schedule
    (∀ i j l l', (w.fields i).lock = some l → (w.fields j).lock = some l' → l = l') ∧
    (∀ i j, (w.fields i).holding = true → (w.fields j).holding = true → i = j) ∧
    (∀ i a rest, (w.fields i).actions = a :: rest → a.onSession = true → (w.fields i).holding = true) := by
  intro w
  have h : Safe w := (safe_start hkeeps hres).run schedule
  refine ⟨fun i j l l' hi hj => ?_, h.exclusive, fun i a rest hnext ha => ?_⟩
  · have hctx := h.shared i l hi
    rw [h.shared j l' hj] at hctx
    exact (Option.some.inj hctx).symm
  · -- only a field holding the lock has a statement next
    have hstage := h.stages i
    generalize w.fields i = f at hstage hnext ⊢
    cases hstage with
    | holding => rfl
    | start hres =>
      cases hres with
      | refused => cases hnext
      | stopped | ran => cases hnext; cases ha
    | waiting => cases hnext; cases ha
    | done => cases hnext

/-- Two reads of two statements each, and no other field. -/
def twoReads (i : Nat) : List Action :=
  if i < 2 then [.lookup, .acquire, .execute, .execute, .release] else []

/-- On an object with room only for its session, two reads get two locks
and both reach their statements holding them. -/
theorem slots_fields_overlap :
    let w := (World.start { kind := .slots } twoReads).run [0, 0, 1, 1]
    (w.fields 0).lock ≠ (w.fields 1).lock ∧ (w.fields 0).holding = true ∧ (w.fields 1).holding = true ∧
      (w.fields 0).actions.head? = some .execute ∧ (w.fields 1).actions.head? = some .execute := by
  decide

/-- The statements of a run are all on the session. -/
theorem statements_onSession (count : Nat) (commits : Bool) :
    ∀ a ∈ statements count commits, a.onSession = true := by
  intro a ha
  simp only [statements, List.mem_append, List.mem_replicate] at ha
  rcases ha with ⟨-, rfl⟩ | ha
  · rfl
  · cases commits
    · simp at ha
    · simp only [if_true, List.mem_singleton] at ha
      subst ha
      rfl

end TableGraph.Lock

namespace TableGraph.CompiledSchema

open GraphQL Lock

/-- Every root field of an API acts as a resolver around the lock: nothing,
the lookup alone, or the lookup and its statements under the lock. -/
theorem lockActions_resolver (s : CompiledSchema) (connected : Bool) (call : RootCall) (count : Nat)
    (commits : Bool) : Resolver (s.lockActions connected call count commits) := by
  unfold lockActions
  split
  -- a read that passes its checks
  next => exact .ran (statements_onSession count false)
  next => exact .ran (statements_onSession count false)
  -- a read that fails its checks, after the lookup when it has a database
  next =>
    cases connected
    · exact .refused
    · exact .stopped
  next =>
    cases connected
    · exact .refused
    · exact .stopped
  -- a mutation that passes its checks
  next => exact .ran (statements_onSession count commits)
  next => exact .ran (statements_onSession count commits)
  next => exact .ran (statements_onSession count commits)
  -- anything else touches neither the lock nor the session
  next => exact .refused

/-- On a context that keeps its lock, the root fields of a request take
turns on the session, whatever their calls, however many statements their
runs issue and in whatever interleaving they run: every lock they look up
is one lock, no two of them hold it at once, and every statement and
commit runs while its field holds it. -/
theorem root_fields_take_turns (s : CompiledSchema) (connected : Bool) {ctx : RequestContext}
    (hkeeps : ctx.kind.keepsLock = true) (calls : Nat → RootCall) (counts : Nat → Nat) (commits : Nat → Bool)
    (schedule : List Nat) :
    let w := (World.start ctx fun i => s.lockActions connected (calls i) (counts i) (commits i)).run schedule
    (∀ i j l l', (w.fields i).lock = some l → (w.fields j).lock = some l' → l = l') ∧
    (∀ i j, (w.fields i).holding = true → (w.fields j).holding = true → i = j) ∧
    (∀ i a rest, (w.fields i).actions = a :: rest → a.onSession = true → (w.fields i).holding = true) :=
  serializes_of_resolvers hkeeps (fun i => s.lockActions_resolver connected (calls i) (counts i) (commits i))
    schedule

/-- A table of notes. -/
def notes : Table :=
  { name := "notes", columns := [{ name := "id", table := "notes", tag := "integer", columnType := "Integer" }] }

/-- An API whose mutation root deletes notes. -/
def notesSchema : CompiledSchema :=
  { (default : CompiledSchema) with
    api := { (default : GeneratedApi) with roles := [(("Mutation", "deleteFromNotes"), .delete notes)] } }

/-- A delete of every note. -/
def deleteNotes : RootCall :=
  { rootType := "Mutation", field := "deleteFromNotes", responseKey := "deleteFromNotes", args := []
    selections := [], variableValues := [], document := default }

/-- Two deletes of notes on a mapping context, each running two statements
and its commit under the lock, and alternating as closely as the lock lets
them, never hold the lock together. -/
theorem note_deletes_take_turns :
    ({ kind := .mapping } : RequestContext).kind.keepsLock = true ∧
      notesSchema.lockActions true deleteNotes 2 true =
        [.lookup, .acquire, .execute, .execute, .commit, .release] ∧
      ∀ i j,
        (((World.start { kind := .mapping } fun _ => notesSchema.lockActions true deleteNotes 2 true).run
          [0, 1, 0, 1, 0, 1, 0, 1, 0, 1, 0, 1]).fields i).holding = true →
        (((World.start { kind := .mapping } fun _ => notesSchema.lockActions true deleteNotes 2 true).run
          [0, 1, 0, 1, 0, 1, 0, 1, 0, 1, 0, 1]).fields j).holding = true → i = j :=
  ⟨rfl, by cbv, (root_fields_take_turns notesSchema true rfl (fun _ => deleteNotes) (fun _ => 2) (fun _ => true)
    [0, 1, 0, 1, 0, 1, 0, 1, 0, 1, 0, 1]).2.1⟩

end TableGraph.CompiledSchema
