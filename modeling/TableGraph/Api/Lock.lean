/-!
# The lock of a request

The root fields of a query run concurrently, and they share the request's
session. Each resolver asks the request's context for its lock
(`RequestContext.lockFor`): the lock stored on the context, else a new one,
which the context keeps when it can, that is when it is a mapping or an
object that takes new attributes. An object with room only for its
session, or a missing context, keeps nothing, so each lookup there makes a
new lock.

A resolver looks its lock up before it touches the session and runs every
statement, and the commit of a mutation, while it holds the lock; leaving
the block releases the lock even when a statement fails. A resolver whose
checks fail stops before the lookup or right after it. `Resolver` is that
shape of a resolver's actions; the actions of each root field of the API
(`CompiledSchema.lockActions`) are taken from its checks, and have it.

The scheduler may switch between fields after any action (`World.step`
runs one action of one field; a field that waits for a held lock does not
move), which allows every interleaving the event loop can produce and more.
A run follows a schedule: the fields that move, in order (`World.run`).
-/

namespace TableGraph.Lock

/-- What a request's context is. -/
inductive ContextKind where
  /-- A mutable mapping. -/
  | mapping
  /-- An object that takes new attributes. -/
  | object
  /-- An object with room only for its session. -/
  | slots
  /-- No context at all. -/
  | absent
  deriving DecidableEq, Repr

/-- Whether a context keeps a lock stored on it. -/
def ContextKind.keepsLock : ContextKind → Bool
  | .mapping | .object => true
  | .slots | .absent => false

/-- A request's context as the lock lookup sees it: its kind and the lock
stored on it, by number. -/
structure RequestContext where
  kind : ContextKind
  lock : Option Nat := none
  deriving DecidableEq, Repr

/-- The lock of a request: the one stored on the context, else a new one
numbered `fresh`, which the context keeps when it can. -/
def RequestContext.lockFor (c : RequestContext) (fresh : Nat) : Nat × RequestContext :=
  match c.kind, c.lock with
  | .absent, _ => (fresh, c)
  | _, some l => (l, c)
  | k, none => (fresh, if k.keepsLock then { c with lock := some fresh } else c)

/-- What a root field does on the context and the session, in order. -/
inductive Action where
  /-- Looks the request's lock up. -/
  | lookup
  /-- Takes the lock it looked up, waiting while it is held. -/
  | acquire
  /-- Runs a statement on the session. -/
  | execute
  /-- Commits the session. -/
  | commit
  /-- Gives the lock back. -/
  | release
  deriving DecidableEq, Repr

/-- Whether an action uses the session. -/
def Action.onSession : Action → Bool
  | .execute | .commit => true
  | _ => false

/-- The statements a run issues on the session, in order: `count` of them,
then the commit when it commits. -/
def statements (count : Nat) (commits : Bool) : List Action :=
  List.replicate count .execute ++ if commits then [.commit] else []

/-- The actions a resolver around the lock may take: none when its checks
fail before it reads the context, the lookup alone when they fail after it,
else the lookup, then its statements while it holds the lock. -/
inductive Resolver : List Action → Prop
  | refused : Resolver []
  | stopped : Resolver [.lookup]
  | ran {work : List Action} : (∀ a ∈ work, a.onSession = true) →
      Resolver (.lookup :: .acquire :: work ++ [.release])

/-- A root field on its way: the actions it has left, the lock it looked
up, and whether it holds it. -/
structure FieldRun where
  actions : List Action
  lock : Option Nat := none
  holding : Bool := false
  deriving DecidableEq, Repr

/-- The root fields of a request as they run: the context, the number of
the next lock made, the locks held, and each field's progress. -/
structure World where
  context : RequestContext
  fresh : Nat
  held : List Nat := []
  fields : Nat → FieldRun

namespace World

/-- A world where a field has made progress. -/
def setField (w : World) (i : Nat) (f : FieldRun) : World :=
  { w with fields := fun j => if j = i then f else w.fields j }

/-- One action of field `i`; a field that is done, or waits for a held
lock, does not move. -/
def step (w : World) (i : Nat) : World :=
  let f := w.fields i
  match f.actions, f.lock with
  | .lookup :: rest, _ =>
    let (l, ctx) := w.context.lockFor w.fresh
    { w.setField i { f with actions := rest, lock := some l } with context := ctx, fresh := w.fresh + 1 }
  | .acquire :: rest, some l =>
    if l ∈ w.held then w
    else { w.setField i { f with actions := rest, holding := true } with held := l :: w.held }
  | .release :: rest, some l =>
    { w.setField i { f with actions := rest, holding := false } with held := w.held.erase l }
  | .execute :: rest, _ | .commit :: rest, _ => w.setField i { f with actions := rest }
  | _, _ => w

/-- The fields moved in the order a schedule gives. -/
def run (w : World) (schedule : List Nat) : World :=
  schedule.foldl step w

/-- The root fields of a request about to run on a context, with their
actions; lock numbers start above the context's own. -/
def start (ctx : RequestContext) (actions : Nat → List Action) : World :=
  { context := ctx, fresh := ctx.lock.getD 0 + 1, fields := fun i => { actions := actions i } }

end World

end TableGraph.Lock
