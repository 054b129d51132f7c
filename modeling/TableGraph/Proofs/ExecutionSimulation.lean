import Mathlib
import TableGraph.Api.Resolve

/-!
# Executing one document against two schemas

The executor reads a schema in a few places only: the definition of each
type it completes a value against, the fields of that type, the input types
that arguments and directive conditions are coerced to, and the type names
that fragment conditions compare with. This module proves once that two
schemas which agree at those places, read through resolvers that agree on
the fields, give a document the same data.

The agreement is a `Simulation`: a relation `Good n₁ n₂ nodes` between a type
name on each side and the field nodes completed against them, closed under
the fields those nodes select. Related names need not be equal; a `__typename`
selection is the one place the name itself shows in the data. Errors are not
compared: two completions agree (`SameData`) when they give the same value
or both fail, whatever errors they record, so a message naming a type may
differ between the sides.

The proof follows the executor. `completeValue`, `completeItems` and
`completeFields` are mutually recursive on a fuel shared by the three, so
the step is proved for a list of items and for a list of fields from the
result at the same fuel, and for a value from both at one less
(`Simulation.completeValue_sameData`). The root fields of a query are run by
three loops; the first two run alike on both sides and the third carries the
completed data (`executeConcurrently_sameData`).

## Main results

* `Schema.coerceLiteral_congr` — coercion reads only the input types.
* `collect_congr`, `subfields_congr` — fields are collected alike when every
  fragment condition met names both types or neither.
* `Simulation.completeValue_sameData` — completion gives the same data.
* `executeOperation_sameData` — so does a whole query.
-/

namespace TableGraph.GraphQL

/-! ## Completions with the same data -/

/-- Two completions agree on the data: started after any errors, they give
the same value or both fail. The errors they record may differ. -/
def SameData {α : Type} (m₁ m₂ : Completion α) : Prop :=
  ∀ l₁ l₂ : Array RequestError, ((m₁.run.run l₁).1).toOption = ((m₂.run.run l₂).1).toOption

namespace Completion

variable {α β : Type}

theorem run_bind (m : Completion α) (f : α → Completion β) (l : Array RequestError) :
    (m >>= f).run.run l =
      match m.run.run l with
      | (.ok a, l') => (f a).run.run l'
      | (.error e, l') => (.error e, l') := by
  rcases h : m.run.run l with ⟨e | a, l'⟩ <;>
    simp [ExceptT.run_bind, StateT.run_bind, h] <;> rfl

theorem run_tryCatch (m : Completion α) (h : RequestError → Completion α) (l : Array RequestError) :
    (tryCatch m h).run.run l =
      match m.run.run l with
      | (.ok a, l') => (.ok a, l')
      | (.error e, l') => (h e).run.run l' := by
  rcases hm : m.run.run l with ⟨e | a, l'⟩ <;>
    simp only [tryCatch, MonadExcept.tryCatch, tryCatchThe, MonadExceptOf.tryCatch, ExceptT.tryCatch,
      ExceptT.run, ExceptT.mk, StateT.run_bind] at hm ⊢ <;> rw [hm] <;> rfl

end Completion

namespace SameData

variable {α β : Type}

theorem of_pure (a : α) : SameData (pure a : Completion α) (pure a) := fun _ _ => rfl

theorem of_throw (e₁ e₂ : RequestError) : SameData (throw e₁ : Completion α) (throw e₂) := fun _ _ => rfl

theorem of_throw_bind (e₁ e₂ : RequestError) (f₁ f₂ : α → Completion β) :
    SameData (throw e₁ >>= f₁) (throw e₂ >>= f₂) := fun _ _ => rfl

theorem bind {m₁ m₂ : Completion α} {f₁ f₂ : α → Completion β} (hm : SameData m₁ m₂)
    (hf : ∀ a, SameData (f₁ a) (f₂ a)) : SameData (m₁ >>= f₁) (m₂ >>= f₂) := by
  intro l₁ l₂
  have h := hm l₁ l₂
  rw [Completion.run_bind, Completion.run_bind]
  rcases h₁ : m₁.run.run l₁ with ⟨e₁ | a₁, k₁⟩ <;> rcases h₂ : m₂.run.run l₂ with ⟨e₂ | a₂, k₂⟩ <;>
    rw [h₁, h₂] at h <;> simp [Except.toOption] at h ⊢
  subst h
  exact hf a₁ k₁ k₂

/-- A field that yields null on failure does so on both sides or on neither. -/
theorem guard {m₁ m₂ : Completion Json} (b : Bool) (hm : SameData m₁ m₂) :
    SameData (guardField b m₁) (guardField b m₂) := by
  intro l₁ l₂
  have h := hm l₁ l₂
  unfold guardField
  rw [Completion.run_tryCatch, Completion.run_tryCatch]
  rcases h₁ : m₁.run.run l₁ with ⟨e₁ | a₁, k₁⟩ <;> rcases h₂ : m₂.run.run l₂ with ⟨e₂ | a₂, k₂⟩ <;>
    rw [h₁, h₂] at h <;> simp [Except.toOption] at h ⊢
  · cases b <;> rfl
  · exact h

end SameData

/-! ## Sources, types and input types -/

/-- A resolved value with no introspection part in it: those are read from
the schema itself. -/
inductive Source.PartFree {ω : Type} : Source ω → Prop
  | null : Source.PartFree .null
  | leaf (v : Value) : Source.PartFree (.leaf v)
  | object (o : ω) : Source.PartFree (.object o)
  | list {items : List (Source ω)} : (∀ s ∈ items, Source.PartFree s) → Source.PartFree (.list items)

/-- Type references of one shape whose names are related by `R`. -/
inductive TypeRef.Alike (R : String → String → Prop) : TypeRef → TypeRef → Prop
  | named {n₁ n₂ : String} : R n₁ n₂ → TypeRef.Alike R (.named n₁) (.named n₂)
  | list {t₁ t₂ : TypeRef} : TypeRef.Alike R t₁ t₂ → TypeRef.Alike R (.list t₁) (.list t₂)
  | nonNull {t₁ t₂ : TypeRef} : TypeRef.Alike R t₁ t₂ → TypeRef.Alike R (.nonNull t₁) (.nonNull t₂)

theorem TypeRef.Alike.isNullable {R : String → String → Prop} {t₁ t₂ : TypeRef} (h : TypeRef.Alike R t₁ t₂) :
    t₁.isNullable = t₂.isNullable := by
  cases h <;> rfl

/-- A name the schema defines as an object type. -/
def Schema.ObjectType (s : Schema) (n : String) : Prop :=
  ∃ d, s.definition? n = some d ∧ d.isObject = true

/-- Two schemas define the same input types (scalars, enumerations and
input objects); their object types may differ. -/
def Schema.SameInputs (s₁ s₂ : Schema) : Prop :=
  ∀ n, (s₁.definition? n).filter (·.isInput) = (s₂.definition? n).filter (·.isInput)

theorem Schema.SameInputs.definition?_eq {s₁ s₂ : Schema} (h : s₁.SameInputs s₂) {n : String} {d : NamedType}
    (hd : s₁.definition? n = some d) (hin : d.isInput = true) : s₂.definition? n = some d := by
  have := h n
  rw [hd, Option.filter_some, if_pos hin] at this
  exact (Option.filter_eq_some_iff.mp this.symm).1

/-- Coercing a written value reads only the input types. -/
theorem Schema.coerceLiteral_congr {s₁ s₂ : Schema} (h : s₁.SameInputs s₂) (vars : List (String × Value))
    (l : Literal) (t : TypeRef) : s₁.coerceLiteral vars l t = s₂.coerceLiteral vars l t := by
  have hsym : s₂.SameInputs s₁ := fun n => (h n).symm
  fun_induction s₁.coerceLiteral vars l t
  all_goals rw [Schema.coerceLiteral]
  all_goals try simp_all
  case case8 items inner coerced ih =>
    simp only [coerced, dite_eq_ite]
    congr 1
    -- both sides as one traversal of the attached items
    have hattach : ∀ G : Literal → Option Value,
        List.mapM G items = List.mapM (fun x : {x // x ∈ items} => G x.val) items.attach := by
      intro G
      conv_lhs => rw [← List.attach_map_subtype_val items]
      rw [List.mapM_map]
      rfl
    rw [List.mapM_map, hattach]
    congr 1
    funext x
    simp only [Function.comp, id]
    rw [ih x.val x.property]
  case case10 given name nm desc fs hdef step ih =>
    rw [h.definition?_eq hdef rfl]
    simp only [step]
    congr 2
    funext acc f
    congr 1
    funext entries
    split
    · rename_i fst fl hmem _
      simp only [dite_eq_ite, ih f fst fl hmem]
    · simp only [dite_eq_ite]
  case case11 given name hnot =>
    rcases hd₂ : s₂.definition? name with _ | ⟨nm, desc, _ | fs | fs | vs⟩
    case inputObject => exact absurd (hsym.definition?_eq hd₂ rfl) (hnot nm desc fs)
    all_goals rfl
  case case12 => rw [h.definition?_eq ‹s₁.definition? _ = some _› rfl]
  case case13 => rw [h.definition?_eq ‹s₁.definition? _ = some _› rfl]
  case case14 => rw [h.definition?_eq ‹s₁.definition? _ = some _› rfl]
  case case15 hscalar henum =>
    rcases hd₂ : s₂.definition? _ with _ | ⟨nm, desc, _ | fs | fs | vs⟩
    case scalar => exact absurd (hsym.definition?_eq hd₂ rfl) (hscalar nm desc)
    case enum => exact absurd (hsym.definition?_eq hd₂ rfl) (henum nm desc vs)
    all_goals rfl

section Contexts

variable {c₁ c₂ : Context} (hin : c₁.schema.SameInputs c₂.schema) (hvars : c₁.variableValues = c₂.variableValues)
include hin hvars

theorem Context.directiveIf_congr : c₁.directiveIf = c₂.directiveIf := by
  funext d
  simp only [Context.directiveIf, Schema.coerceLiteral_congr hin, hvars]

theorem Context.excludes_congr (ds : List DirectiveUse) : c₁.excludes ds = c₂.excludes ds := by
  simp only [Context.excludes, Context.directiveIf_congr hin hvars]

theorem Context.argumentValues_congr (defs : List InputValue) (given : List (String × Literal)) :
    c₁.argumentValues defs given = c₂.argumentValues defs given := by
  simp only [Context.argumentValues, Schema.coerceLiteral_congr hin, hvars]

end Contexts

/-! ## Collecting fields -/

/-- A selection reached from a list of selections: one of them, or one
reached inside an inline fragment or a fragment spread among them. -/
inductive Document.Reaches (doc : Document) : List Selection → Selection → Prop
  | head (sel : Selection) (rest : List Selection) : Document.Reaches doc (sel :: rest) sel
  | tail (sel : Selection) {rest : List Selection} {x : Selection} :
      Document.Reaches doc rest x → Document.Reaches doc (sel :: rest) x
  | inline {cond : Option String} {ds : List DirectiveUse} {inner rest : List Selection} {x : Selection} :
      Document.Reaches doc inner x → Document.Reaches doc (.inline cond ds inner :: rest) x
  | spread {n : String} {ds : List DirectiveUse} {rest : List Selection} {f : Fragment} {x : Selection} :
      doc.fragment? n = some f → Document.Reaches doc f.selections x →
        Document.Reaches doc (.spread n ds :: rest) x

/-- A type condition met in a selection names both object types or neither. -/
def Document.ConditionAlike (doc : Document) (n₁ n₂ : String) : Selection → Prop
  | .inline (some cond) _ _ => (cond = n₁ ↔ cond = n₂)
  | .spread n _ => ∀ f, doc.fragment? n = some f → (f.typeCondition = n₁ ↔ f.typeCondition = n₂)
  | _ => True

theorem Document.conditionAlike_self (doc : Document) (n : String) (x : Selection) :
    doc.ConditionAlike n n x := by
  unfold Document.ConditionAlike
  split
  · exact Iff.rfl
  · exact fun _ _ => Iff.rfl
  · trivial

theorem collect_congr {c₁ c₂ : Context} (hdoc : c₁.document = c₂.document)
    (hex : ∀ ds, c₁.excludes ds = c₂.excludes ds) {n₁ n₂ : String} :
    ∀ (fuel : Nat) (sels : List Selection) (acc : List FieldGroup × List String),
      (∀ x, c₁.document.Reaches sels x → c₁.document.ConditionAlike n₁ n₂ x) →
      c₁.collect n₁ fuel sels acc = c₂.collect n₂ fuel sels acc
  | _, [], _, _ => by simp only [Context.collect]
  | fuel, sel :: rest, ⟨groups, visited⟩, hcond => by
    have hrest := fun acc => collect_congr hdoc hex fuel rest acc fun x hx => hcond x (.tail sel hx)
    have hsel := hcond sel (.head sel rest)
    cases sel with
    | field a name args ds sub =>
      simp only [Context.collect, hex]
      exact hrest _
    | inline cond ds inner =>
      cases fuel with
      | zero => simp only [Context.collect]; exact hrest _
      | succ fuel =>
        have hinner := collect_congr hdoc hex fuel inner (groups, visited)
          fun x hx => hcond x (.inline hx)
        rcases cond with _ | cond
        · simp only [Context.collect, hex, hinner, Option.isSome_none, Bool.false_and, Bool.or_false]
          exact hrest _
        · simp only [Document.ConditionAlike] at hsel
          have hne : (some cond != some n₁) = (some cond != some n₂) := by
            by_cases h₁ : cond = n₁
            · rw [← h₁, ← hsel.mp h₁]
            · rw [Bool.eq_iff_iff]
              simp [h₁, mt hsel.mpr h₁]
          simp only [Context.collect, hex, hinner, hne]
          exact hrest _
    | spread n ds =>
      cases fuel with
      | zero => simp only [Context.collect]; exact hrest _
      | succ fuel =>
        simp only [Context.collect, hex, ← hdoc]
        rcases hf : c₁.document.fragment? n with _ | f
        · exact hrest _
        · simp only [Document.ConditionAlike] at hsel
          have hcond' := hsel f hf
          have hinner := collect_congr hdoc hex fuel f.selections (groups, visited ++ [n])
            fun x hx => hcond x (.spread hf hx)
          have hbeq : (f.typeCondition == n₁) = (f.typeCondition == n₂) := by
            by_cases h₁ : f.typeCondition = n₁
            · rw [← h₁, ← hcond'.mp h₁]
            · rw [Bool.eq_iff_iff]
              simp [h₁, mt hcond'.mpr h₁]
          simp only [hinner, hbeq]
          exact hrest _
termination_by fuel sels => (fuel, sels.length)

theorem subfields_congr {c₁ c₂ : Context} (hdoc : c₁.document = c₂.document)
    (hex : ∀ ds, c₁.excludes ds = c₂.excludes ds) {n₁ n₂ : String} {nodes : List FieldNode}
    (hcond : ∀ nd ∈ nodes, ∀ x, c₁.document.Reaches (nd.selections.getD []) x →
      c₁.document.ConditionAlike n₁ n₂ x) :
    c₁.subfields n₁ nodes = c₂.subfields n₂ nodes := by
  unfold Context.subfields
  congr 1
  generalize (([], []) : List FieldGroup × List String) = acc
  induction nodes generalizing acc with
  | nil => rfl
  | cons nd rest ih =>
    simp only [List.foldl_cons]
    rw [← ih (fun nd' h => hcond nd' (by simp [h]))]
    congr 1
    rcases hs : nd.selections with _ | sels
    · rfl
    · exact collect_congr hdoc hex _ sels acc fun x hx => hcond nd (by simp) x (by simpa [hs] using hx)

/-- The field node a field selection stands for. -/
def Selection.fieldNode? : Selection → Option FieldNode
  | .field a name args ds sub => some ⟨a, name, args, ds, sub⟩
  | _ => none

/-- Every node of every group satisfies `P` under the group's key. -/
def GroupsWith (P : String → FieldNode → Prop) (groups : List FieldGroup) : Prop :=
  ∀ key ns, (key, ns) ∈ groups → ∀ nd ∈ ns, P key nd

theorem groupsWith_addToGroup {P : String → FieldNode → Prop} {groups : List FieldGroup} {key : String}
    {nd : FieldNode} (hg : GroupsWith P groups) (hnd : P key nd) :
    GroupsWith P (Context.addToGroup groups key nd) := by
  intro k ns hmem x hx
  unfold Context.addToGroup at hmem
  split at hmem
  · obtain ⟨⟨k', ns'⟩, hmem', heq⟩ := List.mem_map.mp hmem
    by_cases hk : k' = key
    · simp only [hk, beq_self_eq_true, if_true, Prod.mk.injEq] at heq
      obtain ⟨rfl, rfl⟩ := heq
      rcases List.mem_append.mp hx with hx | hx
      · exact hg _ _ (hk ▸ hmem') x hx
      · rw [List.mem_singleton.mp hx]
        exact hnd
    · simp only [beq_iff_eq, hk, if_false, Prod.mk.injEq] at heq
      obtain ⟨rfl, rfl⟩ := heq
      exact hg _ _ hmem' x hx
  · rcases List.mem_append.mp hmem with hmem | hmem
    · exact hg _ _ hmem x hx
    · obtain ⟨rfl, rfl⟩ := Prod.mk.inj (List.mem_singleton.mp hmem)
      rw [List.mem_singleton.mp hx]
      exact hnd

/-- Collecting adds only field nodes reached from the selections, each under
its response key. -/
theorem collect_groupsWith {c : Context} {n : String} {P : String → FieldNode → Prop} :
    ∀ (fuel : Nat) (sels : List Selection) (acc : List FieldGroup × List String),
      GroupsWith P acc.1 →
      (∀ x nd, c.document.Reaches sels x → x.fieldNode? = some nd → P (nd.aliasName.getD nd.name) nd) →
      GroupsWith P (c.collect n fuel sels acc).1
  | _, [], _, hacc, _ => by simpa only [Context.collect] using hacc
  | fuel, sel :: rest, ⟨groups, visited⟩, hacc, hsels => by
    have hrest := fun acc hacc => collect_groupsWith (c := c) (n := n) fuel rest acc hacc
      fun x nd hx => hsels x nd (.tail sel hx)
    cases sel with
    | field a name args ds sub =>
      simp only [Context.collect]
      apply hrest
      split
      · exact hacc
      · exact groupsWith_addToGroup hacc (hsels _ _ (.head _ rest) rfl)
    | inline cond ds inner =>
      cases fuel with
      | zero => simp only [Context.collect]; exact hrest _ hacc
      | succ fuel =>
        simp only [Context.collect]
        apply hrest
        split
        · exact hacc
        · exact collect_groupsWith (c := c) (n := n) fuel inner _ hacc fun x nd hx => hsels x nd (.inline hx)
    | spread m ds =>
      cases fuel with
      | zero => simp only [Context.collect]; exact hrest _ hacc
      | succ fuel =>
        simp only [Context.collect]
        apply hrest
        split
        · exact hacc
        · rcases hf : c.document.fragment? m with _ | f
          · exact hacc
          · simp only
            split
            · exact collect_groupsWith (c := c) (n := n) fuel f.selections _ hacc
                fun x nd hx => hsels x nd (.spread hf hx)
            · exact hacc
termination_by fuel sels => (fuel, sels.length)

/-- Collecting the selections of field nodes one after another keeps the
groups' nodes satisfying `P` when every field they reach does. -/
theorem foldl_collect_groupsWith {c : Context} {n : String} {P : String → FieldNode → Prop} :
    ∀ nodes : List FieldNode, (∀ nd ∈ nodes, ∀ x f, c.document.Reaches (nd.selections.getD []) x →
      x.fieldNode? = some f → P (f.aliasName.getD f.name) f) →
    ∀ acc : List FieldGroup × List String, GroupsWith P acc.1 →
      GroupsWith P (nodes.foldl (fun acc n' => match n'.selections with
        | some sels => c.collect n Context.collectFuel sels acc
        | none => acc) acc).1 := by
  intro nodes
  induction nodes with
  | nil => exact fun _ _ hacc => hacc
  | cons nd rest ih =>
    intro hnodes acc hacc
    simp only [List.foldl_cons]
    apply ih (fun nd' h => hnodes nd' (by simp [h]))
    rcases hs : nd.selections with _ | sels
    · exact hacc
    · exact collect_groupsWith _ sels acc hacc fun x f hx =>
        hnodes nd (by simp) x f (by simpa [hs] using hx)

theorem subfields_groupsWith {c : Context} {n : String} {P : String → FieldNode → Prop} {nodes : List FieldNode}
    (hnodes : ∀ nd ∈ nodes, ∀ x f, c.document.Reaches (nd.selections.getD []) x → x.fieldNode? = some f →
      P (f.aliasName.getD f.name) f) :
    GroupsWith P (c.subfields n nodes) := by
  unfold Context.subfields
  exact foldl_collect_groupsWith nodes hnodes ([], []) (by simp [GroupsWith])

/-! ## Completing values -/

variable {ω : Type}

/-- How fields of objects are read: object, parent type, field name and
response key. -/
abbrev Reader (ω : Type) := ω → String → String → String → Outcome (Source ω)

/-- A field node selects alike on the two types: `__typename` only where the
names agree, and otherwise a field on both sides or on neither, with the same
name and arguments, types related by `R`, and read alike. -/
def FieldAlike (c₁ c₂ : Context) (r₁ r₂ : Reader ω) (R : String → String → Prop) (n₁ n₂ : String)
    (nd : FieldNode) : Prop :=
  (nd.name = "__typename" → n₁ = n₂) ∧
  ((c₁.schema.fieldDef? n₁ nd.name = none ∧ c₂.schema.fieldDef? n₂ nd.name = none) ∨
   ∃ F₁ F₂, c₁.schema.fieldDef? n₁ nd.name = some F₁ ∧ c₂.schema.fieldDef? n₂ nd.name = some F₂ ∧
     F₁.name = F₂.name ∧ F₁.args = F₂.args ∧ TypeRef.Alike R F₁.type F₂.type ∧
     ∀ o key, r₁ o n₁ F₁.name key = r₂ o n₂ F₂.name key)

/-- A simulation between two contexts running one document: `Good n₁ n₂
nodes` relates type names on each side with the field nodes completed
against them. Related names are both objects, or define the same other type;
related objects collect the same fields, each selecting alike, and the
selections below a field are again related at the field's types. -/
structure Simulation (c₁ c₂ : Context) (r₁ r₂ : Reader ω) where
  Good : String → String → List FieldNode → Prop
  document : c₁.document = c₂.document
  variableValues : c₁.variableValues = c₂.variableValues
  inputs : c₁.schema.SameInputs c₂.schema
  partFree : ∀ o n f k s, r₁ o n f k = .ok s → s.PartFree
  kind : ∀ {n₁ n₂ ns}, Good n₁ n₂ ns →
    (c₁.schema.ObjectType n₁ ∧ c₂.schema.ObjectType n₂) ∨
      (¬ c₁.schema.ObjectType n₁ ∧ c₁.schema.definition? n₁ = c₂.schema.definition? n₂)
  groups : ∀ {n₁ n₂ ns}, Good n₁ n₂ ns → c₁.schema.ObjectType n₁ → c₁.subfields n₁ ns = c₂.subfields n₂ ns
  fields : ∀ {n₁ n₂ ns}, Good n₁ n₂ ns → c₁.schema.ObjectType n₁ →
    ∀ key nd rest, (key, nd :: rest) ∈ c₁.subfields n₁ ns →
      FieldAlike c₁ c₂ r₁ r₂ (fun m₁ m₂ => Good m₁ m₂ (nd :: rest)) n₁ n₂ nd

namespace Simulation

variable {c₁ c₂ : Context} {r₁ r₂ : Reader ω} (S : Simulation c₁ c₂ r₁ r₂)

include S in
theorem arguments (defs : List InputValue) (given : List (String × Literal)) :
    c₁.argumentValues defs given = c₂.argumentValues defs given :=
  Context.argumentValues_congr S.inputs S.variableValues defs given

theorem resolveField_eq {src : Source ω} (hsrc : src.PartFree) {n₁ n₂ : String} {F₁ F₂ : Field}
    (hread : ∀ o key, r₁ o n₁ F₁.name key = r₂ o n₂ F₂.name key) (key : String)
    (args : List (String × Value)) :
    Execution.resolveField c₁ r₁ src n₁ F₁ key args = Execution.resolveField c₂ r₂ src n₂ F₂ key args := by
  cases hsrc <;> simp [Execution.resolveField, hread]

include S in
theorem resolveField_partFree {src : Source ω} (hsrc : src.PartFree) {n : String} {F : Field} {key : String}
    {args : List (String × Value)} {s : Source ω}
    (h : Execution.resolveField c₁ r₁ src n F key args = .ok s) : s.PartFree := by
  cases hsrc with
  | object o => exact S.partFree o n F.name key s h
  | null | leaf _ | list _ =>
    simp only [Execution.resolveField, Except.ok.injEq] at h
    exact h ▸ .null

/-- Completing values of related types at one fuel gives the same data. -/
def ValuesAgree (fuel : Nat) : Prop :=
  ∀ (t₁ t₂ : TypeRef) (nodes : List FieldNode) (p₁ p₂ fieldName : String) (path : List PathSeg)
    (src : Source ω), TypeRef.Alike (fun m₁ m₂ => S.Good m₁ m₂ nodes) t₁ t₂ → src.PartFree →
    SameData (Execution.completeValue c₁ r₁ fuel t₁ nodes p₁ fieldName path src)
      (Execution.completeValue c₂ r₂ fuel t₂ nodes p₂ fieldName path src)

theorem completeItems_sameData {fuel : Nat} (hV : S.ValuesAgree fuel) {inner₁ inner₂ : TypeRef}
    {nodes : List FieldNode} (h : TypeRef.Alike (fun m₁ m₂ => S.Good m₁ m₂ nodes) inner₁ inner₂)
    (p₁ p₂ fieldName : String) (path : List PathSeg) :
    ∀ (items : List (Source ω)) (i : Nat) (acc : List Json), (∀ s ∈ items, s.PartFree) →
      SameData (Execution.completeItems c₁ r₁ fuel inner₁ nodes p₁ fieldName path i items acc)
        (Execution.completeItems c₂ r₂ fuel inner₂ nodes p₂ fieldName path i items acc)
  | [], i, acc, _ => by
    simp only [Execution.completeItems]
    exact SameData.of_pure _
  | item :: rest, i, acc, hitems => by
    simp only [Execution.completeItems]
    rw [h.isNullable]
    refine SameData.bind (SameData.guard _ (hV _ _ _ _ _ _ _ _ h (hitems item (by simp)))) fun j => ?_
    exact completeItems_sameData hV h p₁ p₂ fieldName path rest (i + 1) (j :: acc)
      fun s hs => hitems s (by simp [hs])

theorem completeFields_sameData {fuel : Nat} (hV : S.ValuesAgree fuel) {n₁ n₂ : String} {src : Source ω}
    (hsrc : src.PartFree) (path : List PathSeg) :
    ∀ (groups : List FieldGroup) (acc : List (String × Json)),
      (∀ key nd rest, (key, nd :: rest) ∈ groups →
        FieldAlike c₁ c₂ r₁ r₂ (fun m₁ m₂ => S.Good m₁ m₂ (nd :: rest)) n₁ n₂ nd) →
      SameData (Execution.completeFields c₁ r₁ fuel n₁ src groups path acc)
        (Execution.completeFields c₂ r₂ fuel n₂ src groups path acc)
  | [], acc, _ => by
    simp only [Execution.completeFields]
    exact SameData.of_pure _
  | (key, []) :: rest, acc, hgroups => by
    simp only [Execution.completeFields]
    exact completeFields_sameData hV hsrc path rest acc fun k nd ns h => hgroups k nd ns (by simp [h])
  | (key, nd :: ns) :: rest, acc, hgroups => by
    have hrest := fun acc => completeFields_sameData hV hsrc path rest acc
      fun k nd ns h => hgroups k nd ns (by simp [h])
    obtain ⟨htypename, hdef⟩ := hgroups key nd ns (by simp)
    simp only [Execution.completeFields]
    by_cases hmeta : nd.name = "__typename"
    · obtain rfl := htypename hmeta
      simp only [hmeta, beq_self_eq_true, if_true]
      exact hrest _
    simp only [beq_iff_eq, hmeta, if_false]
    rcases hdef with ⟨h₁, h₂⟩ | ⟨F₁, F₂, h₁, h₂, hname, hargs, htype, hread⟩
    · rw [h₁, h₂]
      exact hrest acc
    rw [h₁, h₂]
    simp only
    rw [htype.isNullable, S.arguments, hargs, hname]
    refine SameData.bind (SameData.guard _ ?_) fun j => hrest _
    -- the arguments, then the resolved value, are the same on both sides
    rcases c₂.argumentValues F₂.args nd.arguments with m | a
    · exact SameData.of_throw_bind _ _ _ _
    simp only [pure_bind]
    rw [resolveField_eq hsrc hread]
    rcases hres : Execution.resolveField c₂ r₂ src n₂ F₂ key a with e | s
    · exact SameData.of_throw_bind _ _ _ _
    have hs : s.PartFree := S.resolveField_partFree hsrc (by rw [resolveField_eq hsrc hread, hres])
    exact hV _ _ _ _ _ _ _ _ htype hs

/-- Completing a value against related types gives the same data, at every
fuel. -/
theorem completeValue_sameData : ∀ fuel, S.ValuesAgree fuel
  | 0 => by
    intro t₁ t₂ nodes p₁ p₂ fieldName path src _ _
    simp only [Execution.completeValue]
    exact SameData.of_throw _ _
  | fuel + 1 => by
    intro t₁ t₂ nodes p₁ p₂ fieldName path src ht hsrc
    have hV := completeValue_sameData fuel
    cases ht with
    | nonNull h =>
      simp only [Execution.completeValue]
      refine SameData.bind (hV _ _ _ _ _ _ _ _ h hsrc) fun j => ?_
      split
      · exact SameData.of_throw_bind _ _ _ _
      · exact SameData.of_pure _
    | list h =>
      cases hsrc with
      | null => simp only [Execution.completeValue]; exact SameData.of_pure _
      | object o => simp only [Execution.completeValue]; exact SameData.of_throw _ _
      | list hitems =>
        simp only [Execution.completeValue]
        exact S.completeItems_sameData hV h p₁ p₂ fieldName path _ 0 [] hitems
      | leaf v =>
        cases v
        case none => simp only [Execution.completeValue]; exact SameData.of_pure _
        case list vs =>
          simp only [Execution.completeValue]
          exact S.completeItems_sameData hV h p₁ p₂ fieldName path _ 0 []
            fun s hs => by
              obtain ⟨v, -, rfl⟩ := List.mem_map.mp hs
              exact .leaf v
        all_goals simp only [Execution.completeValue]; exact SameData.of_throw _ _
    | named hgood =>
      by_cases hnull : src = .null ∨ src = .leaf .none
      · rcases hnull with rfl | rfl <;> simp only [Execution.completeValue] <;> exact SameData.of_pure _
      obtain ⟨hn, hl⟩ := not_or.mp hnull
      rw [Execution.completeValue.eq_10 _ _ _ _ _ _ _ _ _ hn hl,
        Execution.completeValue.eq_10 _ _ _ _ _ _ _ _ _ hn hl]
      rcases S.kind hgood with ⟨⟨d₁, hd₁, ho₁⟩, ⟨d₂, hd₂, ho₂⟩⟩ | ⟨hno, hdef⟩
      · obtain ⟨name₁, desc₁, _ | fs₁ | _ | _⟩ := d₁ <;> simp [NamedType.isObject] at ho₁
        obtain ⟨name₂, desc₂, _ | fs₂ | _ | _⟩ := d₂ <;> simp [NamedType.isObject] at ho₂
        rw [hd₁, hd₂]
        simp only
        have hobj : c₁.schema.ObjectType _ := ⟨_, hd₁, rfl⟩
        rw [← S.groups hgood hobj]
        exact S.completeFields_sameData hV hsrc path _ [] fun key nd rest hmem =>
          S.fields hgood hobj key nd rest hmem
      · rw [← hdef]
        rcases hd : c₁.schema.definition? _ with _ | ⟨name, desc, _ | fs | _ | _⟩
        · exact SameData.of_pure _
        rotate_left
        · exact absurd ⟨_, hd, rfl⟩ hno
        -- a scalar, input or enumeration type: both sides serialize the same leaf
        all_goals
          simp only
          cases hsrc with
          | leaf v =>
            simp only
            rcases serializeLeaf _ v with m | j
            · exact SameData.of_throw _ _
            · exact SameData.of_pure _
          | _ => exact SameData.of_pure _

end Simulation

/-! ## Root fields -/

/-- Two steps of loops: both go on or both stop, with related states. -/
def StepRel {β γ : Type} (R : β → γ → Prop) : ForInStep β → ForInStep γ → Prop
  | .yield b, .yield c => R b c
  | .done b, .done c => R b c
  | _, _ => False

/-- Two loops over one list whose bodies take related states to related
steps end in related states. -/
theorem forIn_rel {α β γ : Type} {l : List α} {f : α → β → Id (ForInStep β)} {g : α → γ → Id (ForInStep γ)}
    (R : β → γ → Prop) {b : β} {c : γ} (h0 : R b c)
    (hstep : ∀ a ∈ l, ∀ b c, R b c → StepRel R (f a b) (g a c)) : R (forIn l b f) (forIn l c g) := by
  induction l generalizing b c with
  | nil => exact h0
  | cons a l ih =>
    simp only [List.forIn_cons]
    have hs := hstep a (by simp) b c h0
    revert hs
    rcases f a b with b' | b' <;> rcases g a c with c' | c' <;> simp only [StepRel] <;> intro hs
    · exact hs
    · exact hs.elim
    · exact hs.elim
    · exact ih hs fun a' ha' => hstep a' (by simp [ha'])

theorem bind_forIn_rel {α β γ δ ε : Type} {l : List α} {f : α → β → Id (ForInStep β)}
    {g : α → γ → Id (ForInStep γ)} {K₁ : β → Id δ} {K₂ : γ → Id ε} (R : β → γ → Prop) (Q : δ → ε → Prop)
    {b : β} {c : γ} (h0 : R b c) (hstep : ∀ a ∈ l, ∀ b c, R b c → StepRel R (f a b) (g a c))
    (hK : ∀ b' c', R b' c' → Q (K₁ b') (K₂ c')) : Q (forIn l b f >>= K₁) (forIn l c g >>= K₂) :=
  hK _ _ (forIn_rel R h0 hstep)

variable {σ : Type} {c₁ c₂ : Context} {r₁ r₂ : Resolvers σ ω}

/-- A root field waiting for its run whose checks and runs are the same on
both sides and whose value completes alike. -/
structure RootAgrees (S : Simulation c₁ c₂ r₁.field r₂.field) (p : Pending σ ω) : Prop where
  prepare : r₁.prepare p.call = r₂.prepare p.call
  partFree : ∀ run st src st', r₁.prepare p.call = .ok run → run st = (.ok src, st') → src.PartFree
  type : TypeRef.Alike (fun m₁ m₂ => S.Good m₁ m₂ p.nodes) p.field.type p.field.type

section Roots

variable (S : Simulation c₁ c₂ r₁.field r₂.field)

include S in
theorem rootCall_eq (rootType key : String) (f : Field) (nodes : List FieldNode) :
    Execution.rootCall c₁ rootType key f nodes = Execution.rootCall c₂ rootType key f nodes := by
  cases nodes with
  | nil => rfl
  | cons nd rest =>
    simp only [Execution.rootCall]
    rw [S.arguments, S.document, S.variableValues]

theorem completeRoot_sameData (rootType : String) {f : Field} {nodes : List FieldNode}
    (htype : TypeRef.Alike (fun m₁ m₂ => S.Good m₁ m₂ nodes) f.type f.type)
    (key : String) {src : Source ω} (hsrc : src.PartFree) (log₁ log₂ : Array RequestError) :
    (Execution.completeRoot c₁ r₁ rootType f nodes key src log₁).1.toOption =
      (Execution.completeRoot c₂ r₂ rootType f nodes key src log₂).1.toOption :=
  SameData.guard _ (S.completeValue_sameData _ _ _ _ _ _ _ _ _ htype hsrc) log₁ log₂

omit S in
theorem failRoot_toOption (f : Field) (e : RequestError) (log₁ log₂ : Array RequestError) :
    (Execution.failRoot f e log₁).1.toOption = (Execution.failRoot f e log₂).1.toOption := by
  unfold Execution.failRoot
  split <;> rfl

theorem runRoot_sameData (rootType : String) {p : Pending σ ω}
    (hp : RootAgrees S p) {run : σ → Outcome (Source ω) × σ} (hrun : r₁.prepare p.call = .ok run)
    (st : σ) (log₁ log₂ : Array RequestError) :
    (Execution.runRoot c₁ r₁ rootType p run st log₁).1.toOption =
        (Execution.runRoot c₂ r₂ rootType p run st log₂).1.toOption ∧
      (Execution.runRoot c₁ r₁ rootType p run st log₁).2.2 = (Execution.runRoot c₂ r₂ rootType p run st log₂).2.2 := by
  unfold Execution.runRoot
  -- name the results of the two sides without computing them
  rcases hst : run st with ⟨e | src, st'⟩
  · have h := failRoot_toOption p.field (RequestError.ofFailure e [PathSeg.key p.key]) log₁ log₂
    simp only
    generalize Execution.failRoot p.field (RequestError.ofFailure e [PathSeg.key p.key]) log₁ = x₁ at h ⊢
    generalize Execution.failRoot p.field (RequestError.ofFailure e [PathSeg.key p.key]) log₂ = x₂ at h ⊢
    obtain ⟨j₁, k₁⟩ := x₁
    obtain ⟨j₂, k₂⟩ := x₂
    exact ⟨h, trivial⟩
  · have h := completeRoot_sameData S rootType hp.type p.key (hp.partFree run st src st' hrun hst)
      log₁ log₂
    simp only
    generalize Execution.completeRoot c₁ r₁ rootType p.field p.nodes p.key src log₁ = x₁ at h ⊢
    generalize Execution.completeRoot c₂ r₂ rootType p.field p.nodes p.key src log₂ = x₂ at h ⊢
    obtain ⟨j₁, k₁⟩ := x₁
    obtain ⟨j₂, k₂⟩ := x₂
    exact ⟨h, trivial⟩

/-- The root fields of a query give the same data and leave the same state
when each selects a field on both sides or on neither, none of them a meta
field, and each call is prepared and completed alike. -/
theorem executeConcurrently_sameData (rootType : String) (groups : List FieldGroup) (state : σ)
    (hgroups : ∀ key nodes, (key, nodes) ∈ groups →
      (nodes.head?.bind fun n => c₁.schema.fieldDef? rootType n.name) =
        (nodes.head?.bind fun n => c₂.schema.fieldDef? rootType n.name) ∧
      ∀ f, (nodes.head?.bind fun n => c₁.schema.fieldDef? rootType n.name) = some f →
        Execution.isMetaField f = false ∧
        ∀ call, Execution.rootCall c₁ rootType key f nodes = .ok call → RootAgrees S ⟨key, f, nodes, call⟩) :
    (Execution.executeConcurrently c₁ r₁ rootType groups state).data =
        (Execution.executeConcurrently c₂ r₂ rootType groups state).data ∧
      (Execution.executeConcurrently c₁ r₁ rootType groups state).state =
        (Execution.executeConcurrently c₂ r₂ rootType groups state).state := by
  simp only [Execution.executeConcurrently]
  -- the arguments of every field: the same steps, pending calls that agree
  refine bind_forIn_rel
    (fun b₁ b₂ => b₁ = b₂ ∧ ∀ p ∈ b₁.2.2.2, RootAgrees S p)
    (fun (e₁ e₂ : Id (Executed σ)) => (Id.run e₁).data = (Id.run e₂).data ∧ (Id.run e₁).state = (Id.run e₂).state)
    ⟨rfl, by simp⟩ ?_ ?_
  · rintro ⟨key, nodes⟩ hmem b₁ b₂ ⟨rfl, hpend⟩
    obtain ⟨hfield, hf⟩ := hgroups key nodes hmem
    rw [← hfield]
    rcases hd : (nodes.head?.bind fun n => c₁.schema.fieldDef? rootType n.name) with _ | f
    · exact ⟨rfl, hpend⟩
    obtain ⟨hmeta, hcall⟩ := hf f hd
    simp only [hmeta, Bool.false_eq_true, if_false]
    rw [← rootCall_eq S]
    rcases hrc : Execution.rootCall c₁ rootType key f nodes with e | call
    · simp only
      split <;> exact ⟨rfl, hpend⟩
    · refine ⟨rfl, fun p hp => ?_⟩
      rcases List.mem_append.mp hp with hp | hp
      · exact hpend p hp
      · rw [List.mem_singleton.mp hp]
        exact hcall call hrc
  · rintro ⟨_ | ex, log, done, pending⟩ b₂ ⟨rfl, hpend⟩
    · simp only at hpend ⊢
      -- every field's checks: the same steps, ready runs that agree
      refine bind_forIn_rel
        (fun b₁ b₂ => b₁ = b₂ ∧ ∀ x ∈ b₁.2.2.2, RootAgrees S x.1 ∧ r₁.prepare x.1.call = .ok x.2)
        (fun (e₁ e₂ : Id (Executed σ)) => (Id.run e₁).data = (Id.run e₂).data ∧ (Id.run e₁).state = (Id.run e₂).state)
        ⟨rfl, by simp⟩ ?_ ?_
      · rintro p hp b₁ b₂ ⟨rfl, hready⟩
        rw [← (hpend p hp).prepare]
        rcases hprep : r₁.prepare p.call with e | run
        · simp only
          split
          · exact ⟨rfl, hready⟩
          · split <;> exact ⟨rfl, hready⟩
        · refine ⟨rfl, fun x hx => ?_⟩
          rcases List.mem_append.mp hx with hx | hx
          · exact hready x hx
          · rw [List.mem_singleton.mp hx]
            exact ⟨hpend p hp, hprep⟩
      · rintro ⟨log', done', fatal, ready⟩ b₂ ⟨rfl, hready⟩
        simp only at hready ⊢
        rcases fatal with _ | e
        · -- the runs: the same states and completed fields, errors aside
          refine bind_forIn_rel
            (fun b₁ b₂ => b₁.2.2 = b₂.2.2 ∧
              b₁.1.map (fun e => (e.data, e.state)) = b₂.1.map (fun e => (e.data, e.state)))
            (fun (e₁ e₂ : Id (Executed σ)) => (Id.run e₁).data = (Id.run e₂).data ∧ (Id.run e₁).state = (Id.run e₂).state)
            ⟨rfl, rfl⟩ ?_ ?_
          · rintro ⟨p, run⟩ hx ⟨ret₁, log₁, done₁, st₁⟩ ⟨ret₂, log₂, done₂, st₂⟩ ⟨hds, -⟩
            obtain ⟨rfl, rfl⟩ := Prod.mk.inj hds
            obtain ⟨hp, hrun⟩ := hready (p, run) hx
            have h := runRoot_sameData S rootType hp hrun st₁ log₁ log₂
            simp only
            generalize Execution.runRoot c₁ r₁ rootType p run st₁ log₁ = y₁ at h ⊢
            generalize Execution.runRoot c₂ r₂ rootType p run st₁ log₂ = y₂ at h ⊢
            obtain ⟨j₁ | j₁, k₁, t₁⟩ := y₁ <;> obtain ⟨j₂ | j₂, k₂, t₂⟩ := y₂ <;>
              simp only [Except.toOption, reduceCtorEq, false_and, Option.some.injEq] at h
            · obtain ⟨-, rfl⟩ := h
              exact ⟨rfl, rfl⟩
            · obtain ⟨rfl, rfl⟩ := h
              exact ⟨rfl, rfl⟩
          · rintro ⟨_ | ex₁, log₁, done₁, st₁⟩ ⟨_ | ex₂, log₂, done₂, st₂⟩ ⟨hds, hret⟩ <;>
              simp at hret ⊢
            · obtain ⟨rfl, rfl⟩ := Prod.mk.inj hds
              exact ⟨rfl, rfl⟩
            · exact hret
        · exact ⟨rfl, rfl⟩
    · exact ⟨rfl, rfl⟩

/-- A query or subscription gives the same data and leaves the same state
when its root fields, collected alike on both sides, satisfy the conditions
of `executeConcurrently_sameData`. -/
theorem executeOperation_sameData (hquery : c₁.schema.query = c₂.schema.query) (op : Operation)
    (hkind : op.kind ≠ .mutation) (state : σ)
    (hgroups : ∀ key nodes, (key, nodes) ∈ (c₁.collect c₁.schema.query Context.collectFuel op.selections ([], [])).1 →
      (nodes.head?.bind fun n => c₁.schema.fieldDef? c₁.schema.query n.name) =
        (nodes.head?.bind fun n => c₂.schema.fieldDef? c₁.schema.query n.name) ∧
      ∀ f, (nodes.head?.bind fun n => c₁.schema.fieldDef? c₁.schema.query n.name) = some f →
        Execution.isMetaField f = false ∧
        ∀ call, Execution.rootCall c₁ c₁.schema.query key f nodes = .ok call →
          RootAgrees S ⟨key, f, nodes, call⟩) :
    (executeOperation c₁ r₁ op state).data = (executeOperation c₂ r₂ op state).data ∧
      (executeOperation c₁ r₁ op state).state = (executeOperation c₂ r₂ op state).state := by
  have hcollect : c₁.collect c₁.schema.query Context.collectFuel op.selections ([], []) =
      c₂.collect c₁.schema.query Context.collectFuel op.selections ([], []) :=
    collect_congr S.document (Context.excludes_congr S.inputs S.variableValues) _ _ _
      fun x _ => c₁.document.conditionAlike_self _ x
  unfold executeOperation
  rcases hk : op.kind with _ | _ | _
  · simp only
    rw [← hquery, ← hcollect]
    exact executeConcurrently_sameData S _ _ state hgroups
  · exact absurd hk hkind
  · simp only
    rw [← hquery, ← hcollect]
    exact executeConcurrently_sameData S _ _ state hgroups

end Roots

end TableGraph.GraphQL
