import Mathlib
import TableGraph.Failure

/-!
# Successful outcomes

Most functions of the library return an `Outcome`, and most proofs about
them start from "this call succeeded with that value" and ask what the
steps before it returned. This module says that once:

* `Outcome.bind_eq_ok`, `Outcome.map_eq_ok` — a bound or mapped computation
  succeeds exactly when its first step does and the rest succeeds on that
  step's value;
* `Outcome.mapM_sim`, `Outcome.foldlM_sim` and their forms for a function,
  `Outcome.mapM_ok_map`, `Outcome.foldlM_ok_map` — two walks over one list, run
  with functions that agree item by item (the second one's answer related to
  the first one's by `R`), agree on the whole list. This is how a compiler
  and its meaning, or two readings of one input, are compared.
* `Outcome.mapM_eq_ok_iff`, `Outcome.exists_step_of_foldlM`,
  `Outcome.foldlM_preserves` — a walk succeeds exactly when it pairs every
  item with the value it gives, every step of a fold that succeeds
  succeeded, and what every step keeps, a fold that succeeds keeps.
* `exists_of_forall₂_left`, `forall₂_compose`, `forall₂_imp_mem` — lists
  related item by item, as walks give them: partners of members,
  composition through a middle list, and weakening on members.
* `Outcome.Agree` — two outcomes that both fail, whatever their failures, or
  both succeed with related values; `Outcome.mapM_agree` and
  `Outcome.mapM_perm` carry it over walks of related or permuted lists
  (`Outcome.mapM_agree_perm` both at once), and
  `Outcome.foldlM_eq_flatten` turns a fold that only appends into such a walk.
-/

namespace TableGraph.Outcome

variable {ε α β γ : Type}

@[simp] theorem bind_eq_ok {x : Except ε α} {f : α → Except ε β} {b : β} :
    x >>= f = .ok b ↔ ∃ a, x = .ok a ∧ f a = .ok b := by
  cases x <;> simp [bind, Except.bind]

@[simp] theorem map_eq_ok {x : Except ε α} {f : α → β} {b : β} :
    f <$> x = .ok b ↔ ∃ a, x = .ok a ∧ f a = b := by
  cases x <;> simp [Functor.map, Except.map]

@[simp] theorem pure_eq_ok {a b : α} : (pure a : Except ε α) = .ok b ↔ a = b := by
  simp [pure, Except.pure]

@[simp] theorem error_ne_ok {e : ε} {b : α} : (Except.error e : Except ε α) ≠ .ok b := by
  simp

theorem map_eq_error {x : Except ε α} {g : α → β} {e : ε} (h : g <$> x = .error e) : x = .error e := by
  cases x <;> simp_all [Functor.map, Except.map]

/-- Two `mapM` walks that agree item by item agree on the list: each item
the first maps to `y` the second maps to something related to `y`. -/
theorem mapM_sim {xs : List α} {f : α → Except ε β} {g : α → Except ε γ} (R : β → γ → Prop)
    (step : ∀ x ∈ xs, ∀ y, f x = .ok y → ∃ z, g x = .ok z ∧ R y z) {ys : List β}
    (h : xs.mapM f = .ok ys) : ∃ zs, xs.mapM g = .ok zs ∧ List.Forall₂ R ys zs := by
  induction xs generalizing ys with
  | nil =>
      simp only [List.mapM_nil, pure_eq_ok] at h
      subst h
      exact ⟨[], rfl, .nil⟩
  | cons x xs ih =>
      simp only [List.mapM_cons, bind_eq_ok, pure_eq_ok] at h
      obtain ⟨y, hy, ys', hys', rfl⟩ := h
      obtain ⟨z, hz, hyz⟩ := step x (by simp) y hy
      obtain ⟨zs, hzs, hrest⟩ := ih (fun x' hx' => step x' (by simp [hx'])) hys'
      exact ⟨z :: zs, by simp [List.mapM_cons, hz, hzs], .cons hyz hrest⟩

/-- A `mapM` walk whose second function gives, item by item, the image under
`φ` of what the first gives, gives the image of the whole list. -/
theorem mapM_ok_map {xs : List α} {f : α → Except ε β} {g : α → Except ε γ} (φ : β → γ)
    (step : ∀ x ∈ xs, ∀ y, f x = .ok y → g x = .ok (φ y)) {ys : List β}
    (h : xs.mapM f = .ok ys) : xs.mapM g = .ok (ys.map φ) := by
  obtain ⟨zs, hzs, hrel⟩ :=
    mapM_sim (fun y z => φ y = z) (fun x hx y hy => ⟨φ y, step x hx y hy, rfl⟩) h
  have hmap : ys.map φ = zs := by
    rw [← List.forall₂_eq_eq_eq]
    exact List.forall₂_map_left_iff.mpr hrel
  rw [hzs, hmap]

/-- Two `foldlM` walks that keep related accumulators item by item end with
related accumulators. -/
theorem foldlM_sim {xs : List α} {f : β → α → Except ε β} {g : γ → α → Except ε γ}
    (R : β → γ → Prop)
    (step : ∀ x ∈ xs, ∀ b c b', R b c → f b x = .ok b' → ∃ c', g c x = .ok c' ∧ R b' c')
    {b : β} {c : γ} (hbc : R b c) {b' : β} (h : xs.foldlM f b = .ok b') :
    ∃ c', xs.foldlM g c = .ok c' ∧ R b' c' := by
  induction xs generalizing b c with
  | nil =>
      simp only [List.foldlM_nil, pure_eq_ok] at h
      subst h
      exact ⟨c, rfl, hbc⟩
  | cons x xs ih =>
      simp only [List.foldlM_cons, bind_eq_ok] at h
      obtain ⟨b₁, hb₁, hrest⟩ := h
      obtain ⟨c₁, hc₁, hR⟩ := step x (by simp) b c b₁ hbc hb₁
      obtain ⟨c', hc', hR'⟩ := ih (fun x' hx' => step x' (by simp [hx'])) hR hrest
      exact ⟨c', by simp [List.foldlM_cons, hc₁, hc'], hR'⟩

/-- A `foldlM` walk whose second function keeps, step by step, the image
under `φ` of the first one's accumulator ends with the image of its result. -/
theorem foldlM_ok_map {xs : List α} {f : β → α → Except ε β} {g : γ → α → Except ε γ}
    (φ : β → γ) (step : ∀ x ∈ xs, ∀ b b', f b x = .ok b' → g (φ b) x = .ok (φ b'))
    {b b' : β} (h : xs.foldlM f b = .ok b') : xs.foldlM g (φ b) = .ok (φ b') := by
  obtain ⟨c', hc', rfl⟩ := foldlM_sim (fun b c => c = φ b)
    (fun x hx b _ b' hbc hb => ⟨φ b', hbc ▸ step x hx b b' hb, rfl⟩) rfl h
  exact hc'

/-- A `mapM` walk that succeeds maps each item to the value in its place. -/
theorem forall₂_of_mapM {xs : List α} {f : α → Except ε β} {ys : List β}
    (h : xs.mapM f = .ok ys) : List.Forall₂ (fun x y => f x = .ok y) xs ys := by
  induction xs generalizing ys with
  | nil =>
      simp only [List.mapM_nil, pure_eq_ok] at h
      subst h
      exact .nil
  | cons x xs ih =>
      simp only [List.mapM_cons, bind_eq_ok, pure_eq_ok] at h
      obtain ⟨y, hy, ys', hys', rfl⟩ := h
      exact .cons hy (ih hys')

/-- A `mapM` walk succeeds exactly with the values its items map to. -/
theorem mapM_eq_ok_iff {xs : List α} {f : α → Except ε β} {ys : List β} :
    xs.mapM f = .ok ys ↔ List.Forall₂ (fun x y => f x = .ok y) xs ys := by
  refine ⟨forall₂_of_mapM, fun h => ?_⟩
  induction h with
  | nil => rfl
  | cons hxy _ ih => simp [List.mapM_cons, hxy, ih]

/-- Every item of a `mapM` walk that succeeds maps to a value. -/
theorem exists_ok_of_mapM {xs : List α} {f : α → Except ε β} {ys : List β}
    (h : xs.mapM f = .ok ys) {x : α} (hx : x ∈ xs) : ∃ y, f x = .ok y := by
  induction xs generalizing ys with
  | nil => simp at hx
  | cons x' xs ih =>
      simp only [List.mapM_cons, bind_eq_ok, pure_eq_ok] at h
      obtain ⟨y', hy', ys', hys', rfl⟩ := h
      rcases List.mem_cons.mp hx with rfl | hmem
      · exact ⟨y', hy'⟩
      · exact ih hys' hmem

/-- Every value of a `mapM` walk that succeeds is the image of an item of
the list. -/
theorem exists_of_mem_mapM {xs : List α} {f : α → Except ε β} {ys : List β}
    (h : xs.mapM f = .ok ys) {y : β} (hy : y ∈ ys) : ∃ x ∈ xs, f x = .ok y := by
  induction xs generalizing ys with
  | nil =>
      simp only [List.mapM_nil, pure_eq_ok] at h
      subst h
      simp at hy
  | cons x xs ih =>
      simp only [List.mapM_cons, bind_eq_ok, pure_eq_ok] at h
      obtain ⟨y', hy', ys', hys', rfl⟩ := h
      rcases List.mem_cons.mp hy with rfl | hmem
      · exact ⟨x, by simp, hy'⟩
      · obtain ⟨x', hx', hfx'⟩ := ih hys' hmem
        exact ⟨x', by simp [hx'], hfx'⟩

/-- Every item of a `foldlM` walk that succeeds was taken by a step that
succeeded. -/
theorem exists_step_of_foldlM {xs : List α} {f : β → α → Except ε β} {b b' : β}
    (h : xs.foldlM f b = .ok b') : ∀ x ∈ xs, ∃ a a', f a x = .ok a' := by
  induction xs generalizing b with
  | nil => simp
  | cons x xs ih =>
      simp only [List.foldlM_cons, bind_eq_ok] at h
      obtain ⟨a', ha', hrest⟩ := h
      intro y hy
      rcases List.mem_cons.mp hy with rfl | hmem
      · exact ⟨b, a', ha'⟩
      · exact ih hrest y hmem

/-- What every successful step keeps, a successful fold keeps. -/
theorem foldlM_preserves (P : β → Prop) {f : β → α → Except ε β} {xs : List α}
    (hstep : ∀ x ∈ xs, ∀ b b', P b → f b x = .ok b' → P b') :
    ∀ {b b' : β}, P b → xs.foldlM f b = .ok b' → P b' := by
  induction xs with
  | nil =>
      intro b b' hb h
      simp only [List.foldlM_nil, pure_eq_ok] at h
      exact h ▸ hb
  | cons x xs ih =>
      intro b b' hb h
      simp only [List.foldlM_cons, bind_eq_ok] at h
      obtain ⟨c, hc, hrest⟩ := h
      exact ih (fun y hy => hstep y (List.mem_cons_of_mem x hy)) (hstep x List.mem_cons_self b c hb hc) hrest

/-- Keeping the items a test accepts before a walk keeps, after it, the
values a matching test accepts. -/
theorem mapM_filter {xs : List α} {f : α → Except ε β} {ys : List β} (h : xs.mapM f = .ok ys)
    {p : α → Bool} {q : β → Bool} (hpq : ∀ x ∈ xs, ∀ y, f x = .ok y → q y = p x) :
    (xs.filter p).mapM f = .ok (ys.filter q) := by
  induction xs generalizing ys with
  | nil =>
    simp only [List.mapM_nil, pure_eq_ok] at h
    subst h
    rfl
  | cons x xs ih =>
    simp only [List.mapM_cons, bind_eq_ok, pure_eq_ok] at h
    obtain ⟨y, hy, ys', hys', rfl⟩ := h
    have hrest := ih hys' fun x' hx' => hpq x' (by simp [hx'])
    rw [List.filter_cons, List.filter_cons, hpq x (by simp) y hy]
    split
    · simp [List.mapM_cons, hy, hrest]
    · exact hrest

/-- A walk fails when one of its items does. -/
theorem mapM_error_of_mem {xs : List α} {f : α → Except ε β} {x : α} (hx : x ∈ xs) {e : ε}
    (h : f x = .error e) : ∃ e', xs.mapM f = .error e' := by
  cases hw : xs.mapM f with
  | error e' => exact ⟨e', rfl⟩
  | ok ys =>
    obtain ⟨y, hy⟩ := exists_ok_of_mapM hw hx
    rw [h] at hy
    cases hy

/-- A walk that fails fails with the failure of one of its items. -/
theorem mapM_eq_error {xs : List α} {f : α → Except ε β} {e : ε} (h : xs.mapM f = .error e) :
    ∃ x ∈ xs, f x = .error e := by
  induction xs with
  | nil => cases h
  | cons x xs ih =>
    cases hx : f x with
    | error e' =>
      simp only [List.mapM_cons, hx] at h
      cases h
      exact ⟨x, List.mem_cons_self, hx⟩
    | ok y =>
      cases hxs : xs.mapM f with
      | error e' =>
        simp only [List.mapM_cons, hx, hxs] at h
        cases h
        obtain ⟨x', hx', hfx'⟩ := ih hxs
        exact ⟨x', List.mem_cons_of_mem _ hx', hfx'⟩
      | ok ys => simp [List.mapM_cons, hx, hxs, bind, Except.bind, pure, Except.pure] at h

/-! ### Outcomes that agree -/

/-- Two outcomes agree under a relation: both fail, whatever their failures,
or both succeed with related values. -/
def Agree (R : α → β → Prop) : Except ε α → Except ε β → Prop
  | .ok a, .ok b => R a b
  | .error _, .error _ => True
  | _, _ => False

section Agree

variable {δ : Type} {R : α → β → Prop} {S : γ → δ → Prop}

@[simp] theorem agree_ok_ok {a : α} {b : β} :
    Agree (ε := ε) R (.ok a) (.ok b) ↔ R a b := Iff.rfl

@[simp] theorem agree_error_error {e e' : ε} : Agree R (.error e : Except ε α) (.error e') :=
  trivial

theorem agree_pure {a : α} {b : β} (h : R a b) : Agree (ε := ε) R (pure a) (pure b) := h

theorem agree_refl {R : α → α → Prop} (hR : ∀ a, R a a) (x : Except ε α) : Agree R x x := by
  cases x
  · trivial
  · exact hR _

theorem Agree.imp {R' : α → β → Prop} {x : Except ε α} {y : Except ε β} (h : Agree R x y)
    (hR : ∀ a b, R a b → R' a b) : Agree R' x y := by
  cases x <;> cases y
  case error.error => trivial
  case ok.ok a b => exact hR a b h
  all_goals exact h.elim

theorem Agree.bind {x : Except ε α} {y : Except ε β} {f : α → Except ε γ} {g : β → Except ε δ}
    (h : Agree R x y) (hfg : ∀ a b, R a b → Agree S (f a) (g b)) : Agree S (x >>= f) (y >>= g) := by
  cases x <;> cases y
  case error.error => trivial
  case ok.ok a b => exact hfg a b h
  all_goals exact h.elim

theorem Agree.map {x : Except ε α} {y : Except ε β} {f : α → γ} {g : β → δ} (h : Agree R x y)
    (hfg : ∀ a b, R a b → S (f a) (g b)) : Agree S (f <$> x) (g <$> y) := by
  cases x <;> cases y
  case error.error => trivial
  case ok.ok a b => exact hfg a b h
  all_goals exact h.elim

/-- Agreement passes through a middle outcome: its success or failure decides
both sides. -/
theorem Agree.trans {T : α → δ → Prop} {x : Except ε α} {y : Except ε β} {z : Except ε δ}
    {S : β → δ → Prop} (hxy : Agree R x y) (hyz : Agree S y z)
    (hT : ∀ a b d, R a b → S b d → T a d) : Agree T x z := by
  cases x <;> cases y <;> cases z
  case error.error.error => trivial
  case ok.ok.ok a b d => exact hT a b d hxy hyz
  all_goals first | exact hxy.elim | exact hyz.elim

/-- What is known of every success of the second outcome holds alongside the
agreement. -/
theorem Agree.of_ok_right {x : Except ε α} {y : Except ε β} {P : β → Prop} (h : Agree R x y)
    (hy : ∀ b, y = .ok b → P b) : Agree (fun a b => R a b ∧ P b) x y := by
  cases x <;> cases y
  case error.error => trivial
  case ok.ok a b => exact ⟨h, hy b rfl⟩
  all_goals exact h.elim

/-- Walks of two lists whose items agree pairwise agree, item by item. -/
theorem mapM_agree {f : α → Except ε γ} {g : β → Except ε δ} {xs : List α} {ys : List β}
    (h : List.Forall₂ (fun x y => Agree S (f x) (g y)) xs ys) :
    Agree (List.Forall₂ S) (xs.mapM f) (ys.mapM g) := by
  induction h with
  | nil => exact agree_pure .nil
  | cons hxy _ ih =>
    simp only [List.mapM_cons]
    exact hxy.bind fun a b hab => ih.bind fun as bs habs => agree_pure (.cons hab habs)

/-- A walk of a permuted list fails when the walk of the list does, and
otherwise gives the permuted results. -/
theorem mapM_perm {f : α → Except ε β} {xs ys : List α} (h : xs.Perm ys) :
    Agree List.Perm (xs.mapM f) (ys.mapM f) := by
  induction h with
  | nil => exact agree_pure .nil
  | cons x _ ih =>
    simp only [List.mapM_cons]
    exact (agree_refl (R := Eq) (fun _ => rfl) (f x)).bind fun a b hab =>
      ih.bind fun as bs habs => agree_pure (hab ▸ habs.cons a)
  | swap x y l =>
    -- the two items are walked in the other order: both fail, or both give
    -- the swapped results
    simp only [List.mapM_cons]
    cases hx : f x <;> cases hy : f y <;> cases hl : l.mapM f <;>
      simp [Agree, bind, Except.bind, pure, Except.pure, List.Perm.swap]
  | trans _ _ ih₁ ih₂ => exact Agree.trans ih₁ ih₂ fun _ _ _ h₁ h₂ => h₁.trans h₂

/-- Two lists related item by item and then up to order. -/
def RelPerm (R : α → β → Prop) (as : List α) (bs : List β) : Prop :=
  ∃ bs₁, List.Forall₂ R as bs₁ ∧ bs₁.Perm bs

/-- Walking a list and a reordering of its related copy: both fail, or the
results are related item by item and then up to order. -/
theorem mapM_agree_perm {R : β → β → Prop} {f : α → Except ε β} {xs ys zs : List α}
    (h : List.Forall₂ (fun x y => Agree R (f x) (f y)) xs ys) (hp : ys.Perm zs) :
    Agree (RelPerm R) (xs.mapM f) (zs.mapM f) :=
  Agree.trans (mapM_agree h) (mapM_perm hp) fun _ bs₁ _ h₁ h₂ => ⟨bs₁, h₁, h₂⟩

/-- A fold whose step only appends what the item gives on its own is the
flattening of a walk. -/
theorem foldlM_eq_flatten {step : List β → α → Except ε (List β)}
    (hstep : ∀ acc x, step acc x = (acc ++ ·) <$> step [] x) (xs : List α) (acc : List β) :
    xs.foldlM step acc = (fun yss => acc ++ yss.flatten) <$> xs.mapM (step []) := by
  induction xs generalizing acc with
  | nil => simp [pure, Except.pure, Functor.map, Except.map]
  | cons x xs ih =>
    simp only [List.foldlM_cons, List.mapM_cons, hstep acc x, ih]
    cases step [] x <;> cases xs.mapM (step []) <;>
      simp [bind, Except.bind, pure, Except.pure, Functor.map, Except.map]

end Agree

end TableGraph.Outcome

namespace TableGraph

/-! ## Lists related item by item -/

/-- An item of the left list of a relation item by item has a partner on the
right. -/
theorem exists_of_forall₂_left {α β : Type} {R : α → β → Prop} {xs : List α} {ys : List β}
    (h : List.Forall₂ R xs ys) {x : α} (hx : x ∈ xs) : ∃ y ∈ ys, R x y := by
  induction h with
  | nil => simp at hx
  | cons hab _ ih =>
    rcases List.mem_cons.mp hx with rfl | hx
    · exact ⟨_, List.mem_cons_self, hab⟩
    · obtain ⟨y, hy, hxy⟩ := ih hx
      exact ⟨y, List.mem_cons_of_mem _ hy, hxy⟩

/-- An item of the right list of a relation item by item has a partner on
the left. -/
theorem exists_of_forall₂_right {α β : Type} {R : α → β → Prop} {xs : List α} {ys : List β}
    (h : List.Forall₂ R xs ys) {y : β} (hy : y ∈ ys) : ∃ x ∈ xs, R x y := by
  induction h with
  | nil => simp at hy
  | cons hab _ ih =>
    rcases List.mem_cons.mp hy with rfl | hy
    · exact ⟨_, List.mem_cons_self, hab⟩
    · obtain ⟨x, hx, hxy⟩ := ih hy
      exact ⟨x, List.mem_cons_of_mem _ hx, hxy⟩

/-- Two lists related item by item to a middle list are related item by item
through it. -/
theorem forall₂_compose {α β γ : Type} {R : α → β → Prop} {S : β → γ → Prop} {as : List α}
    {bs : List β} {cs : List γ} (h₁ : List.Forall₂ R as bs) (h₂ : List.Forall₂ S bs cs) :
    List.Forall₂ (fun a c => ∃ b, R a b ∧ S b c) as cs := by
  induction h₁ generalizing cs with
  | nil => cases h₂; exact .nil
  | cons hab _ ih =>
    cases h₂ with
    | cons hbc hrest => exact .cons ⟨_, hab, hbc⟩ (ih hrest)

/-- A relation item by item holds under any relation that follows from it for
the members of the left list. -/
theorem forall₂_imp_mem {α β : Type} {R S : α → β → Prop} {xs : List α} {ys : List β}
    (h : List.Forall₂ R xs ys) (hRS : ∀ x ∈ xs, ∀ y, R x y → S x y) : List.Forall₂ S xs ys := by
  induction h with
  | nil => exact .nil
  | cons hab _ ih =>
    exact .cons (hRS _ List.mem_cons_self _ hab) (ih fun x hx => hRS x (List.mem_cons_of_mem _ hx))

end TableGraph
