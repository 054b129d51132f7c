import TableGraph.Api.Build
import TableGraph.Proofs.Outcome

/-!
# The life of a registry

A registry changes by registrations, by setting its geometry mode, by
freezing and by compiling models with it (`Registry.perform`). This module
says what a compile leaves in the registry, that the registry's two parts
stay in step, and what a run of operations keeps once the registry is
frozen.

A compile sets the geometry mode and freezes the registry before it loads
the models. Only a compile stopped at the backend, or at a geometry mode the
frozen registry refuses, leaves the registry as it was; a compile that fails
later (loading the catalog, an empty catalog, the depth limit, a column type,
two types of one name) leaves it frozen with the compile's mode.

The type registry and the value remapper each hold a geometry mode and a
frozen flag, and each reads or checks its own. They agree (`Registry.Agrees`)
in the fresh registry, and every operation keeps them agreeing, since the
registry sets both modes together and freezes both parts together
(`Agrees.perform`, one lemma per operation beneath it). So in every registry
a caller reaches the two parts are in one mode and frozen together.

Once frozen, a registry stays frozen with its registrations: every
registration is refused, every geometry mode unequal to the type
registry's is refused (both leaving it as it was), and a compile that
succeeds is made with the registry exactly as it is. Modes compare as values
(`Value.equals`), so a frozen registry may take a mode equal to its own but
of another shape (the number `1.0` for `1`). Such a mode is still the same
text, or no text, as the one it replaces (`KeepsFrozen.modeText`), which is
all a compile looks at: its mode is a text.

## Main results

* `compile_leaves_registry` — the registry a compile leaves, whatever its
  outcome, and the refusals that leave it as it was.
* `build_of_no_models_freezes` — a compile that fails on its models leaves a
  fresh registry frozen.
* `Registry.performAll_agrees` — the two parts agree after every run from a
  fresh registry.
* `KeepsFrozen.performAll` — what a run of operations from a frozen registry
  keeps.
* `frozen_registry_stays` — in every reachable registry the parts agree; after
  any run from a reachable frozen registry, every registration and every
  other mode is refused, and a compile that succeeds is made with the
  registry as it stands, both parts in the mode it was frozen with.
-/

namespace TableGraph

namespace Value

/-- A text equals exactly the same text. -/
theorem equals_str_left (s : String) (b : Value) :
    (Value.str s).equals b = .ok (some s == b.asText?) := by
  cases b <;> simp [equals, equalsScalar, exactDecimal?, asText?]

/-- A text equals exactly the same text, compared from the other side. -/
theorem equals_str_right (a : Value) (s : String) :
    a.equals (.str s) = .ok (a.asText? == some s) := by
  cases a <;> simp [equals, equalsScalar, exactDecimal?, asText?]

/-- Equal values are both the same text, or both no text. -/
theorem asText?_eq_of_equals {a b : Value} (h : a.equals b = .ok true) : a.asText? = b.asText? := by
  cases ha : a.asText? with
  | some s =>
    obtain rfl : a = .str s := by cases a <;> simp_all [asText?]
    rw [equals_str_left] at h
    simpa using h
  | none =>
    cases hb : b.asText? with
    | none => rfl
    | some t =>
      obtain rfl : b = .str t := by cases b <;> simp_all [asText?]
      rw [equals_str_right, ha] at h
      simp at h

theorem eq_str_of_asText? {v : Value} {s : String} (h : v.asText? = some s) : v = .str s := by
  cases v <;> simp_all [asText?]

end Value

namespace Registry

variable {r₀ r : Registry}

/-- A text mode is taken unless the registry is frozen with another one. -/
theorem configure_str (r : Registry) (s : String) :
    r.configure (.str s) =
      if r.frozen = true ∧ r.typeRegistry.geometryMode.asText? ≠ some s then
        .error (modeRefused r.typeRegistry.geometryMode (.str s))
      else .ok (r.setMode (.str s)) := by
  unfold configure
  cases hf : r.frozen
  · simp
  · rw [if_pos rfl, Value.equals_str_left]
    by_cases hs : r.typeRegistry.geometryMode.asText? = some s
    · rw [hs, beq_self_eq_true]
      simp only [ne_eq, not_true_eq_false, and_false, if_false]
    · have hne : (some s == r.typeRegistry.geometryMode.asText?) = false :=
        beq_eq_false_iff_ne.mpr fun h => hs h.symm
      rw [hne]
      simp only [ne_eq, hs, not_false_eq_true, and_self, if_true]

/-- A frozen registry takes only a mode that is the text it has, or no text
when its own is none. -/
theorem configure_frozen_ok (hr : r.frozen = true) {mode : Value} {r' : Registry}
    (h : r.configure mode = .ok r') :
    r' = r.setMode mode ∧ mode.asText? = r.typeRegistry.geometryMode.asText? := by
  unfold configure at h
  rw [if_pos hr] at h
  split at h
  · next heq => exact ⟨(Except.ok.inj h).symm, Value.asText?_eq_of_equals heq⟩
  · cases h
  · cases h

end Registry

namespace CompiledSchema

/-- The registry a compile leaves: as it was when the backend or the
geometry mode is refused, else configured with the mode and frozen. -/
theorem compile_registry (reg : Registry) (backend : Outcome Backend) (src : ModelSource)
    (settings : BuildSettings) :
    (compile reg backend src settings).1 =
      match backend, reg.configure (.str settings.geometryMode.name) with
      | .ok _, .ok configured => configured.freeze
      | _, _ => reg := by
  unfold compile
  rcases backend with e | b
  · rfl
  · rcases reg.configure (.str settings.geometryMode.name) with e | configured <;> rfl

/-- A compile that succeeds is made with the registry it leaves. -/
theorem compile_ok_registry {reg : Registry} {backend : Outcome Backend} {src : ModelSource}
    {settings : BuildSettings} {s : CompiledSchema} (h : (compile reg backend src settings).2 = .ok s) :
    s.registry = (compile reg backend src settings).1 := by
  unfold compile at h ⊢
  rcases backend with e | b
  · cases h
  rcases hc : reg.configure (.str settings.geometryMode.name) with e | configured <;> rw [hc] at h
  · cases h
  -- the last step builds the schema with the frozen registry
  obtain ⟨catalog, -, h⟩ := Outcome.bind_eq_ok.mp h
  split at h
  · cases h
  · simp only [Outcome.bind_eq_ok] at h
    obtain ⟨_, _, _, _, api, _, h⟩ := h
    split at h
    · cases h
    · obtain ⟨_, _, rfl⟩ := h
      rfl

/-- A compile that succeeds got past the backend and the geometry mode. -/
theorem compile_ok_configure {reg : Registry} {backend : Outcome Backend} {src : ModelSource}
    {settings : BuildSettings} {s : CompiledSchema} (h : (compile reg backend src settings).2 = .ok s) :
    ∃ configured, reg.configure (.str settings.geometryMode.name) = .ok configured := by
  unfold compile at h
  rcases backend with e | b
  · cases h
  rcases hc : reg.configure (.str settings.geometryMode.name) with e | configured <;> rw [hc] at h
  · cases h
  · exact ⟨configured, rfl⟩

/-- What a compile leaves in the registry, whatever its outcome: the
registry as it was when the backend is refused (with the backend's
failure) or when the registry is frozen with another geometry mode (with
`RegistryFrozenError`), and otherwise both parts of the registry configured
with the compile's mode and frozen, their registrations untouched, also when
loading the models or generating the API fails afterwards. -/
theorem compile_leaves_registry (reg : Registry) (backend : Outcome Backend) (src : ModelSource)
    (settings : BuildSettings) :
    let name := settings.geometryMode.name
    (compile reg backend src settings).1 =
        (if backend.isOk = true ∧ (reg.frozen = true → reg.typeRegistry.geometryMode.asText? = some name)
        then { typeRegistry := { reg.typeRegistry with geometryMode := .str name, frozen := true }
               remapper := { reg.remapper with geometryMode := .str name, frozen := true } }
        else reg) ∧
      (∀ e, backend = .error e → (compile reg backend src settings).2 = .error e) ∧
      (backend.isOk = true → reg.frozen = true → reg.typeRegistry.geometryMode.asText? ≠ some name →
        (compile reg backend src settings).2 =
          .error (Registry.modeRefused reg.typeRegistry.geometryMode (.str name))) := by
  intro name
  refine ⟨?_, fun e he => by rw [he]; rfl, fun hb hf hne => ?_⟩
  · rw [compile_registry, Registry.configure_str]
    rcases backend with e | b
    · simp [Except.isOk, Except.toBool]
    · by_cases hc : reg.frozen = true ∧ reg.typeRegistry.geometryMode.asText? ≠ some name
      · have hnot : ¬ (reg.frozen = true → reg.typeRegistry.geometryMode.asText? = some name) :=
          fun himp => hc.2 (himp hc.1)
        simp only [name] at hc hnot ⊢
        simp [hc]
      · have himp : reg.frozen = true → reg.typeRegistry.geometryMode.asText? = some name := by
          intro hf
          by_contra hne
          exact hc ⟨hf, hne⟩
        simp only [name] at hc himp ⊢
        simp [hc, Except.isOk, Except.toBool, Registry.freeze, Registry.setMode]
  · rcases backend with e | b
    · simp [Except.isOk, Except.toBool] at hb
    · unfold compile
      rw [Registry.configure_str, if_pos ⟨hf, hne⟩]

/-- A compile on models that are no models fails after freezing: a fresh
registry comes out of it frozen, although the compile failed. -/
theorem build_of_no_models_freezes :
    compile {} (.ok .sqlite) (.other (.int 5)) {} =
      ({ typeRegistry := { frozen := true }, remapper := { frozen := true } },
        .error (.schemaBuild "Cannot load tables from 5")) := by
  rfl

end CompiledSchema

namespace Registry

variable {r₀ r : Registry}

/-! ### The two parts stay in step -/

/-- The two parts of a registry agree: the value remapper is in the type
registry's geometry mode, and frozen exactly when the type registry is. -/
structure Agrees (r : Registry) : Prop where
  mode : r.remapper.geometryMode = r.typeRegistry.geometryMode
  frozen : r.remapper.frozen = r.typeRegistry.frozen

theorem Agrees.fresh : ({} : Registry).Agrees := ⟨rfl, rfl⟩

theorem Agrees.setMode (h : r.Agrees) (mode : Value) : (r.setMode mode).Agrees := ⟨rfl, h.frozen⟩

theorem Agrees.freeze (h : r.Agrees) : r.freeze.Agrees := ⟨h.mode, rfl⟩

/-- The registry after a change that may be refused: the changed one, or
the one it was. -/
theorem Agrees.settle (h : r.Agrees) {o : Outcome Registry} (ho : ∀ r', o = .ok r' → r'.Agrees) :
    (r.settle o).1.Agrees := by
  cases o with
  | ok r' => exact ho r' rfl
  | error e => exact h

theorem Agrees.registerType (h : r.Agrees) {key : String} {t : Resolved} {r' : Registry}
    (hr : r.registerType key t = .ok r') : r'.Agrees := by
  unfold Registry.registerType at hr
  split at hr
  · cases hr
  · cases hr
    exact ⟨h.mode, h.frozen⟩

theorem Agrees.registerToWire (h : r.Agrees) {key : String} {c : Conversion} {r' : Registry}
    (hr : r.registerToWire key c = .ok r') : r'.Agrees := by
  unfold Registry.registerToWire at hr
  split at hr
  · cases hr
  · cases hr
    exact ⟨h.mode, h.frozen⟩

theorem Agrees.registerFromWire (h : r.Agrees) {key : String} {c : Conversion} {r' : Registry}
    (hr : r.registerFromWire key c = .ok r') : r'.Agrees := by
  unfold Registry.registerFromWire at hr
  split at hr
  · cases hr
  · cases hr
    exact ⟨h.mode, h.frozen⟩

/-- A mode, taken or refused, is set on both parts or on neither. -/
theorem Agrees.configure (h : r.Agrees) {mode : Value} {r' : Registry} (hr : r.configure mode = .ok r') :
    r'.Agrees := by
  unfold Registry.configure at hr
  split at hr
  · split at hr
    · cases hr
      exact h.setMode mode
    · cases hr
    · cases hr
  · cases hr
    exact h.setMode mode

/-- A compile configures and freezes both parts, or leaves the registry. -/
theorem Agrees.compile (h : r.Agrees) (backend : Outcome Backend) (src : ModelSource)
    (settings : BuildSettings) : (CompiledSchema.compile r backend src settings).1.Agrees := by
  rw [CompiledSchema.compile_registry]
  split
  · next configured hc => exact (h.configure hc).freeze
  · exact h

/-- Every operation keeps the two parts agreeing. -/
theorem Agrees.perform (h : r.Agrees) (op : Op) : (r.perform op).1.Agrees := by
  cases op with
  | registerType key t => exact h.settle fun _ hr => h.registerType hr
  | registerToWire key c => exact h.settle fun _ hr => h.registerToWire hr
  | registerFromWire key c => exact h.settle fun _ hr => h.registerFromWire hr
  | configure mode => exact h.settle fun _ hr => h.configure hr
  | freeze => exact h.freeze
  | build backend src settings => exact h.compile backend src settings

theorem Agrees.performAll (h : r.Agrees) (ops : List Op) : (r.performAll ops).Agrees := by
  induction ops generalizing r with
  | nil => exact h
  | cons op ops ih => exact ih (h.perform op)

/-- In every registry reached from a fresh one, the two parts agree. -/
theorem performAll_agrees (ops : List Op) : (({} : Registry).performAll ops).Agrees :=
  Agrees.fresh.performAll ops

/-! ### A frozen registry stays frozen -/

/-- A frozen registry whose parts agree is given back by setting its own
mode and freezing it. -/
theorem freeze_setMode_self (ha : r.Agrees) (hr : r.frozen = true) :
    (r.setMode r.typeRegistry.geometryMode).freeze = r := by
  obtain ⟨⟨factories, mode, frozen⟩, ⟨toWire, fromWire, mode', frozen'⟩⟩ := r
  obtain ⟨hmode, hfrozen⟩ := ha
  simp only [Registry.frozen] at hr hmode hfrozen
  subst hmode hfrozen hr
  rfl

/-- What a registry frozen as `r₀` keeps: its parts agree, it stays frozen
with the registrations of `r₀` and a geometry mode that is the same text as
that of `r₀`, or no text when that of `r₀` is none. -/
structure KeepsFrozen (r₀ r : Registry) : Prop where
  agrees : r.Agrees
  frozen : r.frozen = true
  types : r.types = r₀.types
  toWire : r.toWireConversions = r₀.toWireConversions
  fromWire : r.fromWireConversions = r₀.fromWireConversions
  modeText : r.typeRegistry.geometryMode.asText? = r₀.typeRegistry.geometryMode.asText?

theorem KeepsFrozen.refl (ha : r₀.Agrees) (h : r₀.frozen = true) : KeepsFrozen r₀ r₀ :=
  ⟨ha, h, rfl, rfl, rfl, rfl⟩

theorem KeepsFrozen.remapperFrozen (h : KeepsFrozen r₀ r) : r.remapper.frozen = true :=
  h.agrees.frozen.trans h.frozen

/-- A frozen registry whose parts agree comes out of a compile as it went
in: the compile can only take the mode it has. -/
theorem compile_frozen (ha : r.Agrees) (hr : r.frozen = true) (backend : Outcome Backend) (src : ModelSource)
    (settings : BuildSettings) : (CompiledSchema.compile r backend src settings).1 = r := by
  rw [CompiledSchema.compile_registry]
  split
  · next configured hc =>
    obtain ⟨rfl, hmode⟩ := configure_frozen_ok hr hc
    rw [← Value.eq_str_of_asText? hmode.symm]
    exact freeze_setMode_self ha hr
  · rfl

/-- One operation keeps what a frozen registry keeps. -/
theorem KeepsFrozen.perform (h : KeepsFrozen r₀ r) (op : Op) : KeepsFrozen r₀ (r.perform op).1 := by
  have htype : r.typeRegistry.frozen = true := h.frozen
  cases op with
  | registerType key t => simpa [Registry.perform, settle, registerType, htype] using h
  | registerToWire key c => simpa [Registry.perform, settle, registerToWire, h.remapperFrozen] using h
  | registerFromWire key c => simpa [Registry.perform, settle, registerFromWire, h.remapperFrozen] using h
  | configure mode =>
    simp only [Registry.perform, settle]
    split
    · next r' hc =>
      obtain ⟨rfl, hmode⟩ := configure_frozen_ok h.frozen hc
      exact ⟨h.agrees.setMode mode, h.frozen, h.types, h.toWire, h.fromWire, hmode.trans h.modeText⟩
    · exact h
  | freeze => exact ⟨h.agrees.freeze, rfl, h.types, h.toWire, h.fromWire, h.modeText⟩
  | build backend src settings =>
    simp only [Registry.perform]
    rw [compile_frozen h.agrees h.frozen]
    exact h

/-- A run of operations keeps what a frozen registry keeps. -/
theorem KeepsFrozen.performAll (h : KeepsFrozen r₀ r) (ops : List Op) : KeepsFrozen r₀ (r.performAll ops) := by
  induction ops generalizing r with
  | nil => exact h
  | cons op ops ih => exact ih (h.perform op)

/-- A compile on a registry kept frozen from `r₀` that succeeds is made with
the registry as it stands, whose mode is that of `r₀`. -/
theorem KeepsFrozen.build_ok (h : KeepsFrozen r₀ r) {backend : Outcome Backend} {src : ModelSource}
    {settings : BuildSettings} {s : CompiledSchema}
    (hs : (CompiledSchema.compile r backend src settings).2 = .ok s) :
    s.registry = r ∧ r.typeRegistry.geometryMode = r₀.typeRegistry.geometryMode := by
  refine ⟨(CompiledSchema.compile_ok_registry hs).trans (compile_frozen h.agrees h.frozen _ _ _), ?_⟩
  obtain ⟨configured, hc⟩ := CompiledSchema.compile_ok_configure hs
  -- the compile's mode is a text, so the registry's mode is that very text
  have hmode := (configure_frozen_ok h.frozen hc).2
  have hr : r.typeRegistry.geometryMode = .str settings.geometryMode.name := Value.eq_str_of_asText? hmode.symm
  have hr₀ : r₀.typeRegistry.geometryMode = .str settings.geometryMode.name :=
    Value.eq_str_of_asText? (h.modeText.symm.trans hmode.symm)
  rw [hr, hr₀]

/-- In every registry reached from a fresh one by a run of operations, the
type registry and the value remapper are in one geometry mode and frozen
together. Once such a registry is frozen, after any further run it is still
frozen, both parts, with the same registrations; registering anything is
refused with `RegistryFrozenError` and leaves it as it is, and so is setting
a mode unequal to the type registry's (a mode the comparison refuses fails
with that refusal, also leaving it as it is); a compile that succeeds is
made with the registry as it stands, both parts in the mode it was frozen
with. -/
theorem frozen_registry_stays (ops₀ ops : List Op) (hfrozen : (({} : Registry).performAll ops₀).frozen = true) :
    let r₀ := ({} : Registry).performAll ops₀
    let r := r₀.performAll ops
    (∀ ops' : List Op, (({} : Registry).performAll ops').Agrees) ∧
      r.typeRegistry.frozen = true ∧ r.remapper.frozen = true ∧
      r.types = r₀.types ∧ r.toWireConversions = r₀.toWireConversions ∧
      r.fromWireConversions = r₀.fromWireConversions ∧
      (∀ key t, r.perform (.registerType key t) = (r, .error typesFrozen)) ∧
      (∀ key c, r.perform (.registerToWire key c) = (r, .error conversionsFrozen)) ∧
      (∀ key c, r.perform (.registerFromWire key c) = (r, .error conversionsFrozen)) ∧
      (∀ mode, mode.equals r.typeRegistry.geometryMode = .ok false →
        r.perform (.configure mode) = (r, .error (modeRefused r.typeRegistry.geometryMode mode))) ∧
      (∀ mode e, mode.equals r.typeRegistry.geometryMode = .error e →
        r.perform (.configure mode) = (r, .error e)) ∧
      (∀ backend src settings s, (r.perform (.build backend src settings)).2 = .ok (some s) →
        s.registry = r ∧ r.typeRegistry.geometryMode = r₀.typeRegistry.geometryMode ∧
          r.remapper.geometryMode = r₀.typeRegistry.geometryMode) := by
  intro r₀ r
  have h : KeepsFrozen r₀ r := (KeepsFrozen.refl (performAll_agrees ops₀) hfrozen).performAll ops
  have htype : r.typeRegistry.frozen = true := h.frozen
  refine ⟨performAll_agrees, htype, h.remapperFrozen, h.types, h.toWire, h.fromWire, ?_, ?_, ?_, ?_, ?_, ?_⟩
  · intro key t
    simp [Registry.perform, settle, registerType, htype]
  · intro key c
    simp [Registry.perform, settle, registerToWire, h.remapperFrozen]
  · intro key c
    simp [Registry.perform, settle, registerFromWire, h.remapperFrozen]
  · intro mode hne
    simp [Registry.perform, settle, configure, Registry.frozen, htype, hne]
  · intro mode e herr
    simp [Registry.perform, settle, configure, Registry.frozen, htype, herr]
  · intro backend src settings s hs
    simp only [Registry.perform, Outcome.map_eq_ok, Option.some.injEq] at hs
    obtain ⟨s', hs', rfl⟩ := hs
    obtain ⟨hreg, hmode⟩ := h.build_ok hs'
    exact ⟨hreg, hmode, h.agrees.mode.trans hmode⟩

/-- A fresh registry frozen in the `xy` mode and then asked for the `tuple`
mode refuses it, and refuses it again. -/
theorem frozen_xy_refuses_tuple :
    let r := (({} : Registry).performAll [.freeze]).performAll [.configure (.str "tuple")]
    r.perform (.configure (.str "tuple")) =
      (r, .error (modeRefused r.typeRegistry.geometryMode (.str "tuple"))) :=
  (frozen_registry_stays [.freeze] [.configure (.str "tuple")] rfl).2.2.2.2.2.2.2.2.2.1 (.str "tuple") rfl

end Registry

end TableGraph
