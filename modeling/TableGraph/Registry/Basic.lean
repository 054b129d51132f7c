import TableGraph.Api.Type
import TableGraph.Value.Coerce
import TableGraph.Schema.Column
import TableGraph.Value.Equality

/-!
# Registries

A registry holds what a caller adds to the built-in behaviour before a
schema is compiled, in two parts: a type registry, with the API types for
column type classes or tags, and a value remapper, with the conversions of
values towards the API (`toWire`) and from it (`fromWire`). Each part has
its own geometry mode, which type resolution and value conversion read
apart, and its own frozen flag, which its own registrations check.

The registry sets both modes together and freezes both parts together.
Whether it is frozen, and the mode a frozen registry compares a new one
with, are read from the type registry alone. Compiling a schema freezes the
registry; a frozen registry refuses every registration, and refuses a
geometry mode other than the one it was frozen with.

Registrations are keyed by a type class name or a tag; a later one under the
same key replaces an earlier one.
-/

namespace TableGraph

/-- The conversions a caller can register for values. -/
inductive Conversion where
  /-- The text of the value in upper case. -/
  | upper
  /-- `$` and the value read as a decimal, with two places. -/
  | money
  /-- The value read as a decimal, times one hundred. -/
  | times100
  | identity
  /-- The length of the value. -/
  | length
  deriving Repr, BEq, DecidableEq, Inhabited

namespace Conversion

/-- The name of a conversion. -/
def ofName? : String → Option Conversion
  | "upper" => some .upper
  | "money" => some .money
  | "times100" => some .times100
  | "identity" => some .identity
  | "length" => some .length
  | _ => none

/-- The decimal a value's text denotes. -/
def decimalOf (v : Value) : Outcome Number.Decimal :=
  match Number.Decimal.read v.text with
  | .ok d => .ok d
  | .error fault => .error (Failure.decimalFault fault)

/-- Applies a conversion to a value. -/
def apply (c : Conversion) (v : Value) : Outcome Value :=
  match c with
  | .upper => .ok (Value.ofCodes (Text.throughStandIns Text.upper v.textCodes))
  | .money => do
    let d ← decimalOf v
    pure (.str ("$" ++ d.fixed 2))
  | .times100 => do
    let d ← decimalOf v
    match d.mul (.finite false 100 0) with
    | .ok product => pure (.decimal product)
    | .error signal => .error (Failure.decimalSignal signal)
  | .identity => .ok v
  | .length => do
    let n ← v.size
    pure (.int n)

end Conversion

/-- The API types a caller registered, with the geometry mode type
resolution reads. -/
structure TypeRegistry where
  /-- API types by type class name or tag, the latest first. -/
  factories : List (String × Resolved) := []
  /-- The geometry mode, as configured. -/
  geometryMode : Value := .str "xy"
  frozen : Bool := false
  deriving Repr, Inhabited

/-- The conversions a caller registered for values, with the geometry mode
value conversion reads. -/
structure ValueRemapper where
  /-- Conversions towards the API, the latest first. -/
  toWire : List (String × Conversion) := []
  /-- Conversions from the API, the latest first. -/
  fromWire : List (String × Conversion) := []
  /-- The geometry mode, as configured. -/
  geometryMode : Value := .str "xy"
  frozen : Bool := false
  deriving Repr, Inhabited

/-- What a caller registered, and the registry's state: a type registry and
a value remapper. -/
structure Registry where
  typeRegistry : TypeRegistry := {}
  remapper : ValueRemapper := {}
  deriving Repr, Inhabited

namespace Registry

/-- The API types registered, the latest first. -/
def types (r : Registry) : List (String × Resolved) := r.typeRegistry.factories

/-- The conversions towards the API registered, the latest first. -/
def toWireConversions (r : Registry) : List (String × Conversion) := r.remapper.toWire

/-- The conversions from the API registered, the latest first. -/
def fromWireConversions (r : Registry) : List (String × Conversion) := r.remapper.fromWire

/-- Whether the registry is frozen, as the type registry says. -/
def frozen (r : Registry) : Bool := r.typeRegistry.frozen

@[simp] theorem types_mk (t : TypeRegistry) (v : ValueRemapper) : (Registry.mk t v).types = t.factories := rfl

@[simp] theorem toWireConversions_mk (t : TypeRegistry) (v : ValueRemapper) :
    (Registry.mk t v).toWireConversions = v.toWire := rfl

@[simp] theorem fromWireConversions_mk (t : TypeRegistry) (v : ValueRemapper) :
    (Registry.mk t v).fromWireConversions = v.fromWire := rfl

@[simp] theorem frozen_mk (t : TypeRegistry) (v : ValueRemapper) : (Registry.mk t v).frozen = t.frozen := rfl

/-- A registry with nothing registered, in a geometry mode. -/
def ofMode (mode : Value) : Registry :=
  { typeRegistry := { geometryMode := mode }, remapper := { geometryMode := mode } }

/-- The entry registered under a key, the latest one. -/
def find? {α : Type} (entries : List (String × α)) (key : String) : Option α :=
  (entries.find? (·.1 == key)).map (·.2)

/-- The refusal of a type registration after freezing. -/
def typesFrozen : Failure :=
  ⟨.registryFrozen, "Type registry is frozen; register types before building the schema"⟩

/-- The refusal of a conversion registration after freezing. -/
def conversionsFrozen : Failure :=
  ⟨.registryFrozen, "Value remapper is frozen; register converters before building the schema"⟩

/-- Registers an API type under a key, unless the type registry is frozen. -/
def registerType (r : Registry) (key : String) (t : Resolved) : Outcome Registry :=
  if r.typeRegistry.frozen then .error typesFrozen
  else .ok { r with typeRegistry := { r.typeRegistry with factories := (key, t) :: r.types } }

/-- Registers a conversion towards the API under a key, unless the value
remapper is frozen. -/
def registerToWire (r : Registry) (key : String) (c : Conversion) : Outcome Registry :=
  if r.remapper.frozen then .error conversionsFrozen
  else .ok { r with remapper := { r.remapper with toWire := (key, c) :: r.toWireConversions } }

/-- Registers a conversion from the API under a key, unless the value
remapper is frozen. -/
def registerFromWire (r : Registry) (key : String) (c : Conversion) : Outcome Registry :=
  if r.remapper.frozen then .error conversionsFrozen
  else .ok { r with remapper := { r.remapper with fromWire := (key, c) :: r.fromWireConversions } }

/-- The refusal of a geometry mode by a registry frozen with another one. -/
def modeRefused (frozenMode mode : Value) : Failure :=
  ⟨.registryFrozen, "Registry is frozen with geometry mode '" ++ frozenMode.text ++
    "'; use a new Registry for '" ++ mode.text ++ "'"⟩

/-- Sets the geometry mode of both parts. -/
def setMode (r : Registry) (mode : Value) : Registry :=
  { typeRegistry := { r.typeRegistry with geometryMode := mode }
    remapper := { r.remapper with geometryMode := mode } }

/-- Sets the geometry mode. A frozen registry takes only a mode equal to the
type registry's (as values compare, see `Value.equals`) and refuses any
other; a comparison that fails fails the call. -/
def configure (r : Registry) (mode : Value) : Outcome Registry :=
  if r.frozen then
    match mode.equals r.typeRegistry.geometryMode with
    | .ok true => .ok (r.setMode mode)
    | .ok false => .error (modeRefused r.typeRegistry.geometryMode mode)
    | .error e => .error e
  else .ok (r.setMode mode)

/-- Freezes both parts. -/
def freeze (r : Registry) : Registry :=
  { typeRegistry := { r.typeRegistry with frozen := true }
    remapper := { r.remapper with frozen := true } }

/-- Whether geometry columns without a mode option travel as lists, when
the mode read otherwise is `mode`. -/
def tupleGeometry (mode : Value) (c : Column) : Bool :=
  let mode := match c.option? "mode" with
    | some m => if m.truthy then m else mode
    | none => mode
  mode == .str "tuple"

end Registry

end TableGraph
