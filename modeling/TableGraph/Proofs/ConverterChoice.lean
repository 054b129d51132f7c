import Mathlib
import TableGraph.Proofs.RoundTrip
import TableGraph.Registry.Resolve

/-!
# Which conversion a column gets

Type resolution and value conversion look a column up alike among what a
caller registered: under its type class first, under its tag second. They
part at the built-ins. `Registry.resolve` falls back on the built-in type of
the tag alone, while `Converter.choose` tries the built-in conversion keyed
by the type class before the one keyed by the tag. `Converter.chooseAsResolved`
is the choice made by the precedence of type resolution.

The two choices agree exactly when a registration applies, or the type class
keys no built-in conversion of its own, or it is the tag itself
(`Converter.choose_eq_chooseAsResolved_iff`). With nothing registered, a
column whose type class keys no built-in conversion is written out alike
whatever its type class (`Registry.toWireAt_retyped`), as type resolution
resolves it alike (`Registry.resolve_retyped`); a type class that keys a
conversion of its own takes it over, as `Registry.bigint_round_trip_float_typed`
shows for a big-integer column whose type class is named `float`.

## Main results

* `Converter.choose_eq_chooseAsResolved_iff` — when the conversion chosen is
  the one type resolution's precedence chooses.
* `Registry.toWireAt_retyped` — conversion towards the API ignores a type
  class that keys nothing.
* `Registry.resolve_retyped` — so does type resolution, for a tag it knows.
-/

namespace TableGraph

namespace Converter

/-- The converter chosen by the precedence of type resolution: registered by
type class, registered by tag, built in by tag. -/
def chooseAsResolved (registered : List (String × Conversion)) (builtinKeys : List String) (c : Column) :
    Option Converter :=
  match Registry.find? registered c.columnType <|> Registry.find? registered c.tag with
  | some conv => some (.registered conv)
  | none => if builtinKeys.contains c.tag then some (.builtin c.tag) else none

/-- The conversion chosen is the one type resolution's precedence chooses
exactly when, with nothing registered under the type class or the tag, a type
class that keys a built-in conversion is the tag itself. -/
theorem choose_eq_chooseAsResolved_iff (registered : List (String × Conversion)) (keys : List String)
    (c : Column) :
    choose registered keys c = chooseAsResolved registered keys c ↔
      (Registry.find? registered c.columnType = none → Registry.find? registered c.tag = none →
        keys.contains c.columnType = true → c.columnType = c.tag) := by
  unfold choose chooseAsResolved
  cases hreg : (Registry.find? registered c.columnType <|> Registry.find? registered c.tag) with
  | some conv =>
    -- a registration applies: both choose it, and the condition holds vacuously
    refine iff_of_true rfl fun hty htag => ?_
    simp [hty, htag] at hreg
  | none =>
    obtain ⟨hty, htag⟩ : Registry.find? registered c.columnType = none ∧
        Registry.find? registered c.tag = none := by simpa using hreg
    simp only [hty, htag, forall_const]
    cases hkey : keys.contains c.columnType with
    | false => simp
    | true =>
      simp only [if_true, forall_const]
      by_cases heq : c.columnType = c.tag
      · simpa [← heq] using hkey
      · -- the type class's own conversion comes first, and it is not the tag's
        refine iff_of_false ?_ heq
        split <;> simp [heq]

/-- A type class with nothing registered under it that keys no built-in
conversion leaves the choice to the tag. -/
theorem choose_retyped {registered : List (String × Conversion)} {keys : List String} {c : Column}
    {t : String} (hreg : Registry.find? registered c.columnType = none)
    (hreg' : Registry.find? registered t = none) (hkey : keys.contains c.columnType = false)
    (hkey' : keys.contains t = false) :
    choose registered keys { c with columnType := t } = choose registered keys c := by
  simp only [choose, hreg, hreg', hkey, hkey', Bool.false_eq_true, if_false]

end Converter

namespace Registry

variable (r : Registry) {c : Column} {t : String}

/-- Towards the API, a column converts alike under two type classes that key
no conversion. -/
theorem toWireAt_retyped (hreg : find? r.toWireConversions c.columnType = none)
    (hreg' : find? r.toWireConversions t = none) (hkey : Converter.toWireKeys.contains c.columnType = false)
    (hkey' : Converter.toWireKeys.contains t = false) (d : Nat) (v : Value) :
    r.toWireAt d v { c with columnType := t } = r.toWireAt d v c := by
  have hchoose := Converter.choose_retyped hreg hreg' hkey hkey'
  -- on the depth: only arrays look one level down, at their item column
  induction d generalizing v with
  | zero => cases v <;> simp only [toWireAt, hchoose] <;> rfl
  | succ d ih =>
    rcases Option.eq_none_or_eq_some c.item with hi | ⟨i, hi⟩
    · -- a column without an item column is its own item column, retyped alike
      have h₁ : ({ c with columnType := t } : Column).itemColumn = { c with columnType := t } := by
        simp [Column.itemColumn, hi]
      have h₂ : c.itemColumn = c := by simp [Column.itemColumn, hi]
      cases v <;> simp only [toWireAt, hchoose, h₁, h₂, ih] <;> rfl
    · have hitem : ({ c with columnType := t } : Column).itemColumn = c.itemColumn := by
        simp [Column.itemColumn, hi]
      cases v <;> simp only [toWireAt, hchoose, hitem] <;> rfl

/-- The tags that type resolution gives a built-in type. -/
def typeTags : List String :=
  ["integer", "float", "bigint", "decimal", "text", "enum", "boolean", "timestamp", "date", "time",
    "uuid", "binary", "json", "vector", "geometry", "array"]

/-- Type resolution of a column whose tag has a built-in type ignores a type
class with nothing registered under it. -/
theorem resolve_retyped (hreg : find? r.types c.columnType = none) (hreg' : find? r.types t = none)
    (htag : c.tag ∈ typeTags) (isInput : Bool) :
    r.resolve { c with columnType := t } isInput = r.resolve c isInput := by
  rw [resolve, resolve]
  simp only [hreg, hreg']
  simp only [typeTags, List.mem_cons, List.not_mem_nil, or_false] at htag
  rcases htag with h | h | h | h | h | h | h | h | h | h | h | h | h | h | h | h <;> simp only [h] <;> rfl

end Registry

end TableGraph
