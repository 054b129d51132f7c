import Mathlib
import TableGraph.Proofs.RoundTrip

/-!
# How reading a value from the API fails

`Registry.fromWire` reads a value the API received into the value to store.
Its readers of dates, times, numbers, decimals, UUIDs, bytes, JSON texts,
enumeration values and lists wrap whatever goes wrong into a remap failure
whose message names the column (`Remap.NamesColumn`). Other failures get
through four conversions: a big integer read from an infinite double or
decimal overflows; the items of a vector and the coordinates of a geometry
are made doubles unguarded (a value of the wrong kind, a text that is no
number, an integer past the doubles, a missing coordinate); and a JSON text
or an array nested too deep exhausts the recursion. An array fails as one of
its items does. `Remap.Refusal` lists these ways.

A big integer is read from the text of one, or from any other value an
integer is made of but a truth value: a double or decimal loses its
fraction, and byte strings and UUIDs are read as numbers.

## Main results

* `Registry.fromWireAt_refusal` — with nothing registered, every failure of
  a conversion from the API is a `Remap.Refusal`, at every depth.
* `Registry.fromWire_refusals` — that, the overflow of a big integer read
  from an infinite number, and what a big integer is read from.
-/

namespace TableGraph

namespace ErrorKind

theorem overflow_beq_overflow : (ErrorKind.overflow == .overflow) = true := rfl

theorem eq_overflow_of_beq {k : ErrorKind} (h : (k == .overflow) = true) : k = .overflow := by
  cases k <;> first | rfl | cases h

end ErrorKind

namespace Value

/-- A number too large for an integer: an infinite double or decimal. -/
def IsInfinite : Value → Prop
  | .float x => ∃ neg, Number.Binary64.ofFloat x = .infinite neg
  | .decimal d => ∃ neg, d = .infinite neg
  | _ => False

/-- The kinds of failure of making a double of a value: a value of the wrong
kind, a text that is no number, an integer past the doubles. -/
def floatFailures : List ErrorKind := [.badType, .badValue, .overflow]

theorem items_error {v : Value} {f : Failure} (h : v.items = .error f) : f.kind = .badType := by
  unfold items at h
  split at h <;> cases h
  rfl

theorem intToFloat_error {n : Int} {f : Failure} (h : intToFloat n = .error f) : f.kind = .overflow := by
  unfold intToFloat at h
  dsimp only at h
  split at h
  · cases h
    rfl
  · cases h

theorem toFloat_error {v : Value} {f : Failure} (h : v.toFloat = .error f) : f.kind ∈ floatFailures := by
  unfold toFloat at h
  split at h
  · cases h
  · simp [floatFailures, intToFloat_error h]
  all_goals (try split at h) <;> cases h <;> simp [floatFailures, valueError, typeError]

theorem entry_error {es : List (String × Value)} {key : String} {f : Failure} (h : entry es key = .error f) :
    f.kind = .missingKey := by
  unfold entry at h
  split at h <;> cases h
  rfl

end Value

namespace Remap

/-- A failure that names the column: a remap failure whose message quotes its
label as `field '<table>.<name>'`. -/
def NamesColumn (c : Column) (f : Failure) : Prop :=
  f.kind = .remap ∧ ∃ head tail, f.message = head ++ "field '" ++ c.label ++ "'" ++ tail

theorem namesColumn_refuse (c : Column) (head tail : String) :
    NamesColumn c (refuse (head ++ "field '" ++ c.label ++ "'" ++ tail)) :=
  ⟨rfl, head, tail, rfl⟩

theorem namesColumn_invalid (kind : String) (c : Column) (v : Value) : NamesColumn c (invalid kind c v) := by
  have h := namesColumn_refuse c ("Invalid " ++ kind ++ " value for ") (": " ++ v.literal)
  rw [invalid, show " value for field '" = " value for " ++ "field '" from rfl,
    show "': " = "'" ++ ": " from rfl]
  simpa only [String.append_assoc] using h

theorem namesColumn_outOfRange (c : Column) (v : Value) :
    NamesColumn c (refuse ("BigInt value out of range for field '" ++ c.label ++ "': " ++ v.literal)) := by
  have h := namesColumn_refuse c "BigInt value out of range for " (": " ++ v.literal)
  rw [show "BigInt value out of range for field '" = "BigInt value out of range for " ++ "field '" from rfl,
    show "': " = "'" ++ ": " from rfl]
  simpa only [String.append_assoc] using h

theorem namesColumn_bytes (c : Column) :
    NamesColumn c (refuse ("Buffer values for field '" ++ c.label ++ "' must be integers between 0 and 255")) := by
  have h := namesColumn_refuse c "Buffer values for " " must be integers between 0 and 255"
  rw [show "Buffer values for field '" = "Buffer values for " ++ "field '" from rfl,
    show "' must be integers between 0 and 255" = "'" ++ " must be integers between 0 and 255" from rfl]
  simpa only [String.append_assoc] using h

theorem namesColumn_json (c : Column) : NamesColumn c (refuse ("Invalid JSON in field '" ++ c.label ++ "'")) := by
  have h := namesColumn_refuse c "Invalid JSON in " ""
  rw [show "Invalid JSON in field '" = "Invalid JSON in " ++ "field '" from rfl]
  simpa only [String.append_assoc, String.append_empty] using h

theorem namesColumn_list (c : Column) : NamesColumn c (refuse ("Expected a list for field '" ++ c.label ++ "'")) := by
  have h := namesColumn_refuse c "Expected a list for " ""
  rw [show "Expected a list for field '" = "Expected a list for " ++ "field '" from rfl]
  simpa only [String.append_assoc, String.append_empty] using h

theorem namesColumn_geometry (c : Column) (v : Value) :
    NamesColumn c (refuse ("Invalid geometry value for field '" ++ c.label ++ "': " ++ v.literal)) := by
  have h := namesColumn_refuse c "Invalid geometry value for " (": " ++ v.literal)
  rw [show "Invalid geometry value for field '" = "Invalid geometry value for " ++ "field '" from rfl,
    show "': " = "'" ++ ": " from rfl]
  simpa only [String.append_assoc] using h

theorem namesColumn_enum (c : Column) (x : Value) :
    NamesColumn c (refuse ("Invalid value for field '" ++ c.label ++ "': " ++ x.literal ++
      " (expected one of " ++ ", ".intercalate c.enumList ++ ")")) := by
  have h := namesColumn_refuse c "Invalid value for "
    (": " ++ x.literal ++ " (expected one of " ++ ", ".intercalate c.enumList ++ ")")
  rw [show "Invalid value for field '" = "Invalid value for " ++ "field '" from rfl,
    show "': " = "'" ++ ": " from rfl]
  simpa only [String.append_assoc] using h

/-- The ways reading a value from the API for a column fails, with nothing
registered: a failure that names the column; an overflow of a big integer
read from an infinite number; a failure of turning a vector's items into
doubles, or a geometry's coordinates (looked up, then turned into doubles);
a JSON text nested too deep; an array nested too deep; or a failure of an
item of an array, for the column of its items. -/
inductive Refusal : Column → Value → Failure → Prop
  | named {c v f} : NamesColumn c f → Refusal c v f
  | infinite {c v f} : Converter.choose [] Converter.fromWireKeys c = some (.builtin "bigint") →
      v.IsInfinite → f.kind = .overflow → Refusal c v f
  | vector {c v f} : Converter.choose [] Converter.fromWireKeys c = some (.builtin "vector") →
      f.kind ∈ Value.floatFailures → Refusal c v f
  | geometry {c v f} : Converter.choose [] Converter.fromWireKeys c = some (.builtin "geometry") →
      f.kind ∈ .missingKey :: Value.floatFailures → Refusal c v f
  | jsonTooDeep {c v} (isArray : Bool) : Converter.choose [] Converter.fromWireKeys c = some (.builtin "json") →
      Refusal c v (jsonTooDeep isArray)
  | arrayTooDeep {c v} : Converter.choose [] Converter.fromWireKeys c = some (.builtin "array") →
      Refusal c v tooDeep
  | item {c v xs x f} : Converter.choose [] Converter.fromWireKeys c = some (.builtin "array") →
      v.asSequence? = some xs → x ∈ xs → Refusal c.itemColumn x f → Refusal c v f

/-! ## The readers -/

section Readers

variable {c : Column} {v : Value} {f : Failure}

theorem readDateTime_error (h : readDateTime c v = .error f) : f = invalid "datetime" c v := by
  unfold readDateTime at h
  split at h <;> (try split at h) <;> cases h <;> rfl

theorem readTime_error (h : readTime c v = .error f) : f = invalid "time" c v := by
  unfold readTime at h
  split at h <;> (try split at h) <;> cases h <;> rfl

theorem readDate_names (h : readDate c v = .error f) : NamesColumn c f := by
  unfold readDate at h
  split at h <;> (try split at h) <;> (try split at h)
  all_goals first
    | (rw [readDateTime_error (Outcome.map_eq_error h)]; exact namesColumn_invalid _ c _)
    | (cases h; exact namesColumn_invalid _ c _)
    | cases h

theorem readDecimal_error (h : readDecimal c v = .error f) : f = invalid "Decimal" c v := by
  unfold readDecimal at h
  split at h <;> (try split at h) <;> cases h <;> rfl

theorem readUuidValue_error (h : readUuidValue c v = .error f) : f = invalid "UUID" c v := by
  unfold readUuidValue at h
  split at h
  · cases h
  · split at h
    · cases h
    · cases h
      rfl

theorem readBytes_error (h : readBytes c v = .error f) :
    f = refuse ("Buffer values for field '" ++ c.label ++ "' must be integers between 0 and 255") := by
  unfold readBytes at h
  split at h
  · cases h
  · split at h
    · cases h
    · cases h
      rfl

theorem readEnum_names (h : readEnum c v = .error f) : NamesColumn c f := by
  unfold readEnum at h
  dsimp only at h
  split at h <;> split at h <;> (try split at h)
  all_goals first
    | (cases h; exact namesColumn_enum c _)
    | cases h

/-- A JSON text from the API is refused naming the column, or nests too deep. -/
theorem readJson_error (h : readJson c v = .error f) :
    f = refuse ("Invalid JSON in field '" ++ c.label ++ "'") ∨ ∃ isArray, f = jsonTooDeep isArray := by
  unfold readJson at h
  dsimp only at h
  split at h
  · cases h
  · cases h
  · cases h
    exact .inl rfl
  · cases h
    exact .inr ⟨_, rfl⟩

/-- Only an infinite number overflows when an integer is made of it. -/
theorem truncateInt_overflow (h : v.truncateInt = .error f) (hk : f.kind = .overflow) : v.IsInfinite := by
  unfold Value.truncateInt at h
  split at h <;> (try split at h) <;> cases h <;>
    simp_all [Value.IsInfinite, Value.valueError, Value.typeError]

theorem inRange_error {n : Int} {m : String}
    (h : (if int64Min ≤ n && n ≤ int64Max then pure n else .error (refuse m) : Outcome Int) = .error f) :
    f = refuse m := by
  split at h
  · cases h
  · cases h
    rfl

/-- A big integer is refused naming the column, or overflows on an infinite
number. -/
theorem readBigInt_refusal (h : readBigInt c v = .error f) :
    NamesColumn c f ∨ (v.IsInfinite ∧ f.kind = .overflow) := by
  unfold readBigInt at h
  -- as the reader does: truth values, texts, and the rest
  split at h
  · cases h
    exact .inl (namesColumn_invalid _ c _)
  · simp only [bind, Except.bind] at h
    split at h
    · rw [inRange_error h]
      exact .inl (namesColumn_outOfRange c _)
    · cases h
      exact .inl (namesColumn_invalid _ c _)
  · simp only [bind, Except.bind] at h
    split at h
    · rw [inRange_error h]
      exact .inl (namesColumn_outOfRange c _)
    · next e hv =>
      split at h
      · next hk =>
        cases h
        have hk : f.kind = .overflow := ErrorKind.eq_overflow_of_beq hk
        exact .inr ⟨truncateInt_overflow hv hk, hk⟩
      · cases h
        exact .inl (namesColumn_invalid _ c _)

theorem inRange_ok {m n : Int} {msg : String}
    (h : (if int64Min ≤ m && m ≤ int64Max then pure m else .error (refuse msg) : Outcome Int) = .ok n) :
    m = n ∧ int64Min ≤ n ∧ n ≤ int64Max := by
  split at h
  · next hr =>
    cases h
    simpa using hr
  · cases h

/-- What a big integer is read from: a text of an integer, or a value an
integer is made of that is neither a truth value nor a text; the integer fits
in 64 bits. -/
theorem readBigInt_ok {n : Int} (h : readBigInt c v = .ok n) :
    int64Min ≤ n ∧ n ≤ int64Max ∧
      ((∃ s, v = .str s ∧ Number.readInt? s = some n) ∨
        ((∀ b, v ≠ .bool b) ∧ (∀ s, v ≠ .str s) ∧ v.truncateInt = .ok n)) := by
  unfold readBigInt at h
  split at h
  · cases h
  · next s =>
    simp only [bind, Except.bind] at h
    split at h
    · next m hm =>
      obtain ⟨rfl, hlo, hhi⟩ := inRange_ok h
      exact ⟨hlo, hhi, .inl ⟨s, rfl, hm⟩⟩
    · cases h
  · next hb hs =>
    simp only [bind, Except.bind] at h
    split at h
    · next m hm =>
      obtain ⟨rfl, hlo, hhi⟩ := inRange_ok h
      exact ⟨hlo, hhi, .inr ⟨fun b hv => hb b hv, fun s hv => hs s hv, hm⟩⟩
    · split at h <;> cases h

/-- An infinite number overflows on the way to a big integer. -/
theorem readBigInt_infinite (hv : v.IsInfinite) : ∃ f, readBigInt c v = .error f ∧ f.kind = .overflow := by
  cases v with
  | float x =>
    obtain ⟨neg, hx⟩ := hv
    refine ⟨⟨.overflow, "cannot convert float infinity to integer"⟩, ?_, rfl⟩
    simp [readBigInt, Value.truncateInt, hx, bind, Except.bind, ErrorKind.overflow_beq_overflow]
  | decimal d =>
    obtain ⟨neg, rfl⟩ := hv
    refine ⟨⟨.overflow, "cannot convert Infinity to integer"⟩, ?_, rfl⟩
    simp [readBigInt, Value.truncateInt, bind, Except.bind, ErrorKind.overflow_beq_overflow]
  | _ => exact hv.elim

theorem floats_error (h : floats v = .error f) : f.kind ∈ Value.floatFailures := by
  unfold floats at h
  simp only [bind, Except.bind] at h
  split at h
  · next e he =>
    cases h
    simp [Value.floatFailures, Value.items_error he]
  · split at h
    · next e he =>
      cases h
      obtain ⟨x, -, hx⟩ := Outcome.mapM_eq_error he
      exact Value.toFloat_error hx
    · cases h

/-- A pair of coordinates each made a double fails as one of them does. -/
theorem pair_error {x y : Value} {α : Type} {g : Float → Float → α}
    (h : (do let a ← x.toFloat; let b ← y.toFloat; pure (g a b) : Outcome α) = .error f) :
    f.kind ∈ Value.floatFailures := by
  simp only [bind, Except.bind] at h
  split at h
  · next e he =>
    cases h
    exact Value.toFloat_error he
  · split at h
    · next e he =>
      cases h
      exact Value.toFloat_error he
    · cases h

/-- A geometry is refused naming the column when it has no coordinates, and
fails as a coordinate does: missing, or no double. -/
theorem readGeometry_error (h : readGeometry c v = .error f) :
    NamesColumn c f ∨ f.kind ∈ .missingKey :: Value.floatFailures := by
  unfold readGeometry at h
  dsimp only at h
  split at h
  · -- an object: each coordinate looked up, then made a double
    simp only [bind, Except.bind] at h
    split at h
    · next e he =>
      cases h
      simp [Value.entry_error he]
    · split at h
      · next e he =>
        cases h
        exact .inr (List.mem_cons_of_mem _ (Value.toFloat_error he))
      · split at h
        · next e he =>
          cases h
          simp [Value.entry_error he]
        · split at h
          · next e he =>
            cases h
            exact .inr (List.mem_cons_of_mem _ (Value.toFloat_error he))
          · cases h
  all_goals first
    | exact .inr (List.mem_cons_of_mem _ (pair_error h))
    | (cases h; exact .inl (namesColumn_geometry c _))

end Readers

end Remap

namespace Converter

theorem choose_unregistered_ne {keys : List String} {c : Column} {conv : Conversion} :
    choose [] keys c ≠ some (.registered conv) := by
  rw [choose_unregistered]
  split_ifs <;> simp

end Converter

namespace Registry

open Remap

variable {r : Registry}

/-- One level of reading from the API, with nothing registered, fails only in
the ways `Refusal` lists, given that reading an item one level down does. -/
theorem fromWireAt_refusal_step (hfrom : r.fromWireConversions = []) {d : Nat} {v : Value} {c : Column}
    {f : Failure}
    (hitems : ∀ d', d = d' + 1 → ∀ x f, r.fromWireAt d' x c.itemColumn = .error f → Refusal c.itemColumn x f)
    (h : r.fromWireAt d v c = .error f) : Refusal c v f := by
  rw [fromWireAt.eq_def] at h
  split at h
  · cases h
  rw [hfrom] at h
  split at h
  · cases h
  · next conv hconv => exact absurd hconv Converter.choose_unregistered_ne
  next key hkey =>
  -- one case per built-in key, in the order of the conversion
  split at h
  · rw [readDateTime_error (Outcome.map_eq_error h)]
    exact .named (namesColumn_invalid _ c _)
  · rw [readTime_error (Outcome.map_eq_error h)]
    exact .named (namesColumn_invalid _ c _)
  · exact .named (readDate_names (Outcome.map_eq_error h))
  · rcases readBigInt_refusal (Outcome.map_eq_error h) with hn | ⟨hinf, hk⟩
    · exact .named hn
    · exact .infinite hkey hinf hk
  · rw [readDecimal_error (Outcome.map_eq_error h)]
    exact .named (namesColumn_invalid _ c _)
  · rw [readUuidValue_error (Outcome.map_eq_error h)]
    exact .named (namesColumn_invalid _ c _)
  · rw [readBytes_error (Outcome.map_eq_error h)]
    exact .named (namesColumn_bytes c)
  · rcases readJson_error h with rfl | ⟨isArray, rfl⟩
    · exact .named (namesColumn_json c)
    · exact .jsonTooDeep isArray hkey
  · -- an array: too deep, an item's failure one level down, or no list at all
    split at h
    case h_1 xs _ | h_2 xs _ =>
      cases d with
      | zero =>
        cases h
        exact .arrayTooDeep hkey
      | succ d' =>
        obtain ⟨x, hx, hfx⟩ := Outcome.mapM_eq_error (Outcome.map_eq_error h)
        exact .item hkey rfl hx (hitems d' rfl x f hfx)
    · cases h
      exact .named (namesColumn_list c)
  · exact .vector hkey (floats_error h)
  · rcases readGeometry_error h with hn | hk
    · exact .named hn
    · exact .geometry hkey hk
  · exact .named (readEnum_names h)
  · split at h
    · cases h
    · exact .named (readEnum_names h)
  -- integers and doubles are read from texts only
  all_goals (try split at h) <;> (try split at h) <;> cases h <;> exact .named (namesColumn_invalid _ c _)

/-- Reading from the API, with nothing registered, fails only in the ways
`Refusal` lists, at every depth. -/
theorem fromWireAt_refusal (hfrom : r.fromWireConversions = []) (d : Nat) :
    ∀ {v c f}, r.fromWireAt d v c = .error f → Refusal c v f := by
  -- on the depth: an array reads its items one level down
  induction d with
  | zero => exact fromWireAt_refusal_step hfrom fun d' hd => absurd hd (by omega)
  | succ d ih =>
    refine fromWireAt_refusal_step hfrom fun d' hd x f hx => ?_
    obtain rfl : d = d' := by omega
    exact ih hx

/-- A big-integer column reads every value but nothing through the reader of
big integers. -/
theorem fromWireAt_bigint (hfrom : r.fromWireConversions = []) {c : Column}
    (hkey : Converter.choose [] Converter.fromWireKeys c = some (.builtin "bigint")) {v : Value}
    (hv : v ≠ .none) (d : Nat) : r.fromWireAt d v c = .int <$> readBigInt c v := by
  rw [fromWireAt.eq_def]
  split
  · contradiction
  · simp only [hfrom, hkey]

/-- With nothing registered, reading a value from the API fails only in the
ways `Refusal` lists. For a big-integer column an infinite number overflows,
a failure that names no column; and a big integer is read only from the text
of one, or from a value an integer is made of that is neither a truth value
nor a text (a number with its fraction dropped, a byte string, a UUID), and
fits in 64 bits. -/
theorem fromWire_refusals (hfrom : r.fromWireConversions = []) (c : Column) :
    (∀ v f, r.fromWire v c = .error f → Refusal c v f) ∧
      (Converter.choose [] Converter.fromWireKeys c = some (.builtin "bigint") →
        (∀ v, v.IsInfinite → ∃ f, r.fromWire v c = .error f ∧ f.kind = .overflow) ∧
        ∀ v w, v ≠ .none → r.fromWire v c = .ok w →
          ∃ n, w = .int n ∧ int64Min ≤ n ∧ n ≤ int64Max ∧
            ((∃ s, v = .str s ∧ Number.readInt? s = some n) ∨
              ((∀ b, v ≠ .bool b) ∧ (∀ s, v ≠ .str s) ∧ v.truncateInt = .ok n))) := by
  refine ⟨fun v f h => fromWireAt_refusal hfrom conversionDepth h, fun hkey => ⟨?_, ?_⟩⟩
  · intro v hinf
    have hv : v ≠ .none := by
      rintro rfl
      exact hinf
    obtain ⟨f, hf, hk⟩ := readBigInt_infinite (c := c) hinf
    refine ⟨f, ?_, hk⟩
    rw [fromWire, fromWireAt_bigint hfrom hkey hv, hf]
    rfl
  · intro v w hv h
    rw [fromWire, fromWireAt_bigint hfrom hkey hv] at h
    cases hread : readBigInt c v with
    | error e =>
      rw [hread] at h
      cases h
    | ok n =>
      rw [hread] at h
      cases h
      exact ⟨n, rfl, readBigInt_ok hread⟩

/-- A big-integer column of things. -/
def thingCountColumn : Column :=
  { name := "value", table := "things", tag := "bigint", columnType := "bigint" }

theorem infinite_thing_count_overflows :
    ({} : Registry).fromWireConversions = [] ∧
      ∃ f, ({} : Registry).fromWire (.decimal (.infinite false)) thingCountColumn = .error f ∧
        f.kind = .overflow :=
  ⟨rfl, ((fromWire_refusals rfl thingCountColumn).2 rfl).1 _ ⟨false, rfl⟩⟩

example : ({} : Registry).fromWire (.uuid 5) thingCountColumn = .ok (.int 5) := by rfl

end Registry

end TableGraph
