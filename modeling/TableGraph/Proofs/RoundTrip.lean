import Mathlib
import TableGraph.Proofs.Conversions
import TableGraph.Proofs.IsoTexts
import TableGraph.Proofs.JsonTexts

/-!
# Values that come back from the API as they went

`Registry.toWire` converts a stored value towards the API and
`Registry.fromWire` converts what the API sends back. With nothing
registered, and for a column whose type class names no built-in conversion
of its own (`Column.convertsByTag`), both directions go by the column's tag,
and a value of the tag's storage domain comes back in its normal form:
integers, doubles and truth values as they are, big integers in 64 bits
through their decimal text, finite decimals through their scientific text,
UUIDs through their grouped hexadecimal text, dates, times and date-times
through their ISO text, byte strings through their list of bytes, vectors as
lists of doubles, points as pairs of doubles, enumeration values and members
as the stored text, arrays item by item, and the values a JSON column holds
without loss (`Value.JsonPlain`: nulls, truth values, integers, text, and
lists and mappings of them, nested no deeper than `jsonDepth`) through
their compact JSON text. The texts are read back by the lemmas of
`NumberTexts`, `IsoTexts` and `JsonTexts`.

A time comes back with its offset settled (`Time.TimeOfDay.settled`): the
ISO reader takes an offset of no whole second for UTC, so such an offset
comes back as zero; every other value comes back as it went.

`Stores n c s t` says that `s` is such a value of column `c` and that `t` is
its normal form; `n` counts the levels of arrays. The type class condition
is needed: `Registry.bigint_round_trip_float_typed` shows a big-integer column
whose type class is named `float` reading every integer back as a double.

Main results:

* `Registry.fromWireAt_toWireAt` — the round trip, at every depth that the
  nesting of arrays fits in;
* `Registry.fromWire_toWire` — the round trip at the library's depth;
* `Registry.bigint_round_trip_float_typed` — the big-integer column that a
  double's type class takes out of the round trip;
* `Registry.storage_round_trip` — the two together.
-/

namespace TableGraph

namespace Value

/-- Doubles read as doubles are themselves. -/
theorem mapM_toFloat_floats (fs : List Float) : (fs.map Value.float).mapM toFloat = .ok fs := by
  induction fs with
  | nil => rfl
  | cons f fs ih =>
    simp only [List.map_cons, List.mapM_cons, ih]
    rfl

/-- The plain text of a text value is the text itself. -/
theorem text_str (s : String) : (Value.str s).text = s := rfl

end Value

/-! ### Columns that convert by their tag -/

namespace Column

/-- A column converts by its tag when its type class names no built-in
conversion of its own: both directions then choose by the tag. -/
def convertsByTag (c : Column) : Bool := !Converter.fromWireKeys.contains c.columnType

end Column

namespace Remap

/-- A text with no blank and no `Z` is its own zone text. -/
theorem zoneText_of_plain {s : String} (hblank : ∀ c ∈ s.toList, Text.isBlank c = false)
    (hZ : 'Z' ∉ s.toList) : zoneText s = s := by
  have hstrip : Text.strip s = s := by
    rw [Text.strip, Text.trimBlank_eq_self hblank, String.ofList_toList]
  have hend : s.endsWith "Z" = false := by
    rw [String.endsWith_eq_endsWith_toSlice, String.Slice.endsWith_string_eq_false_iff]
    rintro ⟨pre, hsuf⟩
    apply hZ
    simp at hsuf
    rw [← hsuf]
    simp
  simp [zoneText, hstrip, hend]

/-- An ISO text is its own zone text. -/
theorem zoneText_of_isIsoChar {s : String} (h : ∀ c ∈ s.toList, Time.isIsoChar c = true) :
    zoneText s = s :=
  zoneText_of_plain (fun c hc => Time.isBlank_of_isIsoChar (h c hc))
    (fun hc => absurd (h _ hc) (by decide))

end Remap

namespace Registry

section ByTag

variable {r : Registry} {c : Column} {key : String}

/-- Towards the API, a column that converts by its tag takes the built-in
conversion of its tag. -/
theorem chooseTo_builtin (hto : r.toWireConversions = []) (hc : c.convertsByTag = true)
    (htag : c.tag = key) (hkey : Converter.toWireKeys.contains key = true) :
    Converter.choose r.toWireConversions Converter.toWireKeys c = some (.builtin key) := by
  have hty : Converter.toWireKeys.contains c.columnType = false := by
    simp only [Column.convertsByTag, Converter.fromWireKeys, Bool.not_eq_true',
      List.contains_append, Bool.or_eq_false_iff] at hc
    exact hc.1
  rw [hto, Converter.choose_unregistered, hty, htag, hkey]
  rfl

/-- Towards the API, a column that converts by a tag without a built-in
conversion is passed through. -/
theorem chooseTo_none (hto : r.toWireConversions = []) (hc : c.convertsByTag = true)
    (htag : c.tag = key) (hkey : Converter.toWireKeys.contains key = false) :
    Converter.choose r.toWireConversions Converter.toWireKeys c = none := by
  have hty : Converter.toWireKeys.contains c.columnType = false := by
    simp only [Column.convertsByTag, Converter.fromWireKeys, Bool.not_eq_true',
      List.contains_append, Bool.or_eq_false_iff] at hc
    exact hc.1
  rw [hto, Converter.choose_unregistered, hty, htag, hkey]
  rfl

/-- From the API, a column that converts by its tag takes the built-in
conversion of its tag. -/
theorem chooseFrom_builtin (hfrom : r.fromWireConversions = []) (hc : c.convertsByTag = true)
    (htag : c.tag = key) (hkey : Converter.fromWireKeys.contains key = true) :
    Converter.choose r.fromWireConversions Converter.fromWireKeys c = some (.builtin key) := by
  simp only [Column.convertsByTag, Bool.not_eq_true'] at hc
  rw [hfrom, Converter.choose_unregistered, hc, htag, hkey]
  rfl

/-- From the API, a column that converts by a tag without a built-in
conversion is passed through. -/
theorem chooseFrom_none (hfrom : r.fromWireConversions = []) (hc : c.convertsByTag = true)
    (htag : c.tag = key) (hkey : Converter.fromWireKeys.contains key = false) :
    Converter.choose r.fromWireConversions Converter.fromWireKeys c = none := by
  simp only [Column.convertsByTag, Bool.not_eq_true'] at hc
  rw [hfrom, Converter.choose_unregistered, hc, htag, hkey]
  rfl

variable (hto : r.toWireConversions = []) (hfrom : r.fromWireConversions = [])
  (hc : c.convertsByTag = true) (d : Nat)

include hto hfrom hc

/-- Integers pass through an integer column both ways. -/
theorem trip_integer (htag : c.tag = "integer") (k : Int) :
    r.toWireAt d (.int k) c = .ok (.int k) ∧ r.fromWireAt d (.int k) c = .ok (.int k) := by
  constructor
  · rw [toWireAt.eq_def]
    simp only [chooseTo_none hto hc htag (by decide)]
  · rw [fromWireAt.eq_def]
    simp only [chooseFrom_builtin hfrom hc htag (by decide)]

/-- Doubles pass through a double column both ways. -/
theorem trip_float (htag : c.tag = "float") (x : Float) :
    r.toWireAt d (.float x) c = .ok (.float x) ∧ r.fromWireAt d (.float x) c = .ok (.float x) := by
  constructor
  · rw [toWireAt.eq_def]
    simp only [chooseTo_none hto hc htag (by decide)]
  · rw [fromWireAt.eq_def]
    simp only [chooseFrom_builtin hfrom hc htag (by decide)]

/-- Truth values pass through a truth value column both ways. -/
theorem trip_boolean (htag : c.tag = "boolean") (b : Bool) :
    r.toWireAt d (.bool b) c = .ok (.bool b) ∧ r.fromWireAt d (.bool b) c = .ok (.bool b) := by
  constructor
  · rw [toWireAt.eq_def]
    simp only [chooseTo_none hto hc htag (by decide)]
  · rw [fromWireAt.eq_def]
    simp only [chooseFrom_none hfrom hc htag (by decide)]

/-- A big integer in 64 bits is written as its decimal text, which reads back
as the integer. -/
theorem trip_bigint (htag : c.tag = "bigint") {k : Int} (hlo : Remap.int64Min ≤ k)
    (hhi : k ≤ Remap.int64Max) :
    r.toWireAt d (.int k) c = .ok (.str (toString k)) ∧
      r.fromWireAt d (.str (toString k)) c = .ok (.int k) := by
  have hdigits : (Nat.toDigits 10 k.natAbs).length ≤ Number.intDigitLimit := by
    have hsmall : k.natAbs < 10 ^ 64 := by
      simp only [Remap.int64Min, Remap.int64Max] at hlo hhi
      omega
    exact (Nat.toDigits_length 10 _ 64 (by norm_num) hsmall).trans (by decide)
  constructor
  · rw [toWireAt.eq_def]
    simp only [chooseTo_builtin hto hc htag (by decide)]
    rfl
  · rw [fromWireAt.eq_def]
    simp only [chooseFrom_builtin hfrom hc htag (by decide)]
    simp only [Remap.readBigInt, Number.readInt?_toString hdigits]
    simp [hlo, hhi]

/-- A finite decimal within the range of exact reading is written as its
scientific-string form, which reads back as the decimal. -/
theorem trip_decimal (htag : c.tag = "decimal") {neg : Bool} {coeff : Nat} {exp : Int}
    (hfits : Number.Decimal.fitsExactly coeff exp = true) :
    r.toWireAt d (.decimal (.finite neg coeff exp)) c =
        .ok (.str (Number.Decimal.finite neg coeff exp).text) ∧
      r.fromWireAt d (.str (Number.Decimal.finite neg coeff exp).text) c =
        .ok (.decimal (.finite neg coeff exp)) := by
  constructor
  · rw [toWireAt.eq_def]
    simp only [chooseTo_builtin hto hc htag (by decide)]
    rfl
  · rw [fromWireAt.eq_def]
    simp only [chooseFrom_builtin hfrom hc htag (by decide)]
    delta Remap.readDecimal
    rw [Value.text_str, Number.Decimal.ofText?_text hfits]
    rfl

/-- A 128-bit UUID is written as its grouped text, which reads back as the
UUID. -/
theorem trip_uuid (htag : c.tag = "uuid") {k : Nat} (hk : k < 2 ^ 128) :
    r.toWireAt d (.uuid k) c = .ok (.str (uuidText k)) ∧
      r.fromWireAt d (.str (uuidText k)) c = .ok (.uuid k) := by
  constructor
  · rw [toWireAt.eq_def]
    simp only [chooseTo_builtin hto hc htag (by decide)]
    rfl
  · rw [fromWireAt.eq_def]
    simp only [chooseFrom_builtin hfrom hc htag (by decide)]
    delta Remap.readUuidValue
    simp only [Value.text_str, readUuid_uuidText hk]
    rfl

/-- A valid date-time is written as its ISO text, which reads back as the
date-time with its offset settled. -/
theorem trip_datetime (htag : c.tag = "timestamp") {dt : Time.DateTime}
    (hdate : dt.date.isValid = true) (htime : dt.time.isValid = true) :
    r.toWireAt d (.datetime dt) c = .ok (.str dt.isoText) ∧
      r.fromWireAt d (.str dt.isoText) c = .ok (.datetime dt.settled) := by
  constructor
  · rw [toWireAt.eq_def]
    simp only [chooseTo_builtin hto hc htag (by decide)]
    rfl
  · rw [fromWireAt.eq_def]
    simp only [chooseFrom_builtin hfrom hc htag (by decide)]
    delta Remap.readDateTime
    simp only [Remap.zoneText_of_isIsoChar (Time.DateTime.isIsoChar_isoText dt),
      Time.readDateTime?_isoText hdate htime]
    rfl

/-- A valid date is written as its ISO text, which holds no `T` and reads
back as the date. -/
theorem trip_date (htag : c.tag = "date") {day : Time.Date} (hday : day.isValid = true) :
    r.toWireAt d (.date day) c = .ok (.str day.isoText) ∧
      r.fromWireAt d (.str day.isoText) c = .ok (.date day) := by
  have hT : day.isoText.toList.contains 'T' = false := by
    rw [Bool.eq_false_iff]
    intro hmem
    rcases Time.Date.mem_isoText (List.contains_iff_mem.mp hmem) with h | h
    · exact absurd h (by decide)
    · exact absurd h (by decide)
  constructor
  · rw [toWireAt.eq_def]
    simp only [chooseTo_builtin hto hc htag (by decide)]
    rfl
  · rw [fromWireAt.eq_def]
    simp only [chooseFrom_builtin hfrom hc htag (by decide)]
    delta Remap.readDate
    simp only [hT, Bool.false_eq_true, ↓reduceIte,
      Remap.zoneText_of_isIsoChar (Time.Date.isIsoChar_isoText day), Time.readDate?_isoText hday]
    rfl

/-- A valid time of day is written as its ISO text, which reads back as the
time with its offset settled. -/
theorem trip_time (htag : c.tag = "time") {t : Time.TimeOfDay} (ht : t.isValid = true) :
    r.toWireAt d (.time t) c = .ok (.str t.isoText) ∧
      r.fromWireAt d (.str t.isoText) c = .ok (.time t.settled) := by
  constructor
  · rw [toWireAt.eq_def]
    simp only [chooseTo_builtin hto hc htag (by decide)]
    rfl
  · rw [fromWireAt.eq_def]
    simp only [chooseFrom_builtin hfrom hc htag (by decide)]
    delta Remap.readTime
    simp only [Remap.zoneText_of_isIsoChar (Time.TimeOfDay.isIsoChar_isoText t),
      Time.readTime?_isoText ht]
    rfl

/-- A value that JSON holds without loss is written as its compact JSON
text, which reads back as the value; a null passes as a null. -/
theorem trip_json (htag : c.tag = "json") {v : Value} (hv : Value.JsonPlain jsonDepth v) :
    ∃ w, r.toWireAt d v c = .ok w ∧ r.fromWireAt d w c = .ok v := by
  by_cases hnone : v = .none
  · subst hnone
    exact ⟨.none, toWireAt_none r d c, fromWireAt_none r d c⟩
  obtain ⟨j, hj, hread, hback⟩ := Value.json_round_trip hv le_rfl
  refine ⟨.str (Json.render "," ":" true j), ?_, ?_⟩
  · rw [toWireAt.eq_def]
    split
    · contradiction
    · simp only [chooseTo_builtin hto hc htag (by decide)]
      rw [Remap.jsonText, hj]
  · rw [fromWireAt.eq_def]
    simp only [chooseFrom_builtin hfrom hc htag (by decide)]
    delta Remap.readJson
    simp only [hread, hback]

/-- A byte string is written as its list of bytes, which reads back as the
byte string. -/
theorem trip_binary (htag : c.tag = "binary") (bs : List UInt8) :
    r.toWireAt d (.bytes bs) c = .ok (.list (bs.map fun b => .int b.toNat)) ∧
      r.fromWireAt d (.list (bs.map fun b => .int b.toNat)) c = .ok (.bytes bs) := by
  have hbytes : ∀ n ∈ bs.map (fun b => (b.toNat : Int)), 0 ≤ n ∧ n < 256 := by
    intro n hn
    obtain ⟨b, -, rfl⟩ := List.mem_map.mp hn
    have := b.toNat_lt
    omega
  have hlist : (bs.map fun b => Value.int b.toNat) = (bs.map fun b => (b.toNat : Int)).map .int := by
    simp
  constructor
  · rw [toWireAt.eq_def]
    simp only [chooseTo_builtin hto hc htag (by decide)]
    rfl
  · rw [fromWireAt.eq_def]
    simp only [chooseFrom_builtin hfrom hc htag (by decide)]
    rw [hlist, Remap.readBytes_ints c hbytes]
    simp [Function.comp_def, UInt8.ofNat_toNat]

/-- A list of numbers is written as the list of their doubles, which reads
back as itself. -/
theorem trip_vector (htag : c.tag = "vector") {xs : List Value} {fs : List Float}
    (h : xs.mapM Value.toFloat = .ok fs) :
    r.toWireAt d (.list xs) c = .ok (.list (fs.map .float)) ∧
      r.fromWireAt d (.list (fs.map .float)) c = .ok (.list (fs.map .float)) := by
  constructor
  · rw [toWireAt.eq_def]
    simp only [chooseTo_builtin hto hc htag (by decide)]
    simp [Remap.floats, Value.items, h, bind, Except.bind]
  · rw [fromWireAt.eq_def]
    simp only [chooseFrom_builtin hfrom hc htag (by decide)]
    simp only [Remap.floats, Value.items, bind, Except.bind, Value.mapM_toFloat_floats]
    rfl

/-- A point is written as its pair of doubles, as a list or an object after
the column's mode, and read back as the pair. -/
theorem trip_geometry (htag : c.tag = "geometry") {v x y : Value} {fx fy : Float}
    (hxy : Remap.coordinates v = .ok (x, y)) (hx : x.toFloat = .ok fx) (hy : y.toFloat = .ok fy) :
    ∃ w, r.toWireAt d v c = .ok w ∧ r.fromWireAt d w c = .ok (.tuple [.float fx, .float fy]) := by
  have hv : v ≠ .none := by
    rintro rfl
    simp [Remap.coordinates, Value.field, bind, Except.bind] at hxy
  let w : Value := if tupleGeometry r.remapper.geometryMode c then .list [.float fx, .float fy]
    else .dict [("x", .float fx), ("y", .float fy)]
  have hwrite : Remap.geometryToWire (tupleGeometry r.remapper.geometryMode c) v = .ok w := by
    simp [w, Remap.geometryToWire, hxy, hx, hy, bind, Except.bind]
  refine ⟨w, ?_, ?_⟩
  · rw [toWireAt.eq_def]
    split
    · contradiction
    · simp only [chooseTo_builtin hto hc htag (by decide)]
      exact hwrite
  · rw [fromWireAt.eq_def]
    -- the pair reads back the same in either mode
    cases hmode : tupleGeometry r.remapper.geometryMode c <;>
      simp [w, hmode, chooseFrom_builtin hfrom hc htag (by decide), Remap.readGeometry,
        Value.toFloat, Value.entry, Value.lookup?, bind, Except.bind]

/-- An enumeration value, or a member that stands for one, is written as the
stored text and read back as it. -/
theorem trip_enumValue (htag : c.tag = "enum" ∨ c.tag = "text") {v : Value} {s : String}
    (hv : Remap.enumToWire c v = .str s) (hs : s ∈ c.enumList) :
    r.toWireAt d v c = .ok (.str s) ∧ r.fromWireAt d (.str s) c = .ok (.str s) := by
  have hnone : v ≠ .none := by
    rintro rfl
    simp [Remap.enumToWire] at hv
  have hread : Remap.readEnum c (.str s) = .ok (.str s) := by
    have hany : c.enumList.any (fun t => Value.str s == .str t) = true :=
      List.any_eq_true.mpr ⟨s, hs, by simp [BEq.beq, Value.beq]⟩
    simp [Remap.readEnum, hany]
  constructor
  · rw [toWireAt.eq_def]
    split
    · contradiction
    · rcases htag with htag | htag <;>
        simp only [chooseTo_builtin hto hc htag (by decide)] <;> exact congrArg _ hv
  · have hne : c.enumList.isEmpty = false := by
      cases h : c.enumList with
      | nil => simp [h] at hs
      | cons _ _ => rfl
    rw [fromWireAt.eq_def]
    rcases htag with htag | htag <;>
      simp [chooseFrom_builtin hfrom hc htag (by decide), hne, hread]

/-- Without stored enumeration values, a text column writes a member as its
value and everything else as it is, and reads it all back as written. -/
theorem trip_text (htag : c.tag = "text") (hempty : c.enumList = []) {v : Value}
    (hv : v ≠ .none) :
    r.toWireAt d v c = .ok (Remap.enumToWire c v) ∧
      r.fromWireAt d (Remap.enumToWire c v) c = .ok (Remap.enumToWire c v) := by
  constructor
  · rw [toWireAt.eq_def]
    split
    · contradiction
    · simp only [chooseTo_builtin hto hc htag (by decide)]
      rfl
  · rw [fromWireAt.eq_def]
    split
    · next hnull => rw [hnull]
    · simp [chooseFrom_builtin hfrom hc htag (by decide), hempty]

end ByTag

/-! ### The round trip -/

mutual

/-- `Stores n c s t`: `s` is a value of the storage domain of column `c`, and
`t` the value it comes back as from the API; `n` bounds the levels of arrays. -/
inductive Stores : Nat → Column → Value → Value → Prop
  | integer {n c k} : c.tag = "integer" → Stores n c (.int k) (.int k)
  | float {n c x} : c.tag = "float" → Stores n c (.float x) (.float x)
  | boolean {n c b} : c.tag = "boolean" → Stores n c (.bool b) (.bool b)
  | bigint {n c k} : c.tag = "bigint" → Remap.int64Min ≤ k → k ≤ Remap.int64Max →
      Stores n c (.int k) (.int k)
  | decimal {n c neg coeff exp} : c.tag = "decimal" →
      Number.Decimal.fitsExactly coeff exp = true →
      Stores n c (.decimal (.finite neg coeff exp)) (.decimal (.finite neg coeff exp))
  | uuid {n c k} : c.tag = "uuid" → k < 2 ^ 128 → Stores n c (.uuid k) (.uuid k)
  | datetime {n c dt} : c.tag = "timestamp" → dt.date.isValid = true → dt.time.isValid = true →
      Stores n c (.datetime dt) (.datetime dt.settled)
  | date {n c day} : c.tag = "date" → day.isValid = true → Stores n c (.date day) (.date day)
  | time {n c t} : c.tag = "time" → t.isValid = true → Stores n c (.time t) (.time t.settled)
  | binary {n c bs} : c.tag = "binary" → Stores n c (.bytes bs) (.bytes bs)
  | json {n c v} : c.tag = "json" → Value.JsonPlain jsonDepth v → Stores n c v v
  | vector {n c xs fs} : c.tag = "vector" → xs.mapM Value.toFloat = .ok fs →
      Stores n c (.list xs) (.list (fs.map .float))
  | geometry {n c v x y fx fy} : c.tag = "geometry" → Remap.coordinates v = .ok (x, y) →
      x.toFloat = .ok fx → y.toFloat = .ok fy → Stores n c v (.tuple [.float fx, .float fy])
  | enumValue {n c v s} : c.tag = "enum" ∨ c.tag = "text" → Remap.enumToWire c v = .str s →
      s ∈ c.enumList → Stores n c v (.str s)
  | text {n c v} : c.tag = "text" → c.enumList = [] → v ≠ .none →
      Stores n c v (Remap.enumToWire c v)
  | array {n c i xs ys} : c.tag = "array" → c.item = some i → i.convertsByTag = true →
      StoresItems n i xs ys → Stores (n + 1) c (.list xs) (.list ys)

/-- `StoresItems n i xs ys`: the items `xs` of an array are nulls or values of
the storage domain of its item column `i`, and come back as `ys`. -/
inductive StoresItems : Nat → Column → List Value → List Value → Prop
  | nil {n i} : StoresItems n i [] []
  | null {n i xs ys} : StoresItems n i xs ys → StoresItems n i (.none :: xs) (.none :: ys)
  | cons {n i x y xs ys} : Stores n i x y → StoresItems n i xs ys →
      StoresItems n i (x :: xs) (y :: ys)

end

section Trip

variable {r : Registry}

/-- The items of an array come back one by one, nulls as nulls, given the
round trip for values of the item column. -/
theorem trip_items {m : Nat} {i : Column}
    (item : ∀ {x y}, Stores m i x y → ∀ d, m ≤ d →
      ∃ w, r.toWireAt d x i = .ok w ∧ r.fromWireAt d w i = .ok y)
    {d : Nat} (hd : m ≤ d) :
    ∀ {xs ys}, StoresItems m i xs ys →
      ∃ ws, xs.mapM (fun x => r.toWireAt d x i) = .ok ws ∧
        ws.mapM (fun w => r.fromWireAt d w i) = .ok ys := by
  intro xs
  induction xs with
  | nil =>
    intro ys h
    cases h
    exact ⟨[], rfl, rfl⟩
  | cons x xs ih =>
    intro ys h
    cases h with
    | null hrest =>
      obtain ⟨ws, hw, hback⟩ := ih hrest
      refine ⟨.none :: ws, ?_, ?_⟩
      · simp [List.mapM_cons, toWireAt.eq_1, hw, bind, Except.bind]
      · simp [List.mapM_cons, fromWireAt.eq_1, hback, bind, Except.bind]
    | cons hx hrest =>
      obtain ⟨w, hw, hwback⟩ := item hx d hd
      obtain ⟨ws, hws, hback⟩ := ih hrest
      refine ⟨w :: ws, ?_, ?_⟩
      · simp [List.mapM_cons, hw, hws, bind, Except.bind]
      · simp [List.mapM_cons, hwback, hback, bind, Except.bind]

variable (hto : r.toWireConversions = []) (hfrom : r.fromWireConversions = [])

include hto hfrom

/-- One level of the round trip: every value of a column's storage domain
comes back, given that arrays of this level get their items back. -/
theorem trip_level {n : Nat}
    (arrays : ∀ {m c i xs ys}, n = m + 1 → c.tag = "array" → c.item = some i →
      i.convertsByTag = true → c.convertsByTag = true → StoresItems m i xs ys → ∀ d, n ≤ d →
      ∃ w, r.toWireAt d (.list xs) c = .ok w ∧ r.fromWireAt d w c = .ok (.list ys))
    {c : Column} {s t : Value} (hc : c.convertsByTag = true) (hst : Stores n c s t) (d : Nat)
    (hd : n ≤ d) : ∃ w, r.toWireAt d s c = .ok w ∧ r.fromWireAt d w c = .ok t := by
  cases hst with
  | integer htag => exact ⟨_, trip_integer hto hfrom hc d htag _⟩
  | float htag => exact ⟨_, trip_float hto hfrom hc d htag _⟩
  | boolean htag => exact ⟨_, trip_boolean hto hfrom hc d htag _⟩
  | bigint htag hlo hhi => exact ⟨_, trip_bigint hto hfrom hc d htag hlo hhi⟩
  | decimal htag hfits => exact ⟨_, trip_decimal hto hfrom hc d htag hfits⟩
  | uuid htag hk => exact ⟨_, trip_uuid hto hfrom hc d htag hk⟩
  | datetime htag hdate htime => exact ⟨_, trip_datetime hto hfrom hc d htag hdate htime⟩
  | date htag hday => exact ⟨_, trip_date hto hfrom hc d htag hday⟩
  | time htag ht => exact ⟨_, trip_time hto hfrom hc d htag ht⟩
  | binary htag => exact ⟨_, trip_binary hto hfrom hc d htag _⟩
  | json htag hv => exact trip_json hto hfrom hc d htag hv
  | vector htag h => exact ⟨_, trip_vector hto hfrom hc d htag h⟩
  | geometry htag hxy hx hy => exact trip_geometry hto hfrom hc d htag hxy hx hy
  | enumValue htag hv hs => exact ⟨_, trip_enumValue hto hfrom hc d htag hv hs⟩
  | text htag hempty hv => exact ⟨_, trip_text hto hfrom hc d htag hempty hv⟩
  | array htag hitem hi hitems => exact arrays rfl htag hitem hi hc hitems d hd

/-- An array whose items come back at the depth below comes back itself. -/
theorem trip_array {c i : Column} {xs ys : List Value} (htag : c.tag = "array")
    (hitem : c.item = some i) (hc : c.convertsByTag = true) {d : Nat}
    (hitems : ∃ ws, xs.mapM (fun x => r.toWireAt d x i) = .ok ws ∧
      ws.mapM (fun w => r.fromWireAt d w i) = .ok ys) :
    ∃ w, r.toWireAt (d + 1) (.list xs) c = .ok w ∧
      r.fromWireAt (d + 1) w c = .ok (.list ys) := by
  obtain ⟨ws, hws, hback⟩ := hitems
  have hcol : c.itemColumn = i := by simp [Column.itemColumn, hitem]
  refine ⟨.list ws, ?_, ?_⟩
  · rw [toWireAt.eq_def]
    simp only [chooseTo_builtin hto hc htag (by decide), hcol]
    simp [Value.items, hws, bind, Except.bind]
  · rw [fromWireAt.eq_def]
    simp only [chooseFrom_builtin hfrom hc htag (by decide), hcol, hback]
    rfl

/-- The round trip, at every depth that the nesting of arrays fits in:
induction on the levels of arrays, each level by `trip_level`. -/
theorem fromWireAt_toWireAt (n : Nat) :
    ∀ {c : Column} {s t : Value}, c.convertsByTag = true → Stores n c s t → ∀ d, n ≤ d →
      ∃ w, r.toWireAt d s c = .ok w ∧ r.fromWireAt d w c = .ok t := by
  induction n with
  | zero =>
    intro c s t hc hst d hd
    -- no array sits at level zero
    exact trip_level hto hfrom (fun h => absurd h (Nat.succ_ne_zero _).symm) hc hst d hd
  | succ m ih =>
    intro c s t hc hst d hd
    refine trip_level hto hfrom ?_ hc hst d hd
    intro m' c' i xs ys hm htag hitem hi hc' hitems d' hd'
    obtain rfl : m' = m := by omega
    obtain ⟨d'', rfl⟩ : ∃ d'', d' = d'' + 1 := ⟨d' - 1, by omega⟩
    exact trip_array hto hfrom htag hitem hc'
      (trip_items (fun hx e he => ih hi hx e he) (by omega) hitems)

/-- With nothing registered, a value of the storage domain of a column that
converts by its tag comes back from the API in its normal form, when its
arrays nest no deeper than conversions descend. -/
theorem fromWire_toWire {c : Column} (hc : c.convertsByTag = true) {n : Nat}
    (hn : n ≤ conversionDepth) {s t : Value} (hst : Stores n c s t) :
    ∃ w, r.toWire s c = .ok w ∧ r.fromWire w c = .ok t :=
  fromWireAt_toWireAt hto hfrom n hc hst conversionDepth hn

end Trip

/-! ### Big integers under a double's type name -/

/-- With nothing registered, a column tagged `bigint` whose type class has no
conversion towards the API of its own writes an integer as its text. -/
theorem toWire_bigint {r : Registry} (hto : r.toWireConversions = []) {c : Column}
    (htag : c.tag = "bigint") (hty : Converter.toWireKeys.contains c.columnType = false)
    (n : Int) : r.toWire (.int n) c = .ok (.str (toString n)) := by
  have hchoose : Converter.choose r.toWireConversions Converter.toWireKeys c =
      some (.builtin "bigint") := by
    rw [hto, Converter.choose_unregistered, hty, htag]
    rfl
  rw [toWire, toWireAt.eq_def]
  split
  · contradiction
  · simp only [hchoose]
    rfl

/-- With nothing registered, a column whose type class is named `float` reads
a text as the double it spells, and refuses a text that spells none. -/
theorem fromWire_float_typed {r : Registry} (hfrom : r.fromWireConversions = []) {c : Column}
    (hty : c.columnType = "float") (s : String) :
    r.fromWire (.str s) c =
      (Number.readFloat? s).elim (.error (Remap.invalid "Float" c (.str s))) (.ok ∘ .float) := by
  have hchoose : Converter.choose r.fromWireConversions Converter.fromWireKeys c =
      some (.builtin "float") := by
    rw [hfrom, Converter.choose_unregistered, hty]
    rfl
  rw [fromWire, fromWireAt.eq_def]
  split
  · contradiction
  · simp only [hchoose]
    cases Number.readFloat? s <;> rfl

/-- A big-integer column whose type class is named `float` writes an integer
out as its text and reads that text back as a double: no integer comes back
as an integer. -/
theorem bigint_round_trip_float_typed {r : Registry} (hto : r.toWireConversions = [])
    (hfrom : r.fromWireConversions = []) {c : Column} (htag : c.tag = "bigint")
    (hty : c.columnType = "float") (n : Int) :
    r.toWire (.int n) c = .ok (.str (toString n)) ∧
      ∀ m, r.fromWire (.str (toString n)) c ≠ .ok (.int m) := by
  refine ⟨toWire_bigint hto htag (by rw [hty]; rfl) n, fun m => ?_⟩
  rw [fromWire_float_typed hfrom hty]
  cases Number.readFloat? (toString n) <;> simp

/-! ### The round trip and where it breaks -/

/-- With nothing registered, a value of the storage domain of a column that
converts by its tag comes back from the API in its normal form, when its
arrays nest no deeper than conversions descend. A big-integer column whose
type class is named `float` converts by no tag: it writes an integer out as
its text and reads no integer back. -/
theorem storage_round_trip {r : Registry} (hto : r.toWireConversions = [])
    (hfrom : r.fromWireConversions = []) :
    (∀ {c : Column}, c.convertsByTag = true → ∀ {n : Nat} {s t : Value}, n ≤ conversionDepth →
        Stores n c s t → ∃ w, r.toWire s c = .ok w ∧ r.fromWire w c = .ok t) ∧
      ∀ {c : Column}, c.tag = "bigint" → c.columnType = "float" → ∀ k : Int,
        r.toWire (.int k) c = .ok (.str (toString k)) ∧ ∀ m, r.fromWire (.str (toString k)) c ≠ .ok (.int m) :=
  ⟨fun hc _ _ _ hn hst => fromWire_toWire hto hfrom hc hn hst,
    fun htag hty k => bigint_round_trip_float_typed hto hfrom htag hty k⟩

/-- A big-integer column of a ledger, declared with a type class of its own. -/
def balanceColumn : Column :=
  { name := "balance", table := "ledger", tag := "bigint", columnType := "BigInteger" }

/-- A ledger amount: a big integer declared with a double's type class. -/
def amountColumn : Column :=
  { name := "amount", table := "ledger", tag := "bigint", columnType := "float" }

/-- The largest big integer comes back from a ledger balance, and not from a
ledger amount. -/
theorem balance_round_trip_int64Max :
    (∃ w, ({} : Registry).toWire (.int Remap.int64Max) balanceColumn = .ok w ∧
      ({} : Registry).fromWire w balanceColumn = .ok (.int Remap.int64Max)) ∧
    ({} : Registry).toWire (.int Remap.int64Max) amountColumn = .ok (.str (toString Remap.int64Max)) ∧
      ∀ m, ({} : Registry).fromWire (.str (toString Remap.int64Max)) amountColumn ≠ .ok (.int m) :=
  ⟨(storage_round_trip rfl rfl).1 (by decide) (Nat.zero_le _) (.bigint rfl (by decide) le_rfl),
    (storage_round_trip rfl rfl).2 rfl rfl Remap.int64Max⟩

end Registry

end TableGraph
