import Mathlib
import TableGraph.Proofs.RoundTrip
import TableGraph.GraphQL.Execute
import TableGraph.Registry.Resolve

/-!
# Stored values the API can serve

A column's output field is typed by the column's annotation
(`Registry.annotate`), and a selected cell is served as the column's value
converted towards the API (`Registry.toWire`). With nothing registered, the
type accepts the converted value for every value the column stores.

`Accepts t w` is what serializing asks of a value: a scalar or enumeration
value is written by `GraphQL.serializeLeaf`, and not as null; the items of
a list are no nulls, as the items of every list type are non-null; a point
has finite coordinates. `Stored n c s` is the storage domain of a column,
tag by tag, with arrays nested at most `n` deep.

Three conditions are needed; the samples at the end show the first two
failing:

* an array holds no null item, as the type of its items is non-null
  (`Registry.null_score_refused`);
* the member names of an enumeration's values are apart: distinct, and
  names the enumeration class makes members of. A value whose member name
  a later value takes over has no member left, and its field refuses it
  (`Registry.option_member_shadowed`);
* the column converts by its tag (`Column.convertsByTag`): its type class is
  not itself the key of another built-in conversion.

## Main results

* `enumTypeOf_covers` — with member names apart, the generated enumeration
  has a member for every stored value.
* `Registry.serves_of_stored` — every value of the storage domain is
  converted into a value, not null, that the column's resolved type accepts.
* `Registry.toWire_holds` — every cell a column stores, null included, is
  converted into a value its output field holds.
-/

namespace TableGraph

/-! ## Enumeration members -/

namespace EnumClass

/-- A name that the enumeration class `cls` makes a member name: not private
to the class, and without single or double underscores at both ends. -/
def isPlain (cls n : String) : Bool := !isPrivate cls n && !isSunder n && !isDunder n

/-- Before any `_ignore_`, a plain name becomes a member name, and a member
with its value unless an earlier member has that value. -/
theorem Draft.define_plain {cls n v : String} {d : Draft} (hn : isPlain cls n = true)
    (hig : d.ignored = []) :
    d.define cls n v =
      .ok { d with
            names := d.names ++ [n]
            members := if d.members.any (·.2 == v) then d.members else d.members ++ [(n, v)] } := by
  simp only [isPlain, Bool.and_eq_true, Bool.not_eq_true'] at hn
  obtain ⟨⟨hpriv, hsunder⟩, hdunder⟩ := hn
  simp [Draft.define, hpriv, hsunder, hdunder, hig]

/-- Defining plain names one after another: no name is set aside, earlier
members stay, and every value defined has a member. -/
theorem foldlM_define_plain {cls : String} :
    ∀ (entries : List (String × String)) (d : Draft), d.ignored = [] →
      (∀ p ∈ entries, isPlain cls p.1 = true) →
      ∃ d', entries.foldlM (fun d (p : String × String) => d.define cls p.1 p.2) d = .ok d' ∧
        d'.ignored = [] ∧ (∀ q ∈ d.members, q ∈ d'.members) ∧
        ∀ p ∈ entries, ∃ m, (m, p.2) ∈ d'.members
  | [], d, hig, _ => ⟨d, rfl, hig, fun _ hq => hq, by simp⟩
  | (n, v) :: rest, d, hig, hplain => by
    have hn : isPlain cls n = true := hplain (n, v) (by simp)
    let d₁ : Draft :=
      { d with
        names := d.names ++ [n]
        members := if d.members.any (·.2 == v) then d.members else d.members ++ [(n, v)] }
    obtain ⟨d', hfold, hig', hkeep, hcover⟩ :=
      foldlM_define_plain rest d₁ hig fun p hp => hplain p (by simp [hp])
    -- the value `v` has a member after its own definition
    have hv : ∃ m, (m, v) ∈ d₁.members := by
      by_cases hany : d.members.any (·.2 == v) = true
      · obtain ⟨q, hq, hqv⟩ := List.any_eq_true.mp hany
        have hq' : (q.1, v) = q := Prod.ext rfl (beq_iff_eq.mp hqv).symm
        exact ⟨q.1, by simpa [d₁, hany, hq'] using hq⟩
      · exact ⟨n, by simp [d₁, hany]⟩
    refine ⟨d', ?_, hig', ?_, ?_⟩
    · rw [List.foldlM_cons, Draft.define_plain hn hig]
      exact hfold
    · intro q hq
      apply hkeep
      by_cases hany : d.members.any (·.2 == v) = true <;> simp [d₁, hany, hq]
    · intro p hp
      rcases List.mem_cons.mp hp with rfl | hp
      · obtain ⟨m, hm⟩ := hv
        exact ⟨m, hkeep _ hm⟩
      · exact hcover p hp

/-- Completing a class gives the members defined, when it succeeds. -/
theorem Draft.finish_ok {d : Draft} {ms : List (String × String)} (h : d.finish = .ok ms) :
    ms = d.members := by
  unfold Draft.finish at h
  split_ifs at h
  split at h
  · injection h with h
    exact h.symm
  · simp only at h
    split_ifs at h
    injection h with h
    exact h.symm

/-- Every value given a plain name has a member in the class made of them. -/
theorem members_cover {cls : String} {entries ms : List (String × String)}
    (hplain : ∀ p ∈ entries, isPlain cls p.1 = true) (h : members cls entries = .ok ms) :
    ∀ p ∈ entries, ∃ m, (m, p.2) ∈ ms := by
  obtain ⟨d, hfold, -, -, hcover⟩ := foldlM_define_plain entries {} rfl hplain
  simp only [members, hfold, bind, Except.bind] at h
  rw [Draft.finish_ok h]
  exact hcover

end EnumClass

/-- Adding members under names none of which is taken yet appends them. -/
theorem foldl_addMember {values : List (String × Nat)} (name : String → Nat → String)
    (hnames : (values.map fun p => name p.1 p.2).Nodup) :
    ∀ ms : List (String × String), (∀ p ∈ values, ∀ q ∈ ms, q.1 ≠ name p.1 p.2) →
      values.foldl (fun ms (p : String × Nat) => addMember ms (name p.1 p.2) p.1) ms =
        ms ++ values.map fun p => (name p.1 p.2, p.1) := by
  induction values with
  | nil => simp
  | cons p rest ih =>
    intro ms hfree
    obtain ⟨hhead, hrest⟩ := List.nodup_cons.mp hnames
    have hnew : ms.any (·.1 == name p.1 p.2) = false := by
      simpa using fun q hq => hfree p (by simp) q hq
    rw [List.foldl_cons, addMember, hnew, if_neg Bool.false_ne_true, ih hrest]
    · simp
    · intro p' hp' q hq
      rcases List.mem_append.mp hq with hq | hq
      · exact hfree p' (by simp [hp']) q hq
      · -- the name just added is not among the names still to come
        obtain rfl := List.mem_singleton.mp hq
        intro heq
        exact hhead (List.mem_map.mpr ⟨p', hp', heq.symm⟩)


namespace Column

/-- The member names an enumeration column gives its stored values are
pairwise distinct, and each is a name its class makes a member name. -/
def MembersApart (c : Column) : Prop :=
  (c.enumList.zipIdx.map fun p => enumMemberName p.1 p.2).Nodup ∧
    ∀ p ∈ c.enumList.zipIdx, EnumClass.isPlain (enumTypeName c) (enumMemberName p.1 p.2) = true

end Column

/-- With member names apart, the enumeration generated for a column has a
member for every stored value. -/
theorem enumTypeOf_covers {c : Column} {e : EnumType} (hc : c.MembersApart)
    (h : enumTypeOf c = .ok e) {s : String} (hs : s ∈ c.enumList) : ∃ m, (m, s) ∈ e.members := by
  have hentries : c.enumList.zipIdx.foldl
      (fun ms (p : String × Nat) => addMember ms (enumMemberName p.1 p.2) p.1) [] =
      c.enumList.zipIdx.map fun p => (enumMemberName p.1 p.2, p.1) := by
    simpa using foldl_addMember enumMemberName hc.1 [] (by simp)
  -- the entries are folded with a pattern-matching step, the same step as `foldl_addMember`'s
  change (EnumClass.members (enumTypeName c) (c.enumList.zipIdx.foldl
      (fun ms (p : String × Nat) => addMember ms (enumMemberName p.1 p.2) p.1) []) >>= fun ms =>
        pure { name := enumTypeName c, values := c.enumList, members := ms }) = .ok e at h
  rw [hentries] at h
  cases hms : EnumClass.members (enumTypeName c) (c.enumList.zipIdx.map fun p => (enumMemberName p.1 p.2, p.1)) with
  | error f => simp [hms, bind, Except.bind] at h
  | ok ms =>
    simp only [hms, bind, Except.bind, pure, Except.pure, Except.ok.injEq] at h
    subst h
    have hplain : ∀ q ∈ c.enumList.zipIdx.map (fun p => (enumMemberName p.1 p.2, p.1)),
        EnumClass.isPlain (enumTypeName c) q.1 = true := by
      simp only [List.mem_map]
      rintro q ⟨p, hp, rfl⟩
      exact hc.2 p hp
    obtain ⟨i, hi⟩ : ∃ i, (s, i) ∈ c.enumList.zipIdx := by
      obtain ⟨i, hi⟩ := List.mem_iff_getElem?.mp hs
      exact ⟨i, List.mk_mem_zipIdx_iff_getElem?.mpr hi⟩
    exact EnumClass.members_cover hplain hms _ (List.mem_map.mpr ⟨(s, i), hi, rfl⟩)

/-! ## Output types and the values they accept -/

namespace ApiType

/-- The types whose values the serializer writes directly: scalars and
enumerations. -/
def isLeaf : ApiType → Bool
  | .int | .float | .string | .boolean | .enumeration _ => true
  | _ => false

/-- The named type that serializes the values of a leaf type: the scalar of
its name, or its enumeration as the generated schema defines it. -/
def leafType : ApiType → GraphQL.NamedType
  | .enumeration e =>
    { name := e.name, definition := .enum (e.members.map fun (m, v) => { name := m, value := v }) }
  | t => { name := t.baseName, definition := .scalar }

end ApiType

/-- `Accepts t w`: a field of output type `t` serializes the value `w`
converted towards the API. A leaf is written by its serializer, and not as
null; the items of a list are no nulls, as list items are non-null; a point
has two finite coordinates, which its `x` and `y` fields of type `Float!`
write. -/
inductive Accepts : ApiType → Value → Prop
  | leaf {t : ApiType} {w : Value} {j : Json} : t.isLeaf = true →
      GraphQL.serializeLeaf t.leafType w = .ok j → j ≠ .null → Accepts t w
  | list {t : ApiType} {ws : List Value} : (∀ w ∈ ws, w ≠ .none) → (∀ w ∈ ws, Accepts t w) →
      Accepts (.list t) (.list ws)
  | point {x y : Float} : x.isFinite = true → y.isFinite = true →
      Accepts .point (.dict [("x", .float x), ("y", .float y)])

/-- What a column's cell may hold towards the API: null when the annotated
type admits null, else a value the type accepts. -/
def Annotated.Holds (a : Annotated) : Value → Prop
  | .none => a.nullable = true
  | w => Accepts a.type w

/-- A cell holds a value other than null that its type accepts. -/
theorem Annotated.holds_of_accepts {a : Annotated} {w : Value} (hw : w ≠ .none)
    (h : Accepts a.type w) : a.Holds w := by
  cases w <;> first | exact absurd rfl hw | exact h

namespace Accepts

theorem int {k : Int} (hlo : GraphQL.int32Min ≤ k) (hhi : k ≤ GraphQL.int32Max) :
    Accepts .int (.int k) :=
  .leaf (j := .number (toString k)) rfl (by simp [GraphQL.serializeLeaf, ApiType.leafType,
    ApiType.baseName, hlo, hhi]) (by simp)

theorem float {x : Float} (hx : x.isFinite = true) : Accepts .float (.float x) :=
  .leaf (j := GraphQL.floatJson x) rfl (by simp [GraphQL.serializeLeaf, ApiType.leafType,
    ApiType.baseName, hx]) (by simp [GraphQL.floatJson])

theorem boolean (b : Bool) : Accepts .boolean (.bool b) :=
  .leaf (j := .bool b) rfl (by simp [GraphQL.serializeLeaf, ApiType.leafType, ApiType.baseName])
    (by simp)

theorem string (s : String) : Accepts .string (.str s) :=
  .leaf (j := .string s) rfl (by simp [GraphQL.serializeLeaf, ApiType.leafType, ApiType.baseName])
    (by simp)

/-- An enumeration accepts the value of each of its members. -/
theorem member {e : EnumType} {m s : String} (h : (m, s) ∈ e.members) :
    Accepts (.enumeration e) (.str s) := by
  obtain ⟨ev, hfind⟩ : ∃ ev, ((e.members.map fun (p : String × String) =>
      ({ name := p.1, value := p.2 } : GraphQL.EnumValue)).find? fun ev => ev.value == s) = some ev := by
    apply Option.isSome_iff_exists.mp
    rw [List.find?_isSome]
    exact ⟨{ name := m, value := s }, List.mem_map.mpr ⟨(m, s), h, rfl⟩, by simp⟩
  exact .leaf (j := .string ev.name) rfl (by simp [GraphQL.serializeLeaf, ApiType.leafType, hfind])
    (by simp)

end Accepts

/-! ## Stored values towards the API -/

/-- `Stored n c s`: column `c` stores `s`, a value other than null, with
arrays nested at most `n` deep. Integers of an `integer` column fit in 32
bits and doubles are finite; big integers, decimals, UUIDs, date-times,
dates, times and byte strings are any of their kind; a JSON document is a
value written as JSON; a vector is a list of finite doubles and a point a
pair of them; an enumeration value is one of the column's stored values,
given as text or as a member, and its column's member names are apart; a
text column without stored values holds any text; and an array holds values
of its item column, whose conversions go by its tag — so no item is null. -/
inductive Stored : Nat → Column → Value → Prop
  | integer {n c k} : c.tag = "integer" → GraphQL.int32Min ≤ k → k ≤ GraphQL.int32Max →
      Stored n c (.int k)
  | float {n c} {x : Float} : c.tag = "float" → x.isFinite = true → Stored n c (.float x)
  | boolean {n c b} : c.tag = "boolean" → Stored n c (.bool b)
  | bigint {n c k} : c.tag = "bigint" → Stored n c (.int k)
  | decimal {n c x} : c.tag = "decimal" → Stored n c (.decimal x)
  | uuid {n c u} : c.tag = "uuid" → Stored n c (.uuid u)
  | timestamp {n c x} : c.tag = "timestamp" → Stored n c (.datetime x)
  | date {n c x} : c.tag = "date" → Stored n c (.date x)
  | time {n c x} : c.tag = "time" → Stored n c (.time x)
  | binary {n c bs} : c.tag = "binary" → Stored n c (.bytes bs)
  | json {n c v} : c.tag = "json" → v ≠ .none → (∃ j, v.toJson? true = .ok j) → Stored n c v
  | vector {n c} {fs : List Float} : c.tag = "vector" → (∀ x ∈ fs, x.isFinite = true) →
      Stored n c (.list (fs.map .float))
  | geometry {n c} {x y : Float} : c.tag = "geometry" → x.isFinite = true → y.isFinite = true →
      Stored n c (.tuple [.float x, .float y])
  | enumValue {n c v s} : c.tag = "enum" ∨ c.tag = "text" → c.MembersApart →
      Remap.enumToWire c v = .str s → s ∈ c.enumList → Stored n c v
  | text {n c s} : c.tag = "text" → c.enumList = [] → Stored n c (.str s)
  | array {n c i xs} : c.tag = "array" → c.item = some i → i.convertsByTag = true →
      (∀ x ∈ xs, Stored n i x) → Stored (n + 1) c (.list xs)

/-- A walk whose every step gives a value with a property gives a list of
such values. -/
theorem exists_mapM_ok {α β ε : Type} {xs : List α} {f : α → Except ε β} {P : β → Prop}
    (h : ∀ x ∈ xs, ∃ y, f x = .ok y ∧ P y) : ∃ ys, xs.mapM f = .ok ys ∧ ∀ y ∈ ys, P y := by
  induction xs with
  | nil => exact ⟨[], rfl, by simp⟩
  | cons x xs ih =>
    obtain ⟨y, hy, hP⟩ := h x (by simp)
    obtain ⟨ys, hys, hPs⟩ := ih fun x' hx' => h x' (by simp [hx'])
    refine ⟨y :: ys, ?_, ?_⟩
    · simp [List.mapM_cons, hy, hys, bind, Except.bind, pure, Except.pure]
    · intro y' hy'
      rcases List.mem_cons.mp hy' with rfl | hy'
      · exact hP
      · exact hPs y' hy'

namespace Registry

/-- `Serves r d c s t`: the stored value `s` of column `c`, converted towards
the API at depth `d`, is a value, not null, that type `t` accepts. -/
def Serves (r : Registry) (d : Nat) (c : Column) (s : Value) (t : ApiType) : Prop :=
  ∃ w, r.toWireAt d s c = .ok w ∧ w ≠ .none ∧ Accepts t w

section ByTag

variable {r : Registry} {c : Column} {t : Resolved} {d : Nat}

theorem serves_integer (hty : r.types = []) (hto : r.toWireConversions = [])
    (hc : c.convertsByTag = true) (htag : c.tag = "integer") {k : Int} (hlo : GraphQL.int32Min ≤ k)
    (hhi : k ≤ GraphQL.int32Max) (hres : r.resolve c false = .ok t) : r.Serves d c (.int k) t.type := by
  rw [resolve] at hres
  simp [hty, find?, htag] at hres
  subst hres
  refine ⟨.int k, ?_, by simp, Accepts.int hlo hhi⟩
  rw [toWireAt.eq_def]
  simp only [chooseTo_none hto hc htag (by decide)]

theorem serves_float (hty : r.types = []) (hto : r.toWireConversions = [])
    (hc : c.convertsByTag = true) (htag : c.tag = "float") {x : Float} (hx : x.isFinite = true)
    (hres : r.resolve c false = .ok t) : r.Serves d c (.float x) t.type := by
  rw [resolve] at hres
  simp [hty, find?, htag] at hres
  subst hres
  refine ⟨.float x, ?_, by simp, Accepts.float hx⟩
  rw [toWireAt.eq_def]
  simp only [chooseTo_none hto hc htag (by decide)]

theorem serves_boolean (hty : r.types = []) (hto : r.toWireConversions = [])
    (hc : c.convertsByTag = true) (htag : c.tag = "boolean") (b : Bool)
    (hres : r.resolve c false = .ok t) : r.Serves d c (.bool b) t.type := by
  rw [resolve] at hres
  simp [hty, find?, htag] at hres
  subst hres
  refine ⟨.bool b, ?_, by simp, Accepts.boolean b⟩
  rw [toWireAt.eq_def]
  simp only [chooseTo_none hto hc htag (by decide)]

/-- The tags whose values travel as text: when their conversion writes a
text, `String` accepts it. -/
theorem serves_text_of (hty : r.types = []) {key : String} (htag : c.tag = key)
    (hkey : key ∈ ["bigint", "decimal", "uuid", "timestamp", "date", "time", "json"])
    (hres : r.resolve c false = .ok t) {v : Value} {s : String} (hw : r.toWireAt d v c = .ok (.str s)) :
    r.Serves d c v t.type := by
  have htype : t.type = .string := by
    rw [resolve] at hres
    simp only [List.mem_cons, List.not_mem_nil, or_false] at hkey
    rcases hkey with rfl | rfl | rfl | rfl | rfl | rfl | rfl <;>
      simp [hty, find?, htag] at hres <;> rw [← hres]
  rw [htype]
  exact ⟨.str s, hw, by simp, Accepts.string s⟩

/-- Big integers, decimals and UUIDs are written as their text. -/
theorem toWireAt_plainText (hto : r.toWireConversions = []) (hc : c.convertsByTag = true)
    {key : String} (htag : c.tag = key) (hkey : key ∈ ["bigint", "decimal", "uuid"]) {v : Value}
    (hv : v ≠ .none) (hcodes : ∀ cs, v ≠ .strCodes cs) :
    r.toWireAt d v c = .ok (.str v.text) := by
  have hchoose := chooseTo_builtin (r := r) hto hc htag (by
    simp only [List.mem_cons, List.not_mem_nil, or_false] at hkey
    rcases hkey with rfl | rfl | rfl <;> decide)
  rw [toWireAt.eq_def]
  split
  · contradiction
  · simp only [hchoose]
    simp only [List.mem_cons, List.not_mem_nil, or_false] at hkey
    have htext : v.asText = .str v.text := by
      cases v <;> first | rfl | exact absurd rfl (hcodes _)
    rcases hkey with rfl | rfl | rfl <;> simp [htext]

theorem toWireAt_timestamp (hto : r.toWireConversions = []) (hc : c.convertsByTag = true)
    (htag : c.tag = "timestamp") (x : Time.DateTime) :
    r.toWireAt d (.datetime x) c = .ok (.str x.isoText) := by
  rw [toWireAt.eq_def]
  simp only [chooseTo_builtin hto hc htag (by decide)]
  rfl

theorem toWireAt_date (hto : r.toWireConversions = []) (hc : c.convertsByTag = true)
    (htag : c.tag = "date") (x : Time.Date) : r.toWireAt d (.date x) c = .ok (.str x.isoText) := by
  rw [toWireAt.eq_def]
  simp only [chooseTo_builtin hto hc htag (by decide)]
  rfl

theorem toWireAt_time (hto : r.toWireConversions = []) (hc : c.convertsByTag = true)
    (htag : c.tag = "time") (x : Time.TimeOfDay) : r.toWireAt d (.time x) c = .ok (.str x.isoText) := by
  rw [toWireAt.eq_def]
  simp only [chooseTo_builtin hto hc htag (by decide)]
  rfl

/-- A JSON document is written as its text. -/
theorem toWireAt_json (hto : r.toWireConversions = []) (hc : c.convertsByTag = true)
    (htag : c.tag = "json") {v : Value} (hv : v ≠ .none) {j : Json} (hj : v.toJson? true = .ok j) :
    r.toWireAt d v c = .ok (.str (Json.render "," ":" true j)) := by
  rw [toWireAt.eq_def]
  split
  · contradiction
  · simp only [chooseTo_builtin hto hc htag (by decide)]
    simp [Remap.jsonText, hj]

/-- A byte string is written as its list of bytes, which `[Int!]` accepts. -/
theorem serves_binary (hty : r.types = []) (hto : r.toWireConversions = [])
    (hc : c.convertsByTag = true) (htag : c.tag = "binary") (bs : List UInt8)
    (hres : r.resolve c false = .ok t) : r.Serves d c (.bytes bs) t.type := by
  rw [resolve] at hres
  simp [hty, find?, htag] at hres
  subst hres
  refine ⟨.list (bs.map fun b => .int b.toNat), ?_, by simp, .list (by simp) ?_⟩
  · rw [toWireAt.eq_def]
    simp only [chooseTo_builtin hto hc htag (by decide)]
    rfl
  · intro w hw
    obtain ⟨b, -, rfl⟩ := List.mem_map.mp hw
    have hb := b.toNat_lt
    exact Accepts.int (by simp only [GraphQL.int32Min]; omega) (by simp only [GraphQL.int32Max]; omega)

/-- A vector of finite doubles is written as itself, which `[Float!]`
accepts. -/
theorem serves_vector (hty : r.types = []) (hto : r.toWireConversions = [])
    (hc : c.convertsByTag = true) (htag : c.tag = "vector") {fs : List Float}
    (hfs : ∀ x ∈ fs, x.isFinite = true) (hres : r.resolve c false = .ok t) :
    r.Serves d c (.list (fs.map .float)) t.type := by
  rw [resolve] at hres
  simp [hty, find?, htag] at hres
  subst hres
  refine ⟨.list (fs.map .float), ?_, by simp, .list (by simp) ?_⟩
  · rw [toWireAt.eq_def]
    simp only [chooseTo_builtin hto hc htag (by decide)]
    simp only [Remap.floats, Value.items, bind, Except.bind, Value.mapM_toFloat_floats]
    rfl
  · intro w hw
    obtain ⟨x, hx, rfl⟩ := List.mem_map.mp hw
    exact Accepts.float (hfs x hx)

/-- A point of finite coordinates is written as a pair or as a point
object, after the value remapper's geometry mode, and the type the type
registry's mode gives accepts it when the two modes agree. -/
theorem serves_geometry (hty : r.types = []) (hto : r.toWireConversions = [])
    (hmodes : r.typeRegistry.geometryMode = r.remapper.geometryMode)
    (hc : c.convertsByTag = true) (htag : c.tag = "geometry") {x y : Float}
    (hx : x.isFinite = true) (hy : y.isFinite = true) (hres : r.resolve c false = .ok t) :
    r.Serves d c (.tuple [.float x, .float y]) t.type := by
  have hwire : r.toWireAt d (.tuple [.float x, .float y]) c =
      .ok (if tupleGeometry r.remapper.geometryMode c then .list [.float x, .float y]
        else .dict [("x", .float x), ("y", .float y)]) := by
    rw [toWireAt.eq_def]
    simp only [chooseTo_builtin hto hc htag (by decide)]
    simp [Remap.geometryToWire, Remap.coordinates, Value.index, Value.toFloat, bind, Except.bind, pure,
      Except.pure]
  rw [resolve] at hres
  simp [hty, find?, htag, hmodes] at hres
  -- the mode decides both the type and the value
  cases hmode : tupleGeometry r.remapper.geometryMode c <;> simp only [hmode, Bool.false_eq_true, if_false,
    if_true, Except.ok.injEq] at hres <;> subst hres
  · refine ⟨.dict [("x", .float x), ("y", .float y)], by simpa [hmode] using hwire, by simp, ?_⟩
    simpa using Accepts.point hx hy
  · refine ⟨.list [.float x, .float y], by simpa [hmode] using hwire, by simp, ?_⟩
    simp only
    refine .list (by simp) ?_
    intro w hw
    rcases List.mem_pair.mp hw with rfl | rfl
    · exact Accepts.float hx
    · exact Accepts.float hy

/-- An enumeration column with stored values resolves to its generated
enumeration. -/
theorem enumResolved_ok {c : Column} (hne : c.enumList ≠ []) (h : enumResolved c = .ok t) :
    ∃ e, enumTypeOf c = .ok e ∧ t.type = .enumeration e := by
  have hempty : c.enumList.isEmpty = false := List.isEmpty_eq_false_iff.mpr hne
  simp only [enumResolved, hempty, Bool.false_eq_true, if_false] at h
  cases he : enumTypeOf c with
  | error f => simp [he, bind, Except.bind] at h
  | ok e =>
    simp only [he, bind, Except.bind, pure, Except.pure, Except.ok.injEq] at h
    exact ⟨e, rfl, by rw [← h]⟩

/-- A stored enumeration value is written as its text, which the generated
enumeration accepts when member names are apart. -/
theorem serves_enumValue (hty : r.types = []) (hto : r.toWireConversions = [])
    (hc : c.convertsByTag = true) (htag : c.tag = "enum" ∨ c.tag = "text") (hapart : c.MembersApart)
    {v : Value} {s : String} (hv : Remap.enumToWire c v = .str s) (hs : s ∈ c.enumList)
    (hres : r.resolve c false = .ok t) : r.Serves d c v t.type := by
  have hne : c.enumList ≠ [] := List.ne_nil_of_mem hs
  have hempty : c.enumList.isEmpty = false := List.isEmpty_eq_false_iff.mpr hne
  have hnone : v ≠ .none := by
    rintro rfl
    simp [Remap.enumToWire] at hv
  have henum : enumResolved c = .ok t := by
    rw [resolve] at hres
    rcases htag with htag | htag <;> simpa [hty, find?, htag, hempty] using hres
  obtain ⟨e, he, htype⟩ := enumResolved_ok hne henum
  obtain ⟨m, hm⟩ := enumTypeOf_covers hapart he hs
  refine ⟨.str s, ?_, by simp, htype ▸ Accepts.member hm⟩
  rw [toWireAt.eq_def]
  split
  · contradiction
  · rcases htag with htag | htag <;>
      simp only [chooseTo_builtin hto hc htag (by decide)] <;> exact congrArg _ hv

/-- Without stored enumeration values, a text column writes a text as it is,
which `String` accepts. -/
theorem serves_text (hty : r.types = []) (hto : r.toWireConversions = [])
    (hc : c.convertsByTag = true) (htag : c.tag = "text") (hempty : c.enumList = []) (s : String)
    (hres : r.resolve c false = .ok t) : r.Serves d c (.str s) t.type := by
  rw [resolve] at hres
  simp [hty, find?, htag, hempty] at hres
  subst hres
  refine ⟨.str s, ?_, by simp, Accepts.string s⟩
  rw [toWireAt.eq_def]
  simp only [chooseTo_builtin hto hc htag (by decide)]
  rfl

/-- An array whose items are served at the depth below is served: its items
come out one by one, none of them null, as the item type's list. -/
theorem serves_array (hty : r.types = []) (hto : r.toWireConversions = [])
    (hc : c.convertsByTag = true) (htag : c.tag = "array") {i : Column} (hitem : c.item = some i)
    {xs : List Value} (hres : r.resolve c false = .ok t)
    (hitems : ∀ u : Resolved, r.resolve i false = .ok u → ∀ x ∈ xs, r.Serves d i x u.type) :
    r.Serves (d + 1) c (.list xs) t.type := by
  obtain ⟨u, hu, htype⟩ : ∃ u, r.resolve i false = .ok u ∧ t.type = .list u.type := by
    rw [resolve] at hres
    simp only [hty, find?, List.find?_nil, Option.map_none, Option.orElse_eq_orElse,
      Option.orElse_none, htag] at hres
    split at hres
    · next h => rw [hitem] at h; cases h
    · next i' h =>
      rw [hitem] at h
      cases h
      cases hi : r.resolve i false with
      | error f => simp [hi, bind, Except.bind] at hres
      | ok u =>
        simp only [hi, bind, Except.bind, pure, Except.pure, Except.ok.injEq] at hres
        exact ⟨u, rfl, by rw [← hres]⟩
  obtain ⟨ws, hws, hacc⟩ := exists_mapM_ok fun x hx => hitems u hu x hx
  have hcol : c.itemColumn = i := by simp [Column.itemColumn, hitem]
  refine ⟨.list ws, ?_, by simp, htype ▸ .list (fun w hw => (hacc w hw).1) fun w hw => (hacc w hw).2⟩
  rw [toWireAt.eq_def]
  simp only [chooseTo_builtin hto hc htag (by decide), hcol]
  simp [Value.items, hws, bind, Except.bind, pure, Except.pure]

end ByTag

/-- Every value of a column's storage domain is served at a depth its
arrays fit in: induction on the storage domain, one lemma per tag, the
arrays by their items one level down. -/
theorem serves_of_stored {r : Registry} (hty : r.types = []) (hto : r.toWireConversions = [])
    (hmodes : r.typeRegistry.geometryMode = r.remapper.geometryMode) {n : Nat} {c : Column} {s : Value} (hs : Stored n c s) :
    c.convertsByTag = true → ∀ d, n ≤ d → ∀ t : Resolved, r.resolve c false = .ok t →
      r.Serves d c s t.type := by
  induction hs with
  | integer htag hlo hhi => exact fun hc _ _ _ hres => serves_integer hty hto hc htag hlo hhi hres
  | float htag hx => exact fun hc _ _ _ hres => serves_float hty hto hc htag hx hres
  | boolean htag => exact fun hc _ _ _ hres => serves_boolean hty hto hc htag _ hres
  | bigint htag =>
    exact fun hc _ _ _ hres => serves_text_of hty htag (by simp) hres
      (toWireAt_plainText hto hc htag (by simp) (by simp) (by simp))
  | decimal htag =>
    exact fun hc _ _ _ hres => serves_text_of hty htag (by simp) hres
      (toWireAt_plainText hto hc htag (by simp) (by simp) (by simp))
  | uuid htag =>
    exact fun hc _ _ _ hres => serves_text_of hty htag (by simp) hres
      (toWireAt_plainText hto hc htag (by simp) (by simp) (by simp))
  | timestamp htag =>
    exact fun hc _ _ _ hres => serves_text_of hty htag (by simp) hres (toWireAt_timestamp hto hc htag _)
  | date htag =>
    exact fun hc _ _ _ hres => serves_text_of hty htag (by simp) hres (toWireAt_date hto hc htag _)
  | time htag =>
    exact fun hc _ _ _ hres => serves_text_of hty htag (by simp) hres (toWireAt_time hto hc htag _)
  | binary htag => exact fun hc _ _ _ hres => serves_binary hty hto hc htag _ hres
  | json htag hv hj =>
    intro hc _ _ _ hres
    obtain ⟨j, hj⟩ := hj
    exact serves_text_of hty htag (by simp) hres (toWireAt_json hto hc htag hv hj)
  | vector htag hfs => exact fun hc _ _ _ hres => serves_vector hty hto hc htag hfs hres
  | geometry htag hx hy => exact fun hc _ _ _ hres => serves_geometry hty hto hmodes hc htag hx hy hres
  | enumValue htag hapart hv hmem =>
    exact fun hc _ _ _ hres => serves_enumValue hty hto hc htag hapart hv hmem hres
  | text htag hempty => exact fun hc _ _ _ hres => serves_text hty hto hc htag hempty _ hres
  | array htag hitem hi _ ih =>
    intro hc d hd t hres
    -- an array takes one level of the depth, its items the rest
    obtain ⟨d', rfl⟩ : ∃ d', d = d' + 1 := ⟨d - 1, by omega⟩
    exact serves_array hty hto hc htag hitem hres fun u hu x hx => ih x hx hi d' (by omega) u hu

/-- The annotated type of a column is its resolved type, nullable when the
column is or when asked to be. -/
theorem annotate_ok {r : Registry} {c : Column} {isInput force dflt : Bool} {a : Annotated}
    (h : r.annotate c isInput force dflt = .ok a) :
    ∃ t, r.resolve c isInput = .ok t ∧ a.type = t.type ∧
      a.nullable = (force || c.nullable || (dflt && c.hasDefault)) := by
  cases ht : r.resolve c isInput with
  | error f => simp [annotate, ht, bind, Except.bind] at h
  | ok t =>
    simp only [annotate, ht, bind, Except.bind, pure, Except.pure, Except.ok.injEq] at h
    exact ⟨t, rfl, by rw [← h], by rw [← h]⟩


/-- With nothing registered and the two parts in one geometry mode, as in
every registry a caller reaches, a column whose conversions go by its tag
turns every value it stores into a value its output field holds: null only
where the column is nullable, else a value its type accepts. -/
theorem toWire_holds {r : Registry} (hty : r.types = []) (hto : r.toWireConversions = [])
    (hmodes : r.typeRegistry.geometryMode = r.remapper.geometryMode) {c : Column} (hc : c.convertsByTag = true) {n : Nat} (hn : n ≤ conversionDepth) {s : Value}
    (hs : s = .none ∧ c.nullable = true ∨ Stored n c s) {a : Annotated}
    (ha : r.annotate c false false false = .ok a) : ∃ w, r.toWire s c = .ok w ∧ a.Holds w := by
  obtain ⟨t, hres, htype, hnull⟩ := annotate_ok ha
  rcases hs with ⟨rfl, hnullable⟩ | hs
  · refine ⟨.none, by simp [toWire, toWireAt.eq_1], ?_⟩
    simp [Annotated.Holds, hnull, hnullable]
  · obtain ⟨w, hw, hne, hacc⟩ := serves_of_stored hty hto hmodes hs hc conversionDepth hn t hres
    exact ⟨w, hw, Annotated.holds_of_accepts hne (htype ▸ hacc)⟩

end Registry

end TableGraph

namespace TableGraph.Registry

/-- A score, declared not null as the catalog loader declares array items. -/
def scoreItem : Column :=
  { name := "scores", table := "sheets", tag := "integer", columnType := "Integer", nullable := false }

/-- A list of scores. -/
def scoresColumn : Column :=
  { name := "scores", table := "sheets", tag := "array", columnType := "ARRAY", item := some scoreItem }

theorem annotate_scores : ({} : Registry).annotate scoresColumn false false false =
    .ok { type := .list .int, nullable := true, description := some "Array" } := by
  have hitem : ({} : Registry).resolve scoreItem false = .ok { type := .int } := by
    rw [resolve]
    simp [find?, scoreItem]
  have hres : ({} : Registry).resolve scoresColumn false =
      .ok { type := .list .int, description := some "Array" } := by
    rw [resolve]
    simp [find?, scoresColumn, hitem, bind, Except.bind, pure, Except.pure]
  rw [annotate, hres]
  simp [bind, Except.bind, pure, Except.pure, scoresColumn, quietTags]

/-- A stored array may hold a null item, yet its field's type, `[Int!]`,
refuses one: the conversion passes the null through, and the item type does
not accept it. -/
theorem null_score_refused :
    ({} : Registry).annotate scoresColumn false false false =
        .ok { type := .list .int, nullable := true, description := some "Array" } ∧
      (ApiType.list .int).spell true = "[Int!]" ∧
      ({} : Registry).toWire (.list [.int 1, .none]) scoresColumn = .ok (.list [.int 1, .none]) ∧
      ¬ Accepts (.list .int) (.list [.int 1, .none]) := by
  refine ⟨annotate_scores, rfl, rfl, ?_⟩
  intro h
  cases h with
  | leaf hleaf _ _ => simp [ApiType.isLeaf] at hleaf
  | list hnone _ => exact hnone .none (by simp) rfl

/-- Scores without null items are served. -/
theorem scores_served :
    ∃ w, ({} : Registry).toWire (.list [.int 1, .int 2]) scoresColumn = .ok w ∧
      ({ type := .list .int, nullable := true, description := some "Array" } : Annotated).Holds w :=
  toWire_holds rfl rfl rfl (by decide) (n := 1) (by decide)
    (Or.inr (.array rfl rfl (by decide) fun x hx => by
      simp only [List.mem_cons, List.not_mem_nil, or_false] at hx
      rcases hx with rfl | rfl <;> exact .integer rfl (by decide) (by decide)))
    annotate_scores

/-- A column of kinds whose second value is no API name: it is offered as
`Option1`, the member name the first value already has. -/
def kindColumn : Column :=
  { name := "kind", table := "things", tag := "enum", columnType := "Enum"
    enumValues := some ["Option1", "a b"] }

/-- Member names that are not apart lose a value: `a b` takes the member
`Option1` over, and the stored value `Option1` is left without one, so its
field refuses it. -/
theorem option_member_shadowed :
    ∃ e, ({} : Registry).resolve kindColumn false =
        .ok { type := .enumeration e, description := some "Enum: Option1, a b" } ∧
      ({} : Registry).toWire (.str "Option1") kindColumn = .ok (.str "Option1") ∧
      ¬ Accepts (.enumeration e) (.str "Option1") := by
  let e : EnumType := { name := "ThingsKindEnum", values := ["Option1", "a b"], members := [("Option1", "a b")] }
  have he : enumTypeOf kindColumn = .ok e := rfl
  refine ⟨e, ?_, rfl, ?_⟩
  · have hresolved : enumResolved kindColumn =
        .ok { type := .enumeration e, description := some "Enum: Option1, a b" } := by
      rw [enumResolved, if_neg (by decide), he]
      rfl
    rw [resolve]
    simpa [find?, kindColumn] using hresolved
  · intro h
    cases h with
    | leaf _ hser _ =>
      have hrefuse : GraphQL.serializeLeaf (ApiType.enumeration e).leafType (.str "Option1") =
          .error "Enum 'ThingsKindEnum' cannot represent value: 'Option1'" := rfl
      rw [hrefuse] at hser
      cases hser

end TableGraph.Registry
