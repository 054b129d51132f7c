import Mathlib
import TableGraph.Store.Fetch
import TableGraph.Proofs.FilterMeaning

/-!
# Where conversions part ways

A value crosses three edges on its way through the library: `Registry.fromWire`
reads it from the API into the operand of a predicate, binding writes the
operand into a cell of the column's stored type, and `Registry.toWire` reads
stored values back out to the API. Each edge picks its conversion from the
column on its own. This module records two places where the picks do not
fit together, each for every value of a kind:

* `compile_binary_operand_forms` — a filter comparing a binary column with a
  list of bytes compiles when the bytes are integers, as the API's coercion
  delivers them to a root field, and is refused when they are the texts of
  those integers, as the raw arguments of a relation field carry them;
* `findMany_like_uuid` — a read filtered by a pattern on a column stored as a
  UUID fails whatever the pattern: binding writes the pattern as a UUID.

The third, a big-integer column whose type class is named `float`, reads
its integers back as doubles; it sits beside the round trip it breaks, in
`TableGraph.Proofs.RoundTrip`.

On the way, `compile_single_operator` says what a filter of one operator on
one column compiles to.
-/

namespace TableGraph

/-! ### Choosing a conversion without registrations -/

namespace Converter

/-- With nothing registered, a column takes the built-in conversion of its
type class, else that of its tag. -/
theorem choose_unregistered (keys : List String) (c : Column) :
    choose [] keys c =
      if keys.contains c.columnType then some (.builtin c.columnType)
      else if keys.contains c.tag then some (.builtin c.tag) else none := by
  simp [choose, Registry.find?]

end Converter

/-! ### A filter of one operator -/

namespace Filter

variable {reg : Registry} {t : Table}

/-- A filter with one column member, whose entry has one operator, compiles
to what that operator gives, or to `true` when it gives nothing. -/
theorem compile_single_operator {key raw : String} {v : Value} {c : Column}
    {op : FilterOperator} (hkey : isCombinator key = false) (hc : t.columnFor? key = some c)
    (hraw : raw ≠ "OR") (hop : FilterOperator.ofKey? raw = some op) (hv : v ≠ .none) :
    compile reg t (.dict [(key, .dict [(raw, v)])]) =
      (·.getD (.const true)) <$> op.predicate reg c v := by
  obtain ⟨⟨hA, hO⟩, hN⟩ := by simpa only [isCombinator, Bool.or_eq_false_iff] using hkey
  have hor : Value.lookup? [(raw, v)] "OR" = none := by simp [Value.lookup?, hraw]
  have hentry : columnPredicates reg c key (.dict [(raw, v)]) =
      (·.toList) <$> op.predicate reg c v := by
    rw [columnPredicates, hor]
    simp [operatorPredicates_eq, operatorMember_operator hop hv]
  simp only [compile, @level_dict reg t [(key, .dict [(raw, v)])] rfl, List.foldlM_cons,
    List.foldlM_nil, columnMember_column (v := .dict [(raw, v)]) hkey (by simp) hc, hentry, andPart,
    orPart, notPart, Value.lookup?, List.find?, hA, hO, hN]
  rcases op.predicate reg c v with _ | _ | p <;> simp [conjunctionOf]

end Filter

/-! ### Bytes written as integers and as texts -/

namespace Value

/-- Integers in `0..255` are read as the bytes they name. -/
theorem bytesOfItems_ints {ns : List Int} (h : ∀ n ∈ ns, 0 ≤ n ∧ n < 256) :
    bytesOfItems (ns.map .int) = .ok (ns.map (·.toNat.toUInt8)) := by
  induction ns with
  | nil => rfl
  | cons n ns ih =>
    obtain ⟨h0, h256⟩ := h n (by simp)
    have hbyte : byteOf (.int n) = .ok n.toNat.toUInt8 := by simp [byteOf, h0, h256]
    have hrest := ih (fun m hm => h m (by simp [hm]))
    simp only [bytesOfItems, List.map_cons, List.mapM_cons, hbyte] at hrest ⊢
    rw [hrest]
    rfl

end Value

namespace Remap

/-- A list of integers in `0..255` is read as its bytes. -/
theorem readBytes_ints (c : Column) {ns : List Int} (h : ∀ n ∈ ns, 0 ≤ n ∧ n < 256) :
    readBytes c (.list (ns.map .int)) = .ok (ns.map (·.toNat.toUInt8)) := by
  simp [readBytes, Value.items, bind, Except.bind, Value.bytesOfItems_ints h]

/-- A list that starts with a text is refused, whatever follows. -/
theorem readBytes_text_head (c : Column) (s : String) (xs : List Value) :
    readBytes c (.list (.str s :: xs)) =
      .error (refuse ("Buffer values for field '" ++ c.label ++
        "' must be integers between 0 and 255")) := by
  simp [readBytes, Value.items, bind, Except.bind, Value.bytesOfItems, List.mapM_cons,
    Value.byteOf]

end Remap

namespace Registry

/-- With nothing registered, a column tagged `binary` whose type class has no
conversion of its own reads every operand as bytes. -/
theorem fromWire_binary {r : Registry} (hfrom : r.fromWireConversions = []) {c : Column}
    (htag : c.tag = "binary") (hty : Converter.fromWireKeys.contains c.columnType = false)
    {v : Value} (hv : v ≠ .none) :
    r.fromWire v c = .bytes <$> Remap.readBytes c v := by
  have hchoose : Converter.choose r.fromWireConversions Converter.fromWireKeys c =
      some (.builtin "binary") := by
    rw [hfrom, Converter.choose_unregistered, hty, htag]
    rfl
  rw [fromWire, fromWireAt.eq_def]
  split
  · contradiction
  · simp only [hchoose]

end Registry

namespace Filter

/-- The same bytes compared with a binary column: as integers the filter
compiles to a comparison with those bytes, as the texts of the integers it
is refused. -/
theorem compile_binary_operand_forms {reg : Registry} (hfrom : reg.fromWireConversions = [])
    {t : Table} {key : String} {c : Column} (hkey : isCombinator key = false)
    (hc : t.columnFor? key = some c) (htag : c.tag = "binary")
    (hty : Converter.fromWireKeys.contains c.columnType = false) {ns : List Int}
    (hne : ns ≠ []) (hbytes : ∀ n ∈ ns, 0 ≤ n ∧ n < 256) :
    compile reg t (.dict [(key, .dict [("eq", .list (ns.map .int))])]) =
        .ok (.compare c .eq (.param (.bytes (ns.map (·.toNat.toUInt8))))) ∧
      compile reg t (.dict [(key, .dict [("eq", .list (ns.map fun n => .str (toString n)))])]) =
        .error (.remap ("Buffer values for field '" ++ c.label ++
          "' must be integers between 0 and 255")) := by
  have hop : FilterOperator.ofKey? "eq" = some .eq := by cbv
  have hread : ∀ v, v ≠ .none → reg.fromWire v c = .bytes <$> Remap.readBytes c v :=
    fun _ hv => Registry.fromWire_binary hfrom htag hty hv
  constructor
  · rw [compile_single_operator hkey hc (by decide) hop (by simp)]
    simp [FilterOperator.predicate, hread, Remap.readBytes_ints c hbytes, Predicate.comparison]
  · obtain ⟨n, rest, rfl⟩ := List.exists_cons_of_ne_nil hne
    rw [compile_single_operator hkey hc (by decide) hop (by simp)]
    simp [FilterOperator.predicate, hread, Remap.readBytes_text_head, Remap.refuse, bind,
      Except.bind]

/-- The binary column of a table of posts. -/
def payloadColumn : Column :=
  { name := "payload", table := "posts", tag := "binary", columnType := "LargeBinary" }

/-- A table of posts with a binary column. -/
def payloadTable : Table := { name := "posts", columns := [payloadColumn] }

/-- The bytes 0, 1 and 255 compared with the payload of posts: as integers
they compile, as their texts they are refused. -/
theorem compile_payload_operand_forms :
    compile {} payloadTable
          (.dict [("payload", .dict [("eq", .list [.int 0, .int 1, .int 255])])]) =
        .ok (.compare payloadColumn .eq (.param (.bytes [0, 1, 255]))) ∧
      compile {} payloadTable
          (.dict [("payload", .dict [("eq", .list [.str "0", .str "1", .str "255"])])]) =
        .error (.remap
          "Buffer values for field 'posts.payload' must be integers between 0 and 255") :=
  compile_binary_operand_forms rfl (by decide) (by cbv) rfl (by decide)
    (show [(0 : Int), 1, 255] ≠ [] by simp) (by decide)

end Filter

/-! ### Patterns on UUID columns -/

namespace Store

/-- The fault of writing a text where a UUID is expected: the UUID type asks
the text for its digits, and the statement reports the missing attribute. -/
def textNotUuid : Failure :=
  ⟨.statement, "(builtins.AttributeError) 'str' object has no attribute 'hex'"⟩

/-- A text compared with a column whose type stores UUIDs is written as a
UUID: a plain UUID column compares texts as UUIDs, and a decorator writes
every value its own way. -/
theorem compareCodec_text_of_uuid {t : SqlType} (h : Codec.ofType t = .uuid) (s : String) :
    compareCodec t (.str s) = .uuid := by
  cases t with
  | basic n f =>
    simp only [Codec.ofType] at h
    split_ifs at h with hv hg
    -- of the families, only the UUID one has the UUID codec
    have hf : f = some .uuid := by
      rcases f with _ | f
      · cases h
      · cases f <;> first | rfl | cases h
    subst hf
    simp only [Bool.not_eq_true] at hv hg
    simp [compareCodec, typeFamily, valueFamily, Codec.ofType, hv, hg]
  | enumeration n vs => cases h
  | array n item => cases h
  | decorated n impl => simpa [compareCodec, typeFamily] using h

/-- Writing a text as the pattern for a column that stores UUIDs fails. -/
theorem bindPattern_uuid_text {d : ColumnDecl} (h : Codec.ofType d.type = .uuid) (s : String)
    (k : Nat) : (bindPattern d (.str s)).run k = .error textNotUuid := by
  simp only [bindPattern, compareCodec_text_of_uuid h]
  rfl

/-- Binding a pattern with a text against a column of a table that stores
UUIDs fails, at whatever placeholder the binding starts. -/
theorem bindPredicate_like_uuid {t : StoredTable} {c : Column} {i : Nat}
    (hpos : t.position? c.sqlName = some i) (huuid : Codec.ofType (t.columnAt i).type = .uuid)
    (p : String) (caseless negated : Bool) (k : Nat) :
    (t.bindPredicate (.like c (.str p) caseless negated)).run k = .error textNotUuid := by
  have hcol : t.columnOf c = pure (i, t.columnAt i) := by simp [StoredTable.columnOf, hpos]
  simp only [StoredTable.bindPredicate, hcol, pure_bind, StateT.run_bind,
    bindPattern_uuid_text huuid]
  rfl

/-- A read filtered by a pattern on a column stored as a UUID fails,
whatever the pattern. -/
theorem findMany_like_uuid {db : Database} {s : LoadSpec} {st : StoredTable} {c : Column}
    {i : Nat} {p : String} {caseless negated : Bool} (hst : db.tableOf s.table = .ok st)
    (hpos : st.position? c.sqlName = some i) (huuid : Codec.ofType (st.columnAt i).type = .uuid)
    (hpred : s.predicate = .like c (.str p) caseless negated) (windows : Bool) :
    findMany db windows s = .error textNotUuid := by
  have hbind := bindPredicate_like_uuid hpos huuid p caseless negated 0
  simp [findMany, hst, hpred, hbind, bind, Except.bind]

/-- A key column that stores UUIDs. -/
def tokenDecl : ColumnDecl :=
  { key := "token", name := "token", type := .basic "Uuid" (some .uuid) }

/-- The same column as the API sees it. -/
def tokenColumn : Column :=
  { name := "token", table := "gadgets", tag := "uuid", columnType := "Uuid" }

/-- The type class `Uuid` names neither a vector nor a geometry type.
`String.splitOn` is well-founded recursion, so its equation is unfolded once
per character. -/
theorem uuid_class_plain :
    classMentions "Uuid" "vector" = false ∧ classMentions "Uuid" "geometry" = false := by
  have hlower : Text.asciiLower "Uuid" = "uuid" := by decide
  simp only [classMentions, hlower, String.splitOn]
  constructor <;> repeat (rw [String.splitOnAux]; simp +decide)

/-- The token column stores UUIDs. -/
theorem tokenDecl_codec : Codec.ofType tokenDecl.type = .uuid := by
  simp [tokenDecl, Codec.ofType, uuid_class_plain]

/-- A store with one table of gadgets, keyed by a UUID token. -/
def gadgetStore : Database := Database.empty [{ name := "gadgets", columns := [tokenDecl] }]

theorem findMany_token_like :
    findMany gadgetStore false
        { table := { name := "gadgets", columns := [tokenColumn] },
          predicate := .like tokenColumn (.str "%a%") false false } =
      .error textNotUuid :=
  findMany_like_uuid (i := 0)
    (show gadgetStore.tableOf _ = .ok { decl := { name := "gadgets", columns := [tokenDecl] } }
      by cbv)
    (by cbv) tokenDecl_codec rfl false

end Store

end TableGraph
