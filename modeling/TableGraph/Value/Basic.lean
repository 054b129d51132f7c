import TableGraph.Number.Decimal
import TableGraph.Time.Calendar
import TableGraph.Text.Surrogate

/-!
# Values

The values a caller hands to the API and gets back: the scalars of a data
format (null, truth values, integers of any size, doubles, text, bytes), its
containers (lists, tuples, objects with text keys in insertion order), and
the typed scalars that rows hold (dates, times, date-times, exact decimals,
UUIDs). Two more shapes stand for caller objects: a member of a one-member
enumeration (its name and underlying value) and a plain record with fields
`x` and `y`.

A text is a `String` unless it holds a lone surrogate, which no `String`
can; then it is kept as its code points (see `Text/Surrogate`).

This module holds the type, truthiness, the names of the kinds, and the
canonical UUID text.
-/

namespace TableGraph

/-- A dynamic value. -/
inductive Value where
  | none
  | bool (b : Bool)
  | int (n : Int)
  | float (x : Float)
  | str (s : String)
  /-- A text that holds a lone surrogate, as its code points; a text of
  Unicode scalar values only is always `str`. -/
  | strCodes (codes : List Nat)
  | bytes (bs : List UInt8)
  | list (xs : List Value)
  | tuple (xs : List Value)
  /-- An object with text keys, in insertion order. -/
  | dict (entries : List (String × Value))
  | date (d : Time.Date)
  | time (t : Time.TimeOfDay)
  | datetime (d : Time.DateTime)
  | decimal (d : Number.Decimal)
  /-- A UUID as its 128-bit number. -/
  | uuid (n : Nat)
  /-- A member of a one-member enumeration: its name and its value. -/
  | member (name : String) (value : Value)
  /-- A plain record with the fields `x` and `y`. -/
  | point (x y : Value)
  deriving Repr, Inhabited

namespace Value

mutual

/-- Equality of values, constructor by constructor and field by field;
doubles compare as doubles, so a NaN equals nothing. -/
def beq : Value → Value → Bool
  | .none, .none => true
  | .bool a, .bool b => a == b
  | .int a, .int b => a == b
  | .float a, .float b => a == b
  | .str a, .str b => a == b
  | .strCodes a, .strCodes b => a == b
  | .bytes a, .bytes b => a == b
  | .list a, .list b => beqList a b
  | .tuple a, .tuple b => beqList a b
  | .dict a, .dict b => beqEntries a b
  | .date a, .date b => a == b
  | .time a, .time b => a == b
  | .datetime a, .datetime b => a == b
  | .decimal a, .decimal b => a == b
  | .uuid a, .uuid b => a == b
  | .member n a, .member m b => n == m && beq a b
  | .point x y, .point x' y' => beq x x' && beq y y'
  | _, _ => false

/-- Equality of lists of values, item by item. -/
def beqList : List Value → List Value → Bool
  | [], [] => true
  | a :: as, b :: bs => beq a b && beqList as bs
  | _, _ => false

/-- Equality of the entries of objects, key and value entry by entry. -/
def beqEntries : List (String × Value) → List (String × Value) → Bool
  | [], [] => true
  | (k, a) :: as, (k', b) :: bs => k == k' && beq a b && beqEntries as bs
  | _, _ => false

end

instance : BEq Value := ⟨beq⟩

/-- Truthiness: null, false, zero, the empty text and empty containers are
false; everything else is true. -/
def truthy : Value → Bool
  | .none => false
  | .bool b => b
  | .int n => n != 0
  | .float x => !(x == 0)
  | .str s => !s.isEmpty
  | .bytes bs => !bs.isEmpty
  | .list xs => !xs.isEmpty
  | .tuple xs => !xs.isEmpty
  | .dict es => !es.isEmpty
  | .decimal (.finite _ c _) => c != 0
  | _ => true

/-- The class name under which the enum members of a request print. -/
def enumClassName : String := "WireEnum"

/-- The name of a value's kind as diagnostics print it: the classes of the
date, decimal and record modules carry their module name
(`datetime.date`, `decimal.Decimal`). -/
def kindName : Value → String
  | .none => "NoneType"
  | .bool _ => "bool"
  | .int _ => "int"
  | .float _ => "float"
  | .str _ => "str"
  | .strCodes _ => "str"
  | .bytes _ => "bytes"
  | .list _ => "list"
  | .tuple _ => "tuple"
  | .dict _ => "dict"
  | .date _ => "datetime.date"
  | .time _ => "datetime.time"
  | .datetime _ => "datetime.datetime"
  | .decimal _ => "decimal.Decimal"
  | .uuid _ => "UUID"
  | .member _ _ => enumClassName
  | .point _ _ => "types.SimpleNamespace"

/-- The bare name of a value's class, without its module (`date`,
`Decimal`, `SimpleNamespace`). -/
def className : Value → String
  | .date _ => "date"
  | .time _ => "time"
  | .datetime _ => "datetime"
  | .decimal _ => "Decimal"
  | .point _ _ => "SimpleNamespace"
  | v => v.kindName

/-- The dotted path of a value's class, as the printed form of the class
shows it (`uuid.UUID`). -/
def classPath : Value → String
  | .uuid _ => "uuid.UUID"
  | v => v.kindName

/-- The value of a text given by its code points: `str` when they are all
scalar values, `strCodes` otherwise. -/
def ofCodes (codes : List Nat) : Value :=
  match Text.stringOfCodes? codes with
  | some s => .str s
  | Option.none => .strCodes codes

/-- The code points of a text value; none for other values. -/
def textCodes? : Value → Option (List Nat)
  | .str s => some (Text.codesOf s)
  | .strCodes cs => some cs
  | _ => Option.none

/-- Text values are read as themselves, the rest not. -/
def asText? : Value → Option String
  | .str s => some s
  | _ => Option.none

/-- Lists and tuples as their items. -/
def asSequence? : Value → Option (List Value)
  | .list xs => some xs
  | .tuple xs => some xs
  | _ => Option.none

/-- The value stored under a key of an object. -/
def lookup? (entries : List (String × Value)) (key : String) : Option Value :=
  (entries.find? (·.1 == key)).map (·.2)

/-- Sets a key of an object: an existing key keeps its place and takes the
new value, a new key is appended. -/
def setKey (entries : List (String × Value)) (key : String) (v : Value) : List (String × Value) :=
  if entries.any (·.1 == key) then entries.map (fun (k, w) => if k == key then (k, v) else (k, w))
  else entries ++ [(key, v)]

/-- Whether no two of the texts are equal: once sorted, no two neighbours
are. -/
def allDistinct (keys : List String) : Bool :=
  let sorted := keys.mergeSort fun a b => !decide (b < a)
  (sorted.zip sorted.tail).all fun (a, b) => a != b

/-- The entries of the mapping built by setting each key in turn: a repeated
key keeps its first place and takes its last value. Entries whose keys are
all distinct already are that mapping, which sorting the keys finds out
without comparing every pair. -/
def mappingOf {α : Type} (entries : List (String × α)) : List (String × α) :=
  if allDistinct (entries.map (·.1)) then entries
  else entries.foldl (fun acc (k, v) =>
    if acc.any (·.1 == k) then acc.map (fun (k', w) => if k' == k then (k', v) else (k', w))
    else acc ++ [(k, v)]) []

/-- A value as a list of items: a list or tuple gives its items, any other
value stands alone. -/
def asItems : Value → List Value
  | .list xs => xs
  | .tuple xs => xs
  | v => [v]

theorem sizeOf_le_of_mem_asItems {x v : Value} (h : v ∈ x.asItems) : sizeOf v ≤ sizeOf x := by
  cases x with
  | list xs =>
    simp only [asItems] at h
    have := List.sizeOf_lt_of_mem h
    simp only [Value.list.sizeOf_spec]
    omega
  | tuple xs =>
    simp only [asItems] at h
    have := List.sizeOf_lt_of_mem h
    simp only [Value.tuple.sizeOf_spec]
    omega
  | _ =>
    simp only [asItems, List.mem_singleton] at h
    subst h
    exact Nat.le_refl _

theorem sizeOf_lookup_lt {es : List (String × Value)} {k : String} {v : Value}
    (h : lookup? es k = some v) : sizeOf v < sizeOf (Value.dict es) := by
  simp only [lookup?, Option.map_eq_some_iff] at h
  obtain ⟨⟨a, b⟩, hf, rfl⟩ := h
  have hm := List.mem_of_find?_eq_some hf
  have := List.sizeOf_lt_of_mem hm
  simp only [Value.dict.sizeOf_spec, Prod.mk.sizeOf_spec] at *
  omega

theorem sizeOf_lt_of_mem_list {xs : List Value} {v : Value} (h : v ∈ xs) :
    sizeOf v < sizeOf (Value.list xs) := by
  have := List.sizeOf_lt_of_mem h
  simp only [Value.list.sizeOf_spec]
  omega

theorem sizeOf_lt_of_mem_dict {es : List (String × Value)} {k : String} {v : Value} (h : (k, v) ∈ es) :
    sizeOf v < sizeOf (Value.dict es) := by
  have := List.sizeOf_lt_of_mem h
  simp only [Value.dict.sizeOf_spec, Prod.mk.sizeOf_spec] at *
  omega

end Value

/-- Lower-case hexadecimal digits of a number, at least `width` of them. -/
def hexDigits (n width : Nat) : String :=
  let ds := Nat.toDigits 16 n
  String.ofList (List.replicate (width - ds.length) '0' ++ ds)

/-- The canonical text of a UUID: 32 lower-case hex digits grouped 8-4-4-4-12. -/
def uuidText (n : Nat) : String :=
  let h := (hexDigits n 32).toList
  String.ofList (h.take 8) ++ "-" ++ String.ofList ((h.drop 8).take 4) ++ "-" ++
    String.ofList ((h.drop 12).take 4) ++ "-" ++ String.ofList ((h.drop 16).take 4) ++ "-" ++
    String.ofList (h.drop 20)

end TableGraph
