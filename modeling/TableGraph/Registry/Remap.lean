import TableGraph.Registry.Basic
import TableGraph.Value.Json
import TableGraph.Value.Exchange
import TableGraph.Time.Iso

/-!
# Converting values between storage and the API

`Registry.toWire` turns a stored value into the value the API returns, and
`Registry.fromWire` turns a value the API received into the value to store.
Null stays null both ways. Otherwise each direction takes a conversion
registered for the column's type class, else one registered for its tag,
else the built-in conversion of its type class or tag; with none of these
the value passes unchanged.

Towards the API, dates and times become ISO text (a date-time column keeps
the time, a date column drops it), big integers, decimals and UUIDs become
their text, bytes a list of integers, JSON documents their compact text with
characters past ASCII escaped, arrays and vectors lists, and geometries a
point or a pair. Enumeration members become their name when the column
stores names, else their value.

From the API, texts are read by the rules of their kind, and every refusal
is a `remap` failure that names the column; a big integer must fit in 64
bits, a decimal must be finite, and an enumeration value may be given by
stored value or by member name.
-/

namespace TableGraph

/-- How deeply conversions may descend into nested values. -/
def conversionDepth : Nat := 320

/-- The failure of a conversion that descends without end. -/
def tooDeep : Failure := ⟨.recursion, "maximum recursion depth exceeded"⟩

/-- How deeply arrays and objects may nest in a JSON text from the API: the
reader spends a level of the same call budget on each. -/
def jsonDepth : Nat := 957

/-- The failure of reading a JSON text whose arrays (or objects) nest past
`jsonDepth`. -/
def jsonTooDeep (isArray : Bool) : Failure :=
  ⟨.recursion, "maximum recursion depth exceeded while decoding a JSON " ++
    (if isArray then "array" else "object") ++ " from a unicode string"⟩

/-- The conversion that applies to a column: a registered one, or the
built-in one of a key. -/
inductive Converter where
  | registered (c : Conversion)
  | builtin (key : String)
  deriving Repr, BEq, Inhabited

namespace Converter

/-- The keys with a built-in conversion towards the API. -/
def toWireKeys : List String :=
  ["timestamp", "time", "date", "bigint", "decimal", "uuid", "binary", "json", "array",
   "vector", "geometry", "enum", "text"]

/-- The keys with a built-in conversion from the API. -/
def fromWireKeys : List String :=
  toWireKeys ++ ["integer", "float"]

/-- The converter of a column: registered by type class, registered by tag,
built in by type class, built in by tag. -/
def choose (registered : List (String × Conversion)) (builtinKeys : List String) (c : Column) :
    Option Converter :=
  match Registry.find? registered c.columnType <|> Registry.find? registered c.tag with
  | some conv => some (.registered conv)
  | none =>
    if builtinKeys.contains c.columnType then some (.builtin c.columnType)
    else if builtinKeys.contains c.tag then some (.builtin c.tag)
    else none

end Converter

namespace Remap

/-- A refusal that names the column. -/
def refuse (message : String) : Failure := .remap message

/-- The refusal of a value of a kind. -/
def invalid (kind : String) (c : Column) (v : Value) : Failure :=
  refuse ("Invalid " ++ kind ++ " value for field '" ++ c.label ++ "': " ++ v.literal)

/-- The ISO text of a temporal value, the plain text of any other. -/
def temporalText (v : Value) : Value :=
  match v with
  | .datetime d => .str d.isoText
  | .date d => .str d.isoText
  | .time t => .str t.isoText
  | _ => v.asText

/-- An enumeration member as its name when the column stores that name,
else as its value; any other value unchanged. -/
def enumToWire (c : Column) (v : Value) : Value :=
  match v with
  | .member name inner => if c.enumList.contains name then .str name else inner
  | _ => v

/-- The coordinates of a geometry given as an object, a list or a record. -/
def coordinates (v : Value) : Outcome (Value × Value) :=
  match v with
  | .dict es => do
    let x ← Value.entry es "x"
    let y ← Value.entry es "y"
    pure (x, y)
  | .list _ | .tuple _ => do
    let x ← v.index 0
    let y ← v.index 1
    pure (x, y)
  | _ => do
    let x ← v.field "x"
    let y ← v.field "y"
    pure (x, y)

/-- A geometry towards the API: a pair in tuple mode, else a point object. -/
def geometryToWire (tuple : Bool) (v : Value) : Outcome Value := do
  let (x, y) ← coordinates v
  let x ← x.toFloat
  let y ← y.toFloat
  pure (if tuple then .list [.float x, .float y] else .dict [("x", .float x), ("y", .float y)])

/-- A JSON document's compact text, characters past ASCII escaped. -/
def jsonText (c : Column) (v : Value) : Outcome Value :=
  match v.toJson? true with
  | .ok j => .ok (.str (Json.render "," ":" true j))
  | .error reason => .error (refuse ("Cannot serialize JSON in field '" ++ c.label ++ "': " ++ reason))

/-- A temporal text with a final `Z` read as the offset `+00:00`. -/
def zoneText (s : String) : String :=
  let t := Text.strip s
  if t.endsWith "Z" then String.ofList t.toList.dropLast ++ "+00:00" else t

/-- A date-time from the API. -/
def readDateTime (c : Column) (v : Value) : Outcome Time.DateTime :=
  match v with
  | .datetime d => .ok d
  | .str s => match Time.readDateTime? (zoneText s) with
    | some d => .ok d
    | none => .error (invalid "datetime" c v)
  | .strCodes cs => match Time.readDateTimeCodes? (Text.throughStandIns zoneText cs) with
    | some d => .ok d
    | none => .error (invalid "datetime" c v)
  | _ => .error (invalid "datetime" c v)

/-- A time of day from the API; a text with a lone surrogate is none. -/
def readTime (c : Column) (v : Value) : Outcome Time.TimeOfDay :=
  match v with
  | .time t => .ok t
  | .str s => match Time.readTime? (zoneText s) with
    | some t => .ok t
    | none => .error (invalid "time" c v)
  | _ => .error (invalid "time" c v)

/-- A date from the API: the date of a date-time, or of a text with a `T`;
a text with a lone surrogate and no `T` is none. -/
def readDate (c : Column) (v : Value) : Outcome Time.Date :=
  match v with
  | .datetime d => .ok d.date
  | .date d => .ok d
  | .str s =>
    if s.toList.contains 'T' then (·.date) <$> readDateTime c v
    else match Time.readDate? (zoneText s) with
      | some d => .ok d
      | none => .error (invalid "date" c v)
  | .strCodes cs =>
    if cs.contains 'T'.toNat then (·.date) <$> readDateTime c v else .error (invalid "date" c v)
  | _ => .error (invalid "date" c v)

/-- The smallest 64-bit integer. -/
def int64Min : Int := -9223372036854775808

/-- The largest 64-bit integer. -/
def int64Max : Int := 9223372036854775807

/-- A big integer from the API: a whole number, a number truncated, or a
base-ten text; it must fit in 64 bits. -/
def readBigInt (c : Column) (v : Value) : Outcome Int := do
  let n ← match v with
    | .bool _ => .error (invalid "BigInt" c v)
    | .str s => match Number.readInt? s with
      | some n => .ok n
      | none => .error (invalid "BigInt" c v)
    | _ => match v.truncateInt with
      | .ok n => .ok n
      | .error f => if f.kind == .overflow then .error f else .error (invalid "BigInt" c v)
  if int64Min ≤ n && n ≤ int64Max then pure n
  else .error (refuse ("BigInt value out of range for field '" ++ c.label ++ "': " ++ v.literal))

/-- A decimal from the API: the value's text read as a finite decimal. -/
def readDecimal (c : Column) (v : Value) : Outcome Number.Decimal :=
  match Number.Decimal.ofText? (Text.strip v.text) with
  | some d => if d.isFinite then .ok d else .error (invalid "Decimal" c v)
  | none => .error (invalid "Decimal" c v)

/-- A UUID from the API: the value's text read as a UUID. -/
def readUuidValue (c : Column) (v : Value) : Outcome Nat :=
  match v with
  | .uuid n => .ok n
  | _ => match readUuid v.text with
    | .ok n => .ok n
    | .error _ => .error (invalid "UUID" c v)

/-- Bytes from the API: a byte string, or a walk over integers in `0..255`. -/
def readBytes (c : Column) (v : Value) : Outcome (List UInt8) :=
  match v with
  | .bytes bs => .ok bs
  | _ =>
    match v.items >>= Value.bytesOfItems with
    | .ok bs => .ok bs
    | .error _ => .error (refuse ("Buffer values for field '" ++ c.label ++
        "' must be integers between 0 and 255"))

/-- A JSON document from the API: a text is parsed, anything else kept. -/
def readJson (c : Column) (v : Value) : Outcome Value :=
  let parsed := match v with
    | .str s => some (Json.read jsonDepth s)
    | .strCodes cs => some (Json.readCodes jsonDepth cs)
    | _ => none
  match parsed with
  | none => .ok v
  | some (.ok j) => .ok (Value.ofJson j)
  | some (.error .malformed) => .error (refuse ("Invalid JSON in field '" ++ c.label ++ "'"))
  | some (.error (.tooDeep isArray)) => .error (jsonTooDeep isArray)

/-- An enumeration value from the API: a stored value, or the member name of
one; a member stands for its value. -/
def readEnum (c : Column) (v : Value) : Outcome Value :=
  let v := match v with
    | .member _ inner => inner
    | _ => v
  let values := c.enumList
  if values.isEmpty || values.any (fun s => v == .str s) then .ok v
  else
    match values.zipIdx.find? (fun (s, i) => .str (Text.enumMemberName s i) == v) with
    | some (s, _) => .ok (.str s)
    | none => .error (refuse ("Invalid value for field '" ++ c.label ++ "': " ++ v.literal ++
        " (expected one of " ++ ", ".intercalate values ++ ")"))

/-- A geometry from the API, as a pair of doubles. -/
def readGeometry (c : Column) (v : Value) : Outcome Value :=
  let pair (x y : Value) : Outcome Value := do
    let x ← x.toFloat
    let y ← y.toFloat
    pure (.tuple [.float x, .float y])
  match v with
  | .dict es => do
    let x ← Value.entry es "x"
    let x ← x.toFloat
    let y ← Value.entry es "y"
    let y ← y.toFloat
    pure (.tuple [.float x, .float y])
  | .list [x, y] => pair x y
  | .tuple [x, y] => pair x y
  | .point x y => pair x y
  | _ => .error (refuse ("Invalid geometry value for field '" ++ c.label ++ "': " ++ v.literal))

/-- The doubles of a walk over a value. -/
def floats (v : Value) : Outcome Value := do
  let xs ← v.items
  let fs ← xs.mapM Value.toFloat
  pure (.list (fs.map .float))

end Remap

namespace Registry

open Remap in
/-- Converts a stored value towards the API, descending at most `depth`
levels into arrays. -/
def toWireAt (r : Registry) : Nat → Value → Column → Outcome Value
  | _, .none, _ => .ok .none
  | depth, v, c =>
    match Converter.choose r.toWireConversions Converter.toWireKeys c with
    | none => .ok v
    | some (.registered conv) => conv.apply v
    | some (.builtin key) =>
      match key with
      | "timestamp" | "time" => .ok (temporalText v)
      | "date" =>
        match v with
        | .datetime d => .ok (.str d.date.isoText)
        | _ => .ok (temporalText v)
      | "bigint" | "decimal" | "uuid" => .ok v.asText
      | "binary" =>
        match v with
        | .str s => .ok (.list (s.toUTF8.toList.map fun b => .int b.toNat))
        | .strCodes cs => .error ⟨.unicodeEncode, (Text.utf8Refusal? cs).getD ""⟩
        | _ => (fun bs => .list (bs.map fun b => .int b.toNat)) <$> v.byteString
      | "json" => jsonText c v
      | "array" =>
        match depth with
        | 0 => .error tooDeep
        | d + 1 => do
          let xs ← v.items
          let ys ← xs.mapM fun x => toWireAt r d x c.itemColumn
          pure (.list ys)
      | "vector" => floats v
      | "geometry" => geometryToWire (tupleGeometry r.remapper.geometryMode c) v
      | _ => .ok (enumToWire c v)

/-- Converts a stored value towards the API. -/
def toWire (r : Registry) (v : Value) (c : Column) : Outcome Value :=
  r.toWireAt conversionDepth v c

open Remap in
/-- Converts a value from the API to the value to store, descending at most
`depth` levels into arrays. -/
def fromWireAt (r : Registry) : Nat → Value → Column → Outcome Value
  | _, .none, _ => .ok .none
  | depth, v, c =>
    match Converter.choose r.fromWireConversions Converter.fromWireKeys c with
    | none => .ok v
    | some (.registered conv) => conv.apply v
    | some (.builtin key) =>
      match key with
      | "timestamp" => .datetime <$> readDateTime c v
      | "time" => .time <$> readTime c v
      | "date" => .date <$> readDate c v
      | "bigint" => .int <$> readBigInt c v
      | "decimal" => .decimal <$> readDecimal c v
      | "uuid" => .uuid <$> readUuidValue c v
      | "binary" => .bytes <$> readBytes c v
      | "json" => readJson c v
      | "array" =>
        match v with
        | .list xs | .tuple xs =>
          match depth with
          | 0 => .error tooDeep
          | d + 1 => .list <$> xs.mapM fun x => fromWireAt r d x c.itemColumn
        | _ => .error (refuse ("Expected a list for field '" ++ c.label ++ "'"))
      | "vector" => floats v
      | "geometry" => readGeometry c v
      | "enum" => readEnum c v
      | "text" => if c.enumList.isEmpty then .ok v else readEnum c v
      | "integer" =>
        match v with
        | .str s => match Number.readInt? s with
          | some n => .ok (.int n)
          | none => .error (invalid "Int" c v)
        | .strCodes _ => .error (invalid "Int" c v)
        | _ => .ok v
      | "float" =>
        match v with
        | .str s => match Number.readFloat? s with
          | some x => .ok (.float x)
          | none => .error (invalid "Float" c v)
        | .strCodes _ => .error (invalid "Float" c v)
        | _ => .ok v
      | _ => .ok v

/-- Converts a value from the API to the value to store. -/
def fromWire (r : Registry) (v : Value) (c : Column) : Outcome Value :=
  r.fromWireAt conversionDepth v c

/-- A null goes towards the API as a null, whatever the column. -/
theorem toWireAt_none (r : Registry) (depth : Nat) (c : Column) :
    r.toWireAt depth .none c = .ok .none := by
  rw [toWireAt.eq_def]

/-- A null comes from the API as a null, whatever the column. -/
theorem fromWireAt_none (r : Registry) (depth : Nat) (c : Column) :
    r.fromWireAt depth .none c = .ok .none := by
  rw [fromWireAt.eq_def]

end Registry

end TableGraph
