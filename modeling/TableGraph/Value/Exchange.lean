import TableGraph.Value.Json
import TableGraph.Time.Iso
import TableGraph.Failure

/-!
# The exchange form of values

Values travel between a caller and the library as JSON documents in which
the values JSON has no word for are objects with one `$`-key:

| key | value |
|---|---|
| `$datetime`, `$date`, `$time` | ISO text |
| `$decimal` | decimal text, written back in canonical form |
| `$uuid` | UUID text, written back lower-case and grouped |
| `$bytes` | hexadecimal digits |
| `$tuple` | the items |
| `$float` | `nan`, `inf` or `-inf` |
| `$enum` | `{"name": n, "value": v}`, an enumeration member |
| `$point` | `{"x": x, "y": y}`, a record with two fields |

`Value.ofExchange` reads that form and `Value.toExchange` writes it. A
finite double is written as its shortest text, so that it reads back as
itself.
-/

namespace TableGraph

/-- The characters with every occurrence of `pat` taken out, occurrences
found from the left without overlapping (as replacing them by nothing does). -/
def eraseAll (pat : List Char) : List Char → List Char
  | [] => []
  | c :: rest =>
    if h : pat ≠ [] ∧ pat.isPrefixOf (c :: rest) then eraseAll pat ((c :: rest).drop pat.length)
    else c :: eraseAll pat rest
termination_by cs => cs.length
decreasing_by
  · have : 0 < pat.length := List.length_pos_iff.mpr h.1
    simp only [List.length_drop, List.length_cons]
    omega
  · simp

/-- The digits of a UUID text: `urn:` and `uuid:` are dropped, then braces
at both ends and every `-`. -/
def uuidHex (s : String) : List Char :=
  let t := eraseAll "uuid:".toList (eraseAll "urn:".toList s.toList)
  let cs := ((t.dropWhile (fun c => c == '{' || c == '}')).reverse.dropWhile
    (fun c => c == '{' || c == '}')).reverse
  cs.filter (· != '-')

/-- Reads the digits of a UUID text: 32 hexadecimal digits must remain. The
error is the reason for a refusal, which shows the digits as `shown`. -/
def readUuidHex (hex : List Char) (shown : String) : Except String Nat :=
  if hex.length != 32 then .error "badly formed hexadecimal UUID string"
  else
    match Number.readHexInt? (String.ofList hex) with
    | Option.none => .error ("invalid literal for int() with base 16: " ++ shown)
    | some n =>
      if n < 0 then .error "int is out of range (need a 128-bit value)" else .ok n.toNat

/-- Reads a UUID text. The error is the reason for a refusal. -/
def readUuid (s : String) : Except String Nat :=
  let hex := uuidHex s
  readUuidHex hex (textLiteral (String.ofList hex))

/-- Reads a UUID text that holds lone surrogates, which are no digits. -/
def readUuidCodes (codes : List Nat) : Except String Nat :=
  let table := Text.standIns codes
  let hex := uuidHex (Text.substitute table codes)
  readUuidHex hex (codesLiteral (Text.restore table (String.ofList hex)))

/-- Hexadecimal text as bytes, two digits a byte. -/
def bytesOfHex? (s : String) : Option (List UInt8) :=
  let rec go : List Char → Option (List UInt8)
    | [] => some []
    | a :: b :: rest => do
      let hi ← Number.hexDigitValue? a
      let lo ← Number.hexDigitValue? b
      let tail ← go rest
      pure ((hi * 16 + lo).toUInt8 :: tail)
    | [_] => none
  go s.toList

/-- Bytes as lower-case hexadecimal text. -/
def hexOfBytes (bs : List UInt8) : String :=
  String.join (bs.map fun b => hexDigits b.toNat 2)

namespace Value

/-- A failure to read the exchange form. -/
def badExchange (what : String) : Failure := ⟨.badRequest, "invalid " ++ what⟩

mutual

/-- Reads a value in exchange form. -/
def ofExchange : Json → Outcome Value
  | .null => .ok .none
  | .bool b => .ok (.bool b)
  | .number t => .ok (ofJsonNumber t)
  | .string s => .ok (.str s)
  | .stringCodes cs => .ok (.strCodes cs)
  | .array items => .list <$> ofExchangeItems items
  | .object [("$datetime", .stringCodes cs)] =>
    match Time.readDateTimeCodes? cs with
    | some d => .ok (.datetime d)
    | Option.none => .error ⟨.badValue, "Invalid isoformat string: " ++ codesLiteral cs⟩
  | .object [("$date", .stringCodes cs)] =>
    .error ⟨.badValue, "Invalid isoformat string: " ++ codesLiteral cs⟩
  | .object [("$time", .stringCodes cs)] =>
    .error ⟨.badValue, "Invalid isoformat string: " ++ codesLiteral cs⟩
  | .object [("$decimal", .stringCodes cs)] =>
    match Number.Decimal.read (Text.lossyString cs) with
    | .ok d => .ok (.decimal d)
    | .error fault => .error (Failure.decimalFault fault)
  | .object [("$uuid", .stringCodes cs)] =>
    match readUuidCodes cs with
    | .ok n => .ok (.uuid n)
    | .error m => .error ⟨.badValue, m⟩
  | .object [("$datetime", .string s)] =>
    match Time.readDateTime? s with
    | some d => .ok (.datetime d)
    | Option.none => .error ⟨.badValue, "Invalid isoformat string: " ++ textLiteral s⟩
  | .object [("$date", .string s)] =>
    match Time.readDate? s with
    | some d => .ok (.date d)
    | Option.none => .error ⟨.badValue, "Invalid isoformat string: " ++ textLiteral s⟩
  | .object [("$time", .string s)] =>
    match Time.readTime? s with
    | some t => .ok (.time t)
    | Option.none => .error ⟨.badValue, "Invalid isoformat string: " ++ textLiteral s⟩
  | .object [("$decimal", .string s)] =>
    match Number.Decimal.read s with
    | .ok d => .ok (.decimal d)
    | .error fault => .error (Failure.decimalFault fault)
  | .object [("$uuid", .string s)] =>
    match readUuid s with
    | .ok n => .ok (.uuid n)
    | .error m => .error ⟨.badValue, m⟩
  | .object [("$bytes", .string s)] =>
    match bytesOfHex? s with
    | some bs => .ok (.bytes bs)
    | Option.none => .error (badExchange "bytes")
  | .object [("$tuple", .array items)] => .tuple <$> ofExchangeItems items
  | .object [("$float", .string s)] =>
    if s == "nan" then .ok (.float (Number.floatOfFields false 2047 (Nat.pow 2 51)))
    else if s == "inf" then .ok (.float (Number.floatOfFields false 2047 0))
    else if s == "-inf" then .ok (.float (Number.floatOfFields true 2047 0))
    else .error (badExchange "float")
  | .object [("$enum", .object fields)] => do
    let es ← mappingOf <$> ofExchangeMembers fields
    match lookup? es "name", lookup? es "value" with
    | some (.str n), some v => pure (.member n v)
    | _, _ => .error (badExchange "enum")
  | .object [("$point", .object fields)] => do
    let es ← mappingOf <$> ofExchangeMembers fields
    match lookup? es "x", lookup? es "y" with
    | some x, some y => pure (.point x y)
    | _, _ => .error (badExchange "point")
  | .object ms => (fun es => .dict (mappingOf es)) <$> ofExchangeMembers ms

/-- Reads items in exchange form. -/
def ofExchangeItems : List Json → Outcome (List Value)
  | [] => .ok []
  | j :: rest => do
    let v ← ofExchange j
    let vs ← ofExchangeItems rest
    pure (v :: vs)

/-- Reads object members in exchange form, repeated keys included. -/
def ofExchangeMembers : List (String × Json) → Outcome (List (String × Value))
  | [] => .ok []
  | (k, j) :: rest => do
    let v ← ofExchange j
    let vs ← ofExchangeMembers rest
    pure ((k, v) :: vs)

end

/-- The exchange form of a double. -/
def floatExchange (x : Float) : Json :=
  match Number.Binary64.ofFloat x with
  | .nan => .object [("$float", .string "nan")]
  | .infinite neg => .object [("$float", .string (if neg then "-inf" else "inf"))]
  | .finite .. => .number (Number.floatText x)

mutual

/-- Writes a value in exchange form. -/
def toExchange : Value → Json
  | .none => .null
  | .bool b => .bool b
  | .int n => .number (toString n)
  | .float x => floatExchange x
  | .str s => .string s
  | .strCodes cs => .stringCodes cs
  | .bytes bs => .object [("$bytes", .string (hexOfBytes bs))]
  | .list xs => .array (toExchangeItems xs)
  | .tuple xs => .object [("$tuple", .array (toExchangeItems xs))]
  | .dict es => .object (toExchangeMembers es)
  | .date d => .object [("$date", .string d.isoText)]
  | .time t => .object [("$time", .string t.isoText)]
  | .datetime d => .object [("$datetime", .string d.isoText)]
  | .decimal d => .object [("$decimal", .string d.text)]
  | .uuid n => .object [("$uuid", .string (uuidText n))]
  | .member n v => .object [("$enum", .object [("name", .string n), ("value", toExchange v)])]
  | .point x y => .object [("$point", .object [("x", toExchange x), ("y", toExchange y)])]

/-- Writes items in exchange form. -/
def toExchangeItems : List Value → List Json
  | [] => []
  | v :: rest => toExchange v :: toExchangeItems rest

/-- Writes object members in exchange form. -/
def toExchangeMembers : List (String × Value) → List (String × Json)
  | [] => []
  | (k, v) :: rest => (k, toExchange v) :: toExchangeMembers rest

end

end Value

end TableGraph
